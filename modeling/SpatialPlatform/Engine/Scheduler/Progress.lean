import SpatialPlatform.Engine.Scheduler.Runs
import SpatialPlatform.Engine.Task.TopologicalOrder

/-!
# Termination and progress

* `exists_halted` — a run in which every wait for the worker is left ends,
  whatever is cancelled.
* `allTerminal_of_returned` — when `Execute` returns on a graph of at most 10000
  dependency layers, every task is terminal: after `n` rounds the lowest `n`
  layers are.
* `not_threw_of_quiet` — without `Cancel` calls the only exceptions are those of
  `Submit`.
-/

namespace SpatialPlatform.Engine

open SpatialPlatform.Core SpatialPlatform.Lib

/-! ## Ranks

A rank of five numbers, ordered lexicographically, is lowered by every move of
the thread except for a wait that goes on. So `Execute` ends, or waits forever. -/

/-- The thread waits for the worker. -/
def Control.IsWaiting : Control → Prop
  | .task _ _ _ (.await _ _) => True
  | _ => False

/-- How far a dispatch is from its end; a retry goes back to the dispatch. -/
def Phase.rank : Phase → Nat
  | .markFailed true => 11
  | .markPending => 10
  | .dispatch => 9
  | .submit => 8
  | .await _ _ => 7
  | .storeOutput _ | .markFailed false | .recordCancelled => 6
  | .recordSucceeded _ | .cacheHit _ => 5
  | .threadOutputs _ => 4

/-- The attempts that the retry policy leaves to a task. -/
def TaskGraph.attemptsLeft (g : TaskGraph) (id : Uuid) : Nat :=
  ((g.task id).metadata.retry.maxAttempts - (g.task id).metadata.attempts).toNat

/-- Rounds left, position in the round, tasks left in the list, attempts left,
position in the dispatch. -/
def rank (g : TaskGraph) : Control → ℕ ×ₗ ℕ ×ₗ ℕ ×ₗ ℕ ×ₗ ℕ
  | .iterate n => toLex (10000 - n + 1, toLex (2, toLex (0, toLex (0, 0))))
  | .propagate n ids _ => toLex (10000 - n + 1, toLex (1, toLex (ids.length, toLex (0, 0))))
  | .ready n ids _ => toLex (10000 - n + 1, toLex (0, toLex (2 * ids.length, toLex (0, 0))))
  | .task n ids id phase =>
      toLex (10000 - n + 1,
        toLex (0, toLex (2 * ids.length + 1, toLex (g.attemptsLeft id, phase.rank))))
  | .returned | .threw _ => toLex (0, toLex (0, toLex (0, toLex (0, 0))))

/-- Rounds are entered below the limit only. -/
def Control.InRounds : Control → Prop
  | .iterate n => n ≤ 10000
  | .propagate n _ _ | .ready n _ _ | .task n _ _ _ => n < 10000
  | .returned | .threw _ => True

section rank

variable {g g' : TaskGraph} {c c' : Control} {submitted : Option Uuid}

theorem Move.inRounds (h : Move g c g' c' submitted) (hc : c.InRounds) : c'.InRounds := by
  cases h with
  | enter h => exact h
  | again => exact Nat.succ_le_of_lt hc
  | exhaust _ | finish _ | stall | hitCancelled _ | dispatchCancelled _ | refuse _ => trivial
  | _ => exact hc

/-- A retry uses up an attempt. -/
theorem attemptsLeft_countAttempt_lt {id : Uuid}
    (h : (g.task id).metadata.attempts + 1 < (g.task id).metadata.retry.maxAttempts) :
    (g.countAttempt id).attemptsLeft id < g.attemptsLeft id := by
  simp only [TaskGraph.attemptsLeft, TaskGraph.task_countAttempt, if_pos]
  omega

theorem attemptsLeft_countAttempt_le (id : Uuid) :
    (g.countAttempt id).attemptsLeft id ≤ g.attemptsLeft id := by
  simp only [TaskGraph.attemptsLeft, TaskGraph.task_countAttempt, if_pos]
  omega

/-- The event of a failure lowers the rank, retried or not. -/
theorem rank_fail {n : Nat} {ids : List Uuid} {id : Uuid} {produced : List ArtifactRef}
    {missed : Nat} (recoverable : Bool) :
    rank (g.countAttempt id) (.task n ids id (.markFailed (recoverable &&
        (g.task id).metadata.attempts + 1 < (g.task id).metadata.retry.maxAttempts))) <
      rank g (.task n ids id (.await produced missed)) := by
  have hle : (g.countAttempt id).attemptsLeft id ≤ g.attemptsLeft id :=
    attemptsLeft_countAttempt_le id
  generalize hretry : (recoverable &&
    decide ((g.task id).metadata.attempts + 1 < (g.task id).metadata.retry.maxAttempts)) = retry
  cases retry with
  | true =>
      have hlt : (g.countAttempt id).attemptsLeft id < g.attemptsLeft id :=
        attemptsLeft_countAttempt_lt (by simpa using (Bool.and_eq_true_iff.mp hretry).2)
      simp [rank, Prod.Lex.toLex_lt_toLex, hlt]
  | false =>
      simp [rank, Prod.Lex.toLex_lt_toLex, Phase.rank]
      omega

/-- A move of a waiting thread lowers the rank or goes on waiting. -/
theorem Move.rank_of_waiting (h : Move g c g' c' submitted) (hwait : c.IsWaiting) :
    rank g' c' < rank g c ∨ (c'.IsWaiting ∧ rank g' c' = rank g c) := by
  cases h with
  | wait produced' missed' => exact Or.inr ⟨trivial, rfl⟩
  | fail recoverable => exact Or.inl (rank_fail recoverable)
  | complete _ | abandon _ =>
      left
      simp [rank, Prod.Lex.toLex_lt_toLex, Phase.rank, TaskGraph.attemptsLeft]
  | idle hlive => cases c <;> simp_all [Control.isLive, Control.IsWaiting]
  | _ => exact absurd hwait (by simp [Control.IsWaiting])

/-- Every other move inside `Execute` lowers the rank. -/
theorem Move.rank_lt (h : Move g c g' c' submitted) (hround : c.InRounds) (hlive : c.isLive = true)
    (hwait : ¬ c.IsWaiting) : rank g' c' < rank g c := by
  cases h with
  | idle hdead => simp [hdead] at hlive
  | @again n =>
      have hn : n < 10000 := hround
      simp only [rank, Prod.Lex.toLex_lt_toLex]
      omega
  | wait _ _ | complete _ | fail _ | abandon _ => simp [Control.IsWaiting] at hwait
  | _ =>
      simp [rank, Prod.Lex.toLex_lt_toLex, Phase.rank, TaskGraph.attemptsLeft]
      try omega

end rank

/-! ## Every run ends

The rank is well-founded, so a run whose waits are all left comes to an end.
Strong induction on the rank. -/

theorem rank_setState (g : TaskGraph) (id : Uuid) (state : TaskStatus) (c : Control) :
    rank (g.setState id state) c = rank g c := by
  cases c <;> simp [rank, TaskGraph.attemptsLeft]

namespace Scheduler

variable {σ ι : Type} {sched : Scheduler σ ι} {inputs : Nat → StepInput ι} {s₀ : SchedulerState σ}

/-- Every wait of the run for its worker is left. -/
def Responsive (sched : Scheduler σ ι) (inputs : Nat → StepInput ι) (s₀ : SchedulerState σ) :
    Prop :=
  ∀ k, (sched.states inputs s₀ k).control.IsWaiting →
    ∃ j, k ≤ j ∧ ¬ (sched.states inputs s₀ j).control.IsWaiting

theorem states_inRounds (hc : Coherent s₀.graph s₀.control) (h₀ : s₀.control.InRounds) (k : Nat) :
    (sched.states inputs s₀ k).control.InRounds :=
  (states_induct sched inputs (fun _ c => c.InRounds) (fun _ _ _ _ _ _ h hm => hm.inRounds h)
    (fun _ _ _ _ h _ _ => h) hc h₀ k).2

theorem states_coherent (hc : Coherent s₀.graph s₀.control) (k : Nat) :
    Coherent (sched.states inputs s₀ k).graph (sched.states inputs s₀ k).control :=
  (states_induct sched inputs Coherent (fun _ _ _ _ _ h _ hm => hm.coherent h)
    (fun _ _ _ h _ _ hp => h.cancelled hp) hc hc k).1

/-- A step is a move at the rank the state has. -/
theorem exists_move_rank (hc : Coherent s₀.graph s₀.control) (k : Nat) :
    ∃ g submitted, rank g (sched.states inputs s₀ k).control =
        rank (sched.states inputs s₀ k).graph (sched.states inputs s₀ k).control ∧
      Move g (sched.states inputs s₀ k).control (sched.states inputs s₀ (k + 1)).graph
        (sched.states inputs s₀ (k + 1)).control submitted := by
  have hstay : ∀ g c id, Coherent g c →
      (rank g c = rank (sched.states inputs s₀ k).graph c) → id ∈ g.insertionOrder →
      g.status id = .pending →
      rank (g.setState id .cancelled) c = rank (sched.states inputs s₀ k).graph c := by
    intro g c id _ h _ _
    rw [rank_setState, h]
  obtain ⟨g, submitted, _, hrank, hmove, _⟩ :=
    step_cases (inputs k) (states_coherent hc k) rfl hstay
  exact ⟨g, submitted, hrank, hmove⟩

/-- **Termination.** A run in which every wait is left comes to an end. -/
theorem exists_halted (hc : Coherent s₀.graph s₀.control) (h₀ : s₀.control.InRounds)
    (hleave : sched.Responsive inputs s₀) :
    ∃ k, (sched.states inputs s₀ k).control.isLive = false := by
  refine Lib.exists_halted (sched.states inputs s₀) (fun s => rank s.graph s.control)
    (fun s => s.control.IsWaiting) (fun s => s.control.isLive = false) ?_ ?_ hleave
  · intro k hhalt hwait
    obtain ⟨g, submitted, hrank, hmove⟩ := exists_move_rank hc k
    rw [← hrank]
    exact hmove.rank_lt (states_inRounds hc h₀ k) (by simpa using hhalt) hwait
  · intro k hwait
    obtain ⟨g, submitted, hrank, hmove⟩ := exists_move_rank hc k
    rw [← hrank]
    exact hmove.rank_of_waiting hwait

end Scheduler

/-! ## Layer after layer

The invariant that no round is in vain: before round `n` the layers below `n`
are terminal. It is proved move by move; in the middle of a round it is about
the tasks that the pass has visited. -/

section layers

/-- What the rounds have done so far: before round `n` all layers below `n` are
terminal, and inside it so is the layer `n` itself, except for what is still
queued. -/
def Settled (layer : Uuid → Nat) (g : TaskGraph) : Control → Prop
  | .iterate n => ∀ x ∈ g.insertionOrder, layer x < n → (g.status x).isTerminal = true
  | .propagate n ids _ =>
      (∀ x ∈ g.insertionOrder, layer x < n → (g.status x).isTerminal = true) ∧
        ∀ x ∈ g.insertionOrder, layer x ≤ n → x ∉ ids → (g.status x).isTerminal = true ∨
          ∀ d ∈ g.dependencies x, g.status d = .succeeded
  | .ready n ids _ =>
      ∀ x ∈ g.insertionOrder, layer x ≤ n → x ∈ ids ∨ (g.status x).isTerminal = true
  | .task n ids id _ =>
      ∀ x ∈ g.insertionOrder, layer x ≤ n → x ∈ id :: ids ∨ (g.status x).isTerminal = true
  | .returned => ∀ x ∈ g.insertionOrder, layer x < 10000 → (g.status x).isTerminal = true
  | .threw _ => True

variable {layer : Uuid → Nat} {g g' : TaskGraph} {c c' : Control} {submitted : Option Uuid}

/-- A write to the current task leaves the round as it is. -/
theorem Settled.task {n : Nat} {ids : List Uuid} {id : Uuid} {phase phase' : Phase}
    (h : Settled layer g (.task n ids id phase)) (hshape : g'.toTaskShape = g.toTaskShape)
    (hstatus : ∀ x, x ≠ id → g'.status x = g.status x) :
    Settled layer g' (.task n ids id phase') := by
  intro x hx hlayer
  rw [hshape] at hx
  rcases eq_or_ne x id with rfl | hne
  · exact Or.inl List.mem_cons_self
  · rw [hstatus x hne]
    exact h x hx hlayer

/-- The current task has ended. -/
theorem Settled.ready {n : Nat} {ids : List Uuid} {id : Uuid} {phase : Phase} {p : Bool}
    (h : Settled layer g (.task n ids id phase)) (hshape : g'.toTaskShape = g.toTaskShape)
    (hstatus : ∀ x, x ≠ id → g'.status x = g.status x)
    (hend : (g'.status id).isTerminal = true) : Settled layer g' (.ready n ids p) := by
  intro x hx hlayer
  rw [hshape] at hx
  rcases eq_or_ne x id with rfl | hne
  · exact Or.inr hend
  · rw [hstatus x hne]
    exact (h x hx hlayer).imp_left fun hmem => (List.mem_cons.mp hmem).resolve_left hne

/-- A layer is settled once its tasks have been visited by `PropagateFailures`:
their dependencies are terminal, so one of them has failed or all have
succeeded. -/
theorem terminal_or_eligible (hlayer : g.IsLayering layer) {n : Nat} {x : Uuid}
    (hnone : NoneRunning g) (hx : x ∈ g.insertionOrder) (hxn : layer x ≤ n)
    (hbelow : ∀ y ∈ g.insertionOrder, layer y < n → (g.status y).isTerminal = true)
    (hpass : g.dependencyFailed x = false) :
    (g.status x).isTerminal = true ∨ ∀ d ∈ g.dependencies x, g.status d = .succeeded := by
  rcases hst : (g.status x).isTerminal with _ | _
  · right
    intro d hd
    have hpending : g.status x = .pending :=
      (TaskStatus.isTerminal_eq_false_iff.mp hst).resolve_right (hnone x hx)
    have hterm := hbelow d (g.mem_of_dependency x d hd).2
      (Nat.lt_of_lt_of_le (hlayer x d hd) hxn)
    by_contra hne
    have hfailed : g.dependencyFailed x = true :=
      TaskGraph.dependencyFailed_iff.mpr ⟨hpending, d, hd, hterm, hne⟩
    simp [hfailed] at hpass
  · exact Or.inl rfl

/-- Making a pending task terminal keeps what `PropagateFailures` has achieved. -/
theorem Settled.setState_of_pending {id : Uuid} {state : TaskStatus} (h : Settled layer g c)
    (hpending : g.status id = .pending) (hstate : state.isTerminal = true) :
    Settled layer (g.setState id state) c := by
  have hterm : ∀ x, (g.status x).isTerminal = true →
      ((g.setState id state).status x).isTerminal = true := by
    intro x hx
    rw [TaskGraph.status_setState]
    split
    · exact hstate
    · exact hx
  have hdeps : ∀ x, (∀ d ∈ g.dependencies x, g.status d = .succeeded) →
      ∀ d ∈ g.dependencies x, (g.setState id state).status d = .succeeded := by
    intro x hx d hd
    have hne : d ≠ id := fun heq => by simpa [heq ▸ hpending] using hx d hd
    rw [TaskGraph.status_setState, if_neg hne]
    exact hx d hd
  cases c with
  | iterate n => exact fun x hx hlt => hterm x (h x hx hlt)
  | propagate n ids p =>
      exact ⟨fun x hx hlt => hterm x (h.1 x hx hlt),
        fun x hx hle hnot => (h.2 x hx hle hnot).imp (hterm x) (hdeps x)⟩
  | ready n ids p => exact fun x hx hle => (h x hx hle).imp_right (hterm x)
  | task n ids y phase => exact fun x hx hle => (h x hx hle).imp_right (hterm x)
  | returned => exact fun x hx hlt => hterm x (h x hx hlt)
  | threw e => trivial

theorem Move.settled (hlayer : g.IsLayering layer) (h : Move g c g' c' submitted)
    (hc : Coherent g c) (hs : Settled layer g c) : Settled layer g' c' := by
  have hother : ∀ {id : Uuid} {state : TaskStatus} (x : Uuid), x ≠ id →
      (g.setState id state).status x = g.status x := by
    intro id state x hne
    rw [TaskGraph.status_setState, if_neg hne]
  have hother' : ∀ {id : Uuid} {state : TaskStatus} {outputs : List ArtifactRef} (x : Uuid),
      x ≠ id → ((g.setOutputs id outputs).setState id state).status x = g.status x := by
    intro id state outputs x hne
    rw [TaskGraph.status_setState, if_neg hne, TaskGraph.status_setOutputs]
  cases h with
  | enter _ => exact ⟨hs, fun x hx _ hnot => absurd hx hnot⟩
  | exhaust hn => exact fun x hx hlt => hs x hx (by omega)
  | @propagate n id ids p hfailed =>
      have hpending := (TaskGraph.dependencyFailed_iff.mp hfailed).1
      have hs' := hs.setState_of_pending hpending
        (FailurePolicy.isTerminal_status (g.task id).metadata.failure)
      refine ⟨hs'.1, fun x hx hle hnot => ?_⟩
      rcases eq_or_ne x id with rfl | hne
      · left
        simp
      · exact hs'.2 x hx hle (by simp [hne, hnot])
  | @pass n id ids p hpass =>
      refine ⟨hs.1, fun x hx hle hnot => ?_⟩
      rcases eq_or_ne x id with rfl | hne
      · -- what the pass leaves alone has ended, or all its dependencies have succeeded
        exact terminal_or_eligible hlayer hc.1 hx hle hs.1 hpass
      · exact hs.2 x hx hle (by simp [hne, hnot])
  | finish hall => exact fun x hx _ => TaskGraph.allTerminal_iff.mp hall x hx
  | snapshot _ =>
      intro x hx hle
      rcases hs.2 x hx hle List.not_mem_nil with hterm | hdeps
      · exact Or.inr hterm
      · rcases hst : (g.status x).isTerminal with _ | _
        · left
          have hpending := (TaskStatus.isTerminal_eq_false_iff.mp hst).resolve_right (hc.1 x hx)
          exact TaskGraph.mem_readyTasks.mpr ⟨hx, hpending, hdeps⟩
        · exact Or.inr rfl
  | again =>
      intro x hx hlt
      -- all ready tasks of the round have ended
      exact (hs x hx (Nat.le_of_lt_succ hlt)).resolve_left List.not_mem_nil
  | stall | hitCancelled _ | dispatchCancelled _ | refuse _ => trivial
  | miss => exact hs
  | @hit n id ids p output hpending =>
      intro x hx hle
      rcases eq_or_ne x id with rfl | hne
      · exact Or.inl List.mem_cons_self
      · rw [hother x hne]
        exact hs x hx hle
  | replay _ | complete _ | abandon _ => exact hs.task rfl hother'
  | dispatch _ | markFailed _ | retry _ => exact hs.task rfl hother
  | submit _ | wait _ _ | stored | recorded => exact hs
  | fail _ => exact hs.task rfl fun x _ => TaskGraph.status_countAttempt g _ x
  | thread =>
      have hdone : g.status _ = .succeeded := hc.1
      exact hs.ready (by simp) (fun x _ => by simp) (by simp [hdone])
  | giveUp _ => exact hs.ready rfl hother (by simp)
  | recordedCancelled =>
      have hdone : g.status _ = .cancelled := hc.1
      exact hs.ready rfl (fun x _ => rfl) (by simp [hdone])
  | idle _ => exact hs

end layers

/-! ## No stall

A round that finds nothing to do ends the loop with an exception. In an acyclic
graph a lowest open task can always be dispatched or given up, so that exception
does not occur; the one of `Submit` is left. -/

section stall

variable {g g' : TaskGraph} {c c' : Control} {submitted : Option Uuid}

/-- A round that has done nothing yet will still do something. -/
def Unblocked (g : TaskGraph) : Control → Prop
  | .propagate _ ids false =>
      (∃ x ∈ ids, g.dependencyFailed x = true) ∨ g.readyTasks ≠ [] ∨ g.allTerminal = true
  | .ready _ ids false => ids ≠ []
  | _ => True

/-- No task about to be dispatched has been cancelled. -/
def Uncancelled (g : TaskGraph) : Control → Prop
  | .ready _ ids _ => ∀ x ∈ ids, g.status x = .pending
  | .task _ ids id phase =>
      (∀ x ∈ ids, g.status x = .pending) ∧ (phase = .dispatch → g.status id = .pending)
  | _ => True

/-- In an acyclic graph without running tasks there is something to do, or
nothing is left: a lowest task that is not terminal has terminal dependencies. -/
theorem exists_work (hacyclic : g.Acyclic) (hnone : NoneRunning g) :
    (∃ x ∈ g.insertionOrder, g.dependencyFailed x = true) ∨ g.readyTasks ≠ [] ∨
      g.allTerminal = true := by
  obtain ⟨layer, hlayer⟩ := hacyclic
  have hwork : ∀ m, ∀ x ∈ g.insertionOrder, layer x = m → (g.status x).isTerminal = false →
      ∃ y ∈ g.insertionOrder, g.dependencyFailed y = true ∨ y ∈ g.readyTasks := by
    intro m
    -- down the layers, until a task has only dependencies that have ended
    induction m using Nat.strongRecOn with
    | _ m ih =>
        intro x hx hxm hopen
        have hpending := (TaskStatus.isTerminal_eq_false_iff.mp hopen).resolve_right (hnone x hx)
        by_cases hdeps : ∀ d ∈ g.dependencies x, (g.status d).isTerminal = true
        · refine ⟨x, hx, ?_⟩
          rcases hfail : g.dependencyFailed x with _ | _
          · right
            refine TaskGraph.mem_readyTasks.mpr ⟨hx, hpending, fun d hd => ?_⟩
            by_contra hne
            have hfailed : g.dependencyFailed x = true :=
              TaskGraph.dependencyFailed_iff.mpr ⟨hpending, d, hd, hdeps d hd, hne⟩
            simp [hfail] at hfailed
          · exact Or.inl rfl
        · obtain ⟨d, hd, hdopen⟩ : ∃ d ∈ g.dependencies x, ¬ (g.status d).isTerminal = true := by
            simpa using hdeps
          exact ih (layer d) (hxm ▸ hlayer x d hd) d (g.mem_of_dependency x d hd).2 rfl
            (by simpa using hdopen)
  rcases hall : g.allTerminal with _ | _
  · obtain ⟨x, hx, hopen⟩ : ∃ x ∈ g.insertionOrder, (g.status x).isTerminal = false := by
      simpa [TaskGraph.allTerminal] using hall
    obtain ⟨y, hy, hfail | hready⟩ := hwork _ x hx rfl hopen
    · exact Or.inl ⟨y, hy, hfail⟩
    · exact Or.inr (Or.inl (List.ne_nil_of_mem hready))
  · exact Or.inr (Or.inr rfl)

theorem Move.unblocked (hacyclic : g.Acyclic) (h : Move g c g' c' submitted) (hc : Coherent g c)
    (hb : Unblocked g c) : Unblocked g' c' := by
  cases h with
  | enter _ => exact exists_work hacyclic hc
  | @pass n id ids p hpass =>
      cases p with
      | true => trivial
      | false =>
          refine hb.imp_left fun ⟨x, hx, hfail⟩ => ⟨x, ?_, hfail⟩
          rcases List.mem_cons.mp hx with rfl | hx
          · simp [hpass] at hfail
          · exact hx
  | @snapshot n p hall =>
      cases p with
      | true => trivial
      | false => exact (hb.resolve_left (by simp)).resolve_right (by simp [hall])
  | idle _ => exact hb
  | _ => trivial

theorem Move.uncancelled (h : Move g c g' c' submitted) (hc : Coherent g c)
    (hu : Uncancelled g c) : Uncancelled g' c' := by
  -- a mark of the current task says nothing about the queue
  have hrest : ∀ {n ids id phase} {state : TaskStatus},
      Coherent g (.task n ids id phase) → Uncancelled g (.task n ids id phase) →
      ∀ x ∈ ids, (g.setState id state).status x = .pending := by
    intro n ids id phase state hc hu x hx
    have hne : x ≠ id := fun heq => hc.2.2.2.1 (heq ▸ hx)
    rw [TaskGraph.status_setState, if_neg hne]
    exact hu.1 x hx
  cases h with
  | snapshot _ => exact fun x hx => (TaskGraph.mem_readyTasks.mp hx).2.1
  | miss =>
      exact ⟨fun x hx => hu x (List.mem_cons_of_mem _ hx), fun _ => hu _ List.mem_cons_self⟩
  | @hit n id ids p output hpending =>
      refine ⟨fun x hx => ?_, by simp⟩
      have hne : x ≠ id := fun heq => (List.nodup_cons.mp hc.2.nodup).1 (heq ▸ hx)
      rw [TaskGraph.status_setState, if_neg hne]
      exact hu x (List.mem_cons_of_mem _ hx)
  | replay _ | complete _ | abandon _ =>
      refine ⟨fun x hx => ?_, by simp⟩
      simpa using hrest hc hu x hx
  | dispatch _ | markFailed _ => exact ⟨hrest hc hu, by simp⟩
  | retry _ => exact ⟨hrest hc hu, by simp⟩
  | submit _ | wait _ _ | stored | recorded => exact ⟨hu.1, by simp⟩
  | fail _ =>
      refine ⟨fun x hx => ?_, by simp⟩
      rw [TaskGraph.status_countAttempt]
      exact hu.1 x hx
  | thread =>
      intro x hx
      rw [TaskGraph.status_threadOutputsToDependents]
      exact hu.1 x hx
  | giveUp _ => exact hrest hc hu
  | recordedCancelled => exact hu.1
  | idle _ => exact hu
  | _ => trivial

/-- The only exception left is the one of `Submit`. -/
theorem Move.threw_of_refused {error : ProjectError} (h : Move g c g' (.threw error) submitted)
    (hlive : c.isLive = true) (hb : Unblocked g c) (hu : Uncancelled g c) :
    ∃ n ids id, c = .task n ids id .submit := by
  cases h with
  | stall => exact absurd rfl hb
  | @hitCancelled n id ids p hcancelled =>
      have hpending := hu id List.mem_cons_self
      simp [hcancelled] at hpending
  | dispatchCancelled hcancelled =>
      have hpending := hu.2 rfl
      simp [hcancelled] at hpending
  | refuse error => exact ⟨_, _, _, rfl⟩
  | idle hdead => simp [hdead] at hlive

end stall

/-! ## Runs -/

namespace Scheduler

variable {σ ι : Type} {sched : Scheduler σ ι} {inputs : Nat → StepInput ι} {s₀ : SchedulerState σ}

theorem states_toTaskShape (hc : Coherent s₀.graph s₀.control) (k : Nat) :
    (sched.states inputs s₀ k).graph.toTaskShape = s₀.graph.toTaskShape := by
  have hinv := states_induct sched inputs (fun g _ => g.toTaskShape = s₀.graph.toTaskShape)
    (fun g c g' c' _ _ h hm => hm.toTaskShape.trans h) (fun g c id _ h _ _ => h) hc rfl k
  exact hinv.2

/-- **All terminal.** `Execute` returns only when every task is terminal, if
there are at most as many dependency layers as rounds. -/
theorem allTerminal_of_returned (hc : Coherent s₀.graph s₀.control)
    (h₀ : s₀.control = .iterate 0) (hlayers : s₀.graph.Layered 10000) {k : Nat}
    (hret : (sched.states inputs s₀ k).control = .returned) :
    ∀ x ∈ s₀.graph.insertionOrder,
      ((sched.states inputs s₀ k).graph.status x).isTerminal = true := by
  obtain ⟨layer, hlayer, hbound⟩ := hlayers
  have hstart : Settled layer s₀.graph s₀.control := by
    rw [h₀]
    intro x _ hlt
    omega
  have hinv := states_induct sched inputs
    (fun g c => g.toTaskShape = s₀.graph.toTaskShape ∧ Settled layer g c) ?_ ?_ hc
    ⟨rfl, hstart⟩ k
  · obtain ⟨_, hshape, hsettled⟩ := hinv
    rw [hret] at hsettled
    intro x hx
    exact hsettled x (hshape ▸ hx) (hbound x hx)
  · intro g c g' c' _ hcg ⟨hshape, hs⟩ hm
    refine ⟨hm.toTaskShape.trans hshape, hm.settled ?_ hcg hs⟩
    unfold TaskShape.IsLayering
    rw [hshape]
    exact hlayer
  · intro g c id _ ⟨hshape, hs⟩ _ hpending
    exact ⟨hshape, hs.setState_of_pending hpending rfl⟩

/-! ## Runs without `Cancel`

Everything together: the rank ends the run, and without the two exceptions it
ends normally. -/

/-- A run that ends has left all its waits. -/
theorem responsive_of_dead (hquiet : ∀ k, (inputs k).cancels = []) {j : Nat}
    (hdead : (sched.states inputs s₀ j).control.isLive = false) : sched.Responsive inputs s₀ := by
  intro k _
  refine ⟨max k j, Nat.le_max_left k j, fun hwait => ?_⟩
  rw [states_eq_of_dead hquiet (Nat.le_max_right k j) hdead] at hwait
  cases hcontrol : (sched.states inputs s₀ j).control with
  | task n ids id phase => simp [hcontrol, Control.isLive] at hdead
  | _ => simp [hcontrol, Control.IsWaiting] at hwait

/-- No `Cancel` arrives. -/
def Quiet (inputs : Nat → StepInput ι) : Prop := ∀ k, (inputs k).cancels = []

/-- `Submit` never throws. -/
def Accepted (sched : Scheduler σ ι) (inputs : Nat → StepInput ι) (s₀ : SchedulerState σ) : Prop :=
  ∀ k n ids id, (sched.states inputs s₀ k).control = .task n ids id .submit →
    ∃ executor, sched.executor.submit (sched.states inputs s₀ k).executor (inputs k).worker
      ((sched.states inputs s₀ k).graph.request (sched.states inputs s₀ k).runPipelineHash id) =
        .ok executor

theorem states_succ_of_quiet (hquiet : Quiet inputs) (k : Nat) :
    sched.states inputs s₀ (k + 1) = sched.advance (inputs k) (sched.states inputs s₀ k) := by
  rw [states_succ, step, hquiet k, List.foldl_nil]

variable (sched) in
theorem moves_of_quiet (hquiet : Quiet inputs) (hc : Coherent s₀.graph s₀.control) (k : Nat) :
    (sched.states inputs s₀ k).Moves (sched.states inputs s₀ (k + 1)) := by
  rw [states_succ_of_quiet hquiet]
  exact sched.advance_moves (inputs k) (states_coherent hc k)

variable (sched) in
theorem unblocked_of_quiet (hquiet : Quiet inputs) (hc : Coherent s₀.graph s₀.control)
    (h₀ : s₀.control = .iterate 0) (hacyclic : s₀.graph.Acyclic) (k : Nat) :
    Unblocked (sched.states inputs s₀ k).graph (sched.states inputs s₀ k).control ∧
      Uncancelled (sched.states inputs s₀ k).graph (sched.states inputs s₀ k).control := by
  induction k with
  | zero => simp [h₀, Unblocked, Uncancelled]
  | succ k ih =>
      obtain ⟨submitted, hmove, _⟩ := moves_of_quiet sched hquiet hc k
      have hck : Coherent (sched.states inputs s₀ k).graph _ := states_coherent hc k
      have hshape : (sched.states inputs s₀ k).graph.toTaskShape = _ := states_toTaskShape hc k
      exact ⟨hmove.unblocked (hshape ▸ hacyclic) hck ih.1, hmove.uncancelled hck ih.2⟩

/-- Without cancellations and refused submissions no exception leaves `Execute`. -/
theorem not_threw_of_quiet (hquiet : Quiet inputs) (hc : Coherent s₀.graph s₀.control)
    (h₀ : s₀.control = .iterate 0) (hacyclic : s₀.graph.Acyclic)
    (haccepts : sched.Accepted inputs s₀) (k : Nat) (error : ProjectError) :
    (sched.states inputs s₀ k).control ≠ .threw error := by
  induction k generalizing error with
  | zero => simp [h₀]
  | succ k ih =>
      intro hthrew
      obtain ⟨submitted, hmove, _⟩ := moves_of_quiet sched hquiet hc k
      obtain ⟨hb, hu⟩ := unblocked_of_quiet sched hquiet hc h₀ hacyclic k
      rw [hthrew] at hmove
      have hlive : (sched.states inputs s₀ k).control.isLive = true := by
        cases hcontrol : (sched.states inputs s₀ k).control with
        | threw e => exact absurd hcontrol (ih e)
        | returned =>
            rw [hcontrol] at hmove
            exact absurd (hmove.eq_of_dead rfl).2 (by simp)
        | _ => rfl
      obtain ⟨n, ids, id, hcontrol⟩ := hmove.threw_of_refused hlive hb hu
      obtain ⟨executor, hexecutor⟩ := haccepts k n ids id hcontrol
      rw [states_succ_of_quiet hquiet] at hthrew
      simp only [advance, hcontrol, dispatchAndAwait, hexecutor] at hthrew
      cases hthrew

/-- **Normal end.** Without cancellations, with submissions accepted and waits
left, `Execute` returns. -/
theorem exists_returned_of_quiet (hquiet : Quiet inputs) (hc : Coherent s₀.graph s₀.control)
    (h₀ : s₀.control = .iterate 0) (hacyclic : s₀.graph.Acyclic)
    (haccepts : sched.Accepted inputs s₀) (hleave : sched.Responsive inputs s₀) :
    ∃ k, (sched.states inputs s₀ k).control = .returned := by
  obtain ⟨k, hk⟩ := exists_halted hc (by simp [h₀, Control.InRounds]) hleave
  refine ⟨k, ?_⟩
  cases hcontrol : (sched.states inputs s₀ k).control with
  | returned => rfl
  | threw error => exact absurd hcontrol (not_threw_of_quiet hquiet hc h₀ hacyclic haccepts k error)
  | _ => simp [hcontrol, Control.isLive] at hk

end Scheduler

end SpatialPlatform.Engine
