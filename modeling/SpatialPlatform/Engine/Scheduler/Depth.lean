import SpatialPlatform.Engine.Scheduler.Semantics
import SpatialPlatform.Engine.Task.Calls

/-!
# The rounds of `Execute` and the depth of the graph

`Execute` stops after 10000 rounds and then returns whatever the tasks are. One
round dispatches one layer of a dependency chain, and one pass of
`PropagateFailures` goes down a chain as long as it follows the insertion order.
So a run may return with tasks still open exactly when a chain of tasks that
have not started is longer than 10000 and no earlier failure comes down to its
end in time.

* `endsWell_of_fits` — enough rounds: what is settled after `n` rounds, in any
  run.
* `fits_of_endsWell` — with a worker that completes every task, no round settles
  more than that.
-/

namespace SpatialPlatform.Engine

open SpatialPlatform.Core

/-! ## Depth

A graph may need a round for each task of a dependency chain, or fewer if a
failure comes down the chain. `FailsIn` counts the rounds of a failure, `FitsIn`
compares the two. -/

/-- The task has ended otherwise than succeeded. -/
def Lost (g : TaskGraph) (x : Uuid) : Prop :=
  (g.status x).isTerminal = true ∧ g.status x ≠ .succeeded

namespace TaskGraph

/-- A dependency chain of `m` tasks that have not started, the last of them `x`. -/
inductive PendingChain (g : TaskGraph) : Nat → Uuid → Prop
  | single {x} (hx : g.status x = .pending) : PendingChain g 1 x
  | extend {m d x} (h : PendingChain g m d) (hd : d ∈ g.dependencies x)
      (hx : g.status x = .pending) : PendingChain g (m + 1) x

/-- A failure that was there before the run comes down to `x` in round `m`:
within one pass of `PropagateFailures` while the chain follows the insertion
order, in the next pass where it does not. -/
inductive FailsIn (g : TaskGraph) : Nat → Uuid → Prop
  | root {d x} (h : Lost g d) (hd : d ∈ g.dependencies x) (hx : g.status x = .pending) :
      FailsIn g 0 x
  | behind {m d x} (h : FailsIn g m d) (hd : d ∈ g.dependencies x) (hx : g.status x = .pending)
      (horder : g.insertionOrder.idxOf d < g.insertionOrder.idxOf x) : FailsIn g m x
  | ahead {m d x} (h : FailsIn g m d) (hd : d ∈ g.dependencies x)
      (hx : g.status x = .pending) : FailsIn g (m + 1) x

/-- A failure comes down in time to every chain that is too long for `n` rounds. -/
def FitsIn (g : TaskGraph) (n : Nat) : Prop :=
  ∀ x, g.PendingChain (n + 1) x → ∃ m < n, g.FailsIn m x

variable {g : TaskGraph} {x : Uuid} {m n : Nat}

theorem PendingChain.pending (h : g.PendingChain m x) : g.status x = .pending := by
  cases h with
  | single hx => exact hx
  | extend _ _ hx => exact hx

/-- The end of a chain is a chain. -/
theorem PendingChain.shorten (h : g.PendingChain m x) {k : Nat} (hk : 0 < k) (hkm : k ≤ m) :
    g.PendingChain k x := by
  induction h generalizing k with
  | single hx =>
      obtain rfl : k = 1 := by omega
      exact .single hx
  | @extend m d x h hd hx ih =>
      match k, hk with
      | 1, _ => exact .single hx
      | k + 2, _ => exact .extend (ih (Nat.succ_pos k) (by omega)) hd hx

/-- Where a chain cannot reach, a longer one cannot. -/
theorem not_chain_mono (h : ¬ g.PendingChain (m + 1) x) (hmn : m ≤ n) :
    ¬ g.PendingChain (n + 1) x :=
  fun hchain => h (hchain.shorten (Nat.succ_pos m) (Nat.succ_le_succ hmn))

/-- One step down the graph. -/
theorem not_chain_of_dependencies (hdeps : ∀ d ∈ g.dependencies x, ¬ g.PendingChain (n + 1) d) :
    ¬ g.PendingChain (n + 2) x := by
  intro h
  cases h with
  | extend hchain hd _ => exact hdeps _ hd hchain

theorem not_chain_of_mem (h : ¬ g.PendingChain (n + 2) x) {d : Uuid} (hd : d ∈ g.dependencies x)
    (hx : g.status x = .pending) : ¬ g.PendingChain (n + 1) d :=
  fun hchain => h (.extend hchain hd hx)

theorem FailsIn.pending (h : g.FailsIn m x) : g.status x = .pending := by
  cases h with
  | root _ _ hx => exact hx
  | behind _ _ hx _ => exact hx
  | ahead _ _ hx => exact hx

end TaskGraph

/-! ## What was there before the run

A run may begin with tasks that have ended. They are left alone, so chains of
open tasks and failures from before the run are those of the graph that the run
began with. -/

section moves

variable {g₀ g g' : TaskGraph} {c c' : Control} {label : Option Uuid} {x : Uuid}

/-- Only the retry of a task takes an end back. -/
theorem Move.lost (h : Move g c g' c' label) (hx : Lost g x) (hretry : ¬ c.Retries x) :
    Lost g' x := by
  have hother : ∀ {id : Uuid} {state : TaskStatus}, g.status id ≠ g.status x →
      Lost (g.setState id state) x := by
    intro id state hne
    have hxid : x ≠ id := fun heq => hne (by rw [heq])
    simpa [Lost, hxid] using hx
  have hother' : ∀ {id : Uuid} {state : TaskStatus} {outputs : List ArtifactRef},
      g.status id = .running → Lost ((g.setOutputs id outputs).setState id state) x := by
    intro id state outputs hrun
    have hxid : x ≠ id := by
      rintro rfl
      simp [Lost, hrun] at hx
    simpa [Lost, hxid] using hx
  have hpending : ∀ {id : Uuid}, g.status id = .pending → g.status id ≠ g.status x := by
    intro id hid heq
    simp [Lost, ← heq, hid] at hx
  have hrunning : ∀ {id : Uuid}, g.status id = .running → g.status id ≠ g.status x := by
    intro id hid heq
    simp [Lost, ← heq, hid] at hx
  cases h with
  | propagate hfailed => exact hother (hpending (TaskGraph.dependencyFailed_iff.mp hfailed).1)
  | hit _ hp | dispatch hp => exact hother (hpending hp)
  | replay hrun | complete hrun | abandon hrun => exact hother' hrun
  | fail _ => simpa [Lost] using hx
  | thread => simpa [Lost] using hx
  | markFailed hrun | giveUp hrun => exact hother (hrunning hrun)
  | @retry n id ids _ =>
      have hxid : x ≠ id := by
        rintro rfl
        exact hretry ⟨n, ids, rfl⟩
      simpa [Lost, hxid] using hx
  | _ => exact hx

/-- Only the current task succeeds. -/
theorem Move.succeeds (h : Move g c g' c' label) (hx : g'.status x = .succeeded) :
    g.status x = .succeeded ∨ ∃ n ids phase, c = .task n ids x phase := by
  have hother : ∀ {id : Uuid} {state : TaskStatus}, state ≠ .succeeded →
      (g.setState id state).status x = .succeeded → g.status x = .succeeded := by
    intro id state hne hst
    rw [TaskGraph.status_setState] at hst
    split at hst
    · exact absurd hst hne
    · exact hst
  cases h with
  | @propagate n id ids p _ =>
      left
      apply hother _ hx
      cases (g.task id).metadata.failure <;> simp [FailurePolicy.status]
  | hit _ _ | dispatch _ => exact .inl (hother (by simp) hx)
  | @replay n id ids | @complete n id ids | @abandon n id ids =>
      rcases eq_or_ne x id with rfl | hne
      · exact .inr ⟨_, _, _, rfl⟩
      · left
        simpa [hne] using hx
  | markFailed _ | giveUp _ | retry _ => exact .inl (hother (by simp) hx)
  | fail _ | thread => exact .inl (by simpa using hx)
  | _ => exact .inl hx

/-- The tasks that had ended before the run are left alone. -/
structure Frozen (g₀ g : TaskGraph) (c : Control) : Prop where
  shape : g.toTaskShape = g₀.toTaskShape
  succeeded : ∀ x, g₀.status x = .succeeded → g.status x = .succeeded
  lost : ∀ x, Lost g₀ x → Lost g x
  /-- A cancelled task may come to the head of the dispatch loop, where it is refused. -/
  idle : ∀ x, Lost g₀ x → ∀ n ids phase, c = .task n ids x phase → phase = .dispatch

theorem Frozen.not_retries (h : Frozen g₀ g c) (hx : Lost g₀ x) : ¬ c.Retries x := by
  intro hretry
  obtain ⟨n, ids, hc⟩ := hretry
  cases h.idle x hx n ids _ hc

theorem Frozen.start : Frozen g g (.iterate 0) :=
  ⟨rfl, fun _ hx => hx, fun _ hx => hx, by simp⟩

theorem Move.frozen (hm : Move g c g' c' label) (h : Frozen g₀ g c) : Frozen g₀ g' c' where
  shape := hm.toTaskShape.trans h.shape
  succeeded x hx := hm.succeeded (h.succeeded x hx)
  lost x hx := hm.lost (h.lost x hx) (h.not_retries hx)
  idle x hx n ids phase hc := by
    obtain ⟨hterm, _⟩ := h.lost x hx
    cases hm with
    | miss =>
        cases hc
        rfl
    | hit _ hp =>
        cases hc
        simp [hp] at hterm
    | dispatch hp =>
        cases hc
        cases h.idle x hx _ _ _ rfl
        simp [hp] at hterm
    | idle _ => exact h.idle x hx n ids phase hc
    | replay _ | submit _ | wait _ _ | complete _ | fail _ | abandon _ | stored | recorded
    | markFailed _ | retry _ =>
        cases hc
        cases h.idle x hx _ _ _ rfl
    | _ => cases hc

theorem Frozen.cancelled {id : Uuid} (h : Frozen g₀ g c) (hpending : g.status id = .pending) :
    Frozen g₀ (g.setState id .cancelled) c where
  shape := h.shape
  succeeded x hx := by
    have hne : x ≠ id := by
      rintro rfl
      simp [h.succeeded x hx] at hpending
    simpa [hne] using h.succeeded x hx
  lost x hx := by
    have hne : x ≠ id := by
      rintro rfl
      simpa [Lost, hpending] using h.lost x hx
    simpa [Lost, hne] using h.lost x hx
  idle := h.idle

/-- What is open during the run was open before it. -/
theorem Frozen.pending (h : Frozen g₀ g c) (hnone : NoneRunning g₀) (hx : x ∈ g.insertionOrder)
    (hopen : g.status x = .pending) : g₀.status x = .pending := by
  have hx₀ : x ∈ g₀.insertionOrder := h.shape ▸ hx
  cases hst : g₀.status x with
  | pending => rfl
  | running => exact absurd hst (hnone x hx₀)
  | succeeded => simp [h.succeeded x hst] at hopen
  | failed | cancelled | skipped =>
      have hlost := h.lost x (by simp [Lost, hst])
      simp [Lost, hopen] at hlost

end moves

/-! ## Enough rounds

The invariant `Settles` says at each position which tasks have ended by then. A
round ends what no longer chain keeps open; within the round the pass over the
tasks is followed task by task, since a failure comes down as far as the
insertion order lets it. -/

/-- Tasks that no chain keeps open for `n` rounds have ended unless they are
queued, and failures that come down in fewer rounds have come down. -/
structure SettledExcept (g₀ g : TaskGraph) (n : Nat) (queue : List Uuid) : Prop where
  ended : ∀ x ∈ g₀.insertionOrder, ¬ g₀.PendingChain (n + 1) x →
    x ∈ queue ∨ (g.status x).isTerminal = true
  failed : ∀ m < n, ∀ x, g₀.FailsIn m x → Lost g x

/-- What is settled when the thread stands at a position, whatever the workers do. -/
def SettledAt (g₀ g : TaskGraph) : Control → Prop
  | .iterate n => SettledExcept g₀ g n []
  | .propagate n ids _ => ids <:+ g₀.insertionOrder ∧ SettledExcept g₀ g n [] ∧
      (∀ x ∈ g₀.insertionOrder, ¬ g₀.PendingChain (n + 2) x → x ∉ ids →
        (g.status x).isTerminal = true ∨ ∀ d ∈ g₀.dependencies x, g.status d = .succeeded) ∧
      ∀ x, g₀.FailsIn n x → x ∉ ids → Lost g x
  | .ready n ids _ => SettledExcept g₀ g (n + 1) ids
  | .task n ids id _ => SettledExcept g₀ g (n + 1) (id :: ids)
  | .returned => ∀ x ∈ g₀.insertionOrder,
      (¬ g₀.PendingChain 10001 x ∨ ∃ m < 10000, g₀.FailsIn m x) → (g.status x).isTerminal = true
  | .threw _ => True

/-- The invariant of a run from `g₀`. -/
structure Settles (g₀ g : TaskGraph) (c : Control) : Prop extends Frozen g₀ g c where
  /-- What a failure comes down to never succeeds. -/
  doomed : ∀ m x, g₀.FailsIn m x → g.status x ≠ .succeeded
  settled : SettledAt g₀ g c

section settling

variable {g₀ g g' : TaskGraph} {c c' : Control} {label : Option Uuid} {x : Uuid} {m n : Nat}

/-- What a failure comes down to is never dispatched. -/
theorem Settles.not_eligible (h : Settles g₀ g c) (hx : g₀.FailsIn m x) : ¬ Eligible g x := by
  intro heligible
  have hdone : ∀ d ∈ g₀.dependencies x, g.status d = .succeeded := by
    intro d hd
    exact heligible.2 d (h.shape ▸ hd)
  cases hx with
  | root hlost hd _ => exact (h.lost _ hlost).2 (hdone _ hd)
  | behind hfails hd _ _ => exact h.doomed _ _ hfails (hdone _ hd)
  | ahead hfails hd _ => exact h.doomed _ _ hfails (hdone _ hd)

/-- A failure that comes down to `x` in this round has reached a dependency of
`x` when the pass comes to `x`. -/
theorem exists_lost_dependency {ids : List Uuid} {p : Bool}
    (h : Settles g₀ g (.propagate n (x :: ids) p)) (hx : g₀.FailsIn n x) :
    ∃ d ∈ g₀.dependencies x, Lost g d := by
  obtain ⟨hsuffix, hbefore, _, hpass⟩ := h.settled
  cases hx with
  | @root d _ hlost hd _ => exact ⟨d, hd, h.lost d hlost⟩
  | @behind _ d _ hfails hd _ horder =>
      have hmem := (g₀.mem_of_dependency x d hd).2
      exact ⟨d, hd, hpass d hfails ((TaskShape.idxOf_lt_iff hsuffix hmem).mp horder)⟩
  | @ahead m d _ hfails hd _ => exact ⟨d, hd, hbefore.failed m (Nat.lt_succ_self m) d hfails⟩

theorem Settles.not_retries (h : Settles g₀ g c) (hc : Coherent g c) (hx : g₀.FailsIn m x) :
    ¬ c.Retries x := by
  intro hretry
  obtain ⟨n, ids, rfl⟩ := hretry
  exact h.not_eligible hx hc.2.2.1

/-- A move keeps what is settled of the tasks it does not touch. -/
theorem SettledExcept.move {queue queue' : List Uuid} (h : SettledExcept g₀ g n queue)
    (hended : ∀ x ∈ g₀.insertionOrder, x ∈ queue ∨ (g.status x).isTerminal = true →
      x ∈ queue' ∨ (g'.status x).isTerminal = true)
    (hfailed : ∀ m x, g₀.FailsIn m x → Lost g x → Lost g' x) :
    SettledExcept g₀ g' n queue' where
  ended x hx hchain := hended x hx (h.ended x hx hchain)
  failed m hm x hx := hfailed m x hx (h.failed m hm x hx)

/-- All dependencies of a task that no chain keeps open longer have ended, so
one of them has failed or all have succeeded. -/
theorem terminal_or_succeeded (hnone₀ : NoneRunning g₀) (hf : Frozen g₀ g c) (hnone : NoneRunning g)
    (hs : SettledExcept g₀ g n []) (hx : x ∈ g₀.insertionOrder)
    (hchain : ¬ g₀.PendingChain (n + 2) x) (hpass : g.dependencyFailed x = false) :
    (g.status x).isTerminal = true ∨ ∀ d ∈ g₀.dependencies x, g.status d = .succeeded := by
  rcases hst : (g.status x).isTerminal with _ | _
  · right
    intro d hd
    have hx' : x ∈ g.insertionOrder := hf.shape ▸ hx
    have hpending : g.status x = .pending :=
      (TaskStatus.isTerminal_eq_false_iff.mp hst).resolve_right (hnone x hx')
    have hpending₀ := hf.pending hnone₀ hx' hpending
    have hterm := (hs.ended d (g₀.mem_of_dependency x d hd).2
      (TaskGraph.not_chain_of_mem hchain hd hpending₀)).resolve_left List.not_mem_nil
    by_contra hne
    have hfailed : g.dependencyFailed x = true :=
      TaskGraph.dependencyFailed_iff.mpr ⟨hpending, d, hf.shape ▸ hd, hterm, hne⟩
    simp [hfailed] at hpass
  · exact .inl rfl

/-- Where the position does not change, an end that stays is enough. -/
theorem SettledAt.congr (h : SettledAt g₀ g c)
    (hended : ∀ x, (g.status x).isTerminal = true → (g'.status x).isTerminal = true)
    (hdone : ∀ x, g.status x = .succeeded → g'.status x = .succeeded)
    (hlost : ∀ x, Lost g x → Lost g' x) : SettledAt g₀ g' c := by
  have hexcept : ∀ {n queue}, SettledExcept g₀ g n queue → SettledExcept g₀ g' n queue := by
    intro n queue hs
    exact hs.move (fun x _ hx => hx.imp_right (hended x)) fun _ x _ hx => hlost x hx
  cases c with
  | iterate n => exact hexcept h
  | propagate n ids p =>
      obtain ⟨hsuffix, hbefore, hvisited, hpass⟩ := h
      refine ⟨hsuffix, hexcept hbefore, fun x hx hchain hnot => ?_, fun x hx hnot => ?_⟩
      · exact (hvisited x hx hchain hnot).imp (hended x) fun hall d hd => hdone d (hall d hd)
      · exact hlost x (hpass x hx hnot)
  | ready n ids p => exact hexcept h
  | task n ids id phase => exact hexcept h
  | returned => exact fun x hx hfits => hended x (h x hx hfits)
  | threw error => trivial

theorem Move.doomed (hm : Move g c g' c' label) (hc : Coherent g c) (h : Settles g₀ g c)
    (hx : g₀.FailsIn m x) : g'.status x ≠ .succeeded := by
  intro hdone
  rcases hm.succeeds hdone with hst | ⟨n, ids, phase, rfl⟩
  · exact h.doomed m x hx hst
  · exact h.not_eligible hx hc.2.2.1

/-- The pass over one task. -/
theorem Settles.visit {ids : List Uuid} {p : Bool} (hnone₀ : NoneRunning g₀)
    (hc : Coherent g (.propagate n (x :: ids) p)) (h : Settles g₀ g (.propagate n (x :: ids) p))
    (hpass : g.dependencyFailed x = false) : SettledAt g₀ g (.propagate n ids p) := by
  obtain ⟨hsuffix, hbefore, hvisited, hfails⟩ := id h.settled
  refine ⟨(List.suffix_cons x ids).trans hsuffix, hbefore, fun y hy hchain hnot => ?_,
    fun y hy hnot => ?_⟩
  · rcases eq_or_ne y x with rfl | hne
    · exact terminal_or_succeeded hnone₀ h.toFrozen hc.1 hbefore hy hchain hpass
    · exact hvisited y hy hchain (by simp [hne, hnot])
  · rcases eq_or_ne y x with rfl | hne
    · obtain ⟨d, hd, hlost⟩ := exists_lost_dependency h hy
      refine ⟨?_, h.doomed n y hy⟩
      -- a pending task with a lost dependency would not have been passed over
      by_contra hopen
      have hmem : y ∈ g.insertionOrder := hc.2 List.mem_cons_self
      have hpending := (TaskStatus.isTerminal_eq_false_iff.mp (by simpa using hopen)).resolve_right
        (hc.1 y hmem)
      have hfailed : g.dependencyFailed y = true :=
        TaskGraph.dependencyFailed_iff.mpr ⟨hpending, d, h.shape ▸ hd, hlost⟩
      simp [hfailed] at hpass
    · exact hfails y hy (by simp [hne, hnot])

theorem Move.settledAt (hnone₀ : NoneRunning g₀) (hm : Move g c g' c' label) (hc : Coherent g c)
    (h : Settles g₀ g c) : SettledAt g₀ g' c' := by
  have hs := h.settled
  have hlost : ∀ m x, g₀.FailsIn m x → Lost g x → Lost g' x := by
    intro m x hx hlost
    exact hm.lost hlost (h.not_retries hc hx)
  have hstatus : ∀ {id : Uuid} {state : TaskStatus} (x : Uuid), x ≠ id →
      (g.setState id state).status x = g.status x := by
    intro id state x hne
    rw [TaskGraph.status_setState, if_neg hne]
  have hstatus' : ∀ {id : Uuid} {state : TaskStatus} {outputs : List ArtifactRef} (x : Uuid),
      x ≠ id → ((g.setOutputs id outputs).setState id state).status x = g.status x := by
    intro id state outputs x hne
    rw [TaskGraph.status_setState, if_neg hne, TaskGraph.status_setOutputs]
  -- a move that touches the current task alone, and leaves it current
  have hcurrent : ∀ {n : Nat} {ids : List Uuid} {id : Uuid},
      (∀ x, x ≠ id → g'.status x = g.status x) → SettledExcept g₀ g n (id :: ids) →
      SettledExcept g₀ g' n (id :: ids) := by
    intro n ids id hsame hs
    refine hs.move (fun x _ hx => ?_) hlost
    rcases eq_or_ne x id with rfl | hne
    · exact .inl List.mem_cons_self
    · rwa [hsame x hne]
  -- a move after which the current task has ended
  have hend : ∀ {n : Nat} {ids : List Uuid} {id : Uuid},
      (∀ x, x ≠ id → g'.status x = g.status x) → (g'.status id).isTerminal = true →
      SettledExcept g₀ g n (id :: ids) → SettledExcept g₀ g' n ids := by
    intro n ids id hsame hterm hs
    refine hs.move (fun x _ hx => ?_) hlost
    rcases eq_or_ne x id with rfl | hne
    · exact .inr hterm
    · rw [hsame x hne]
      exact hx.imp_left fun hmem => (List.mem_cons.mp hmem).resolve_left hne
  cases hm with
  | enter _ =>
      refine ⟨h.shape ▸ List.suffix_refl _, hs, fun x hx _ hnot => ?_, fun x hx hnot => ?_⟩
      · exact absurd (h.shape ▸ hx) hnot
      · have hmem : x ∈ g.insertionOrder := by
          rw [h.shape]
          cases hx with
          | root _ hd _ | behind _ hd _ _ | ahead _ hd _ => exact (g₀.mem_of_dependency x _ hd).1
        exact absurd hmem hnot
  | @exhaust n hn =>
      intro x hx hfits
      rcases hfits with hchain | ⟨m, hm, hfails⟩
      · by_contra hopen
        have hlonger : g₀.PendingChain (n + 1) x := by
          by_contra hshort
          exact hopen ((hs.ended x hx hshort).resolve_left List.not_mem_nil)
        exact hchain (hlonger.shorten (by omega) (by omega))
      · exact (hs.failed m (by omega) x hfails).1
  | @propagate n id ids p hfailed =>
      obtain ⟨hsuffix, hbefore, hvisited, hpass⟩ := hs
      have hpending := (TaskGraph.dependencyFailed_iff.mp hfailed).1
      have hne_of : ∀ {x}, g.status x ≠ .pending → x ≠ id := fun hx heq => hx (heq ▸ hpending)
      refine ⟨(List.suffix_cons id ids).trans hsuffix, ?_, fun x hx hchain hnot => ?_,
        fun x hx hnot => ?_⟩
      · refine hbefore.move (fun x _ hx => ?_) hlost
        rcases eq_or_ne x id with rfl | hne
        · right
          simp
        · rwa [hstatus x hne]
      · rcases eq_or_ne x id with rfl | hne
        · left
          simp
        · rw [hstatus x hne]
          refine (hvisited x hx hchain (by simp [hne, hnot])).imp_right fun hall d hd => ?_
          rw [hstatus d (hne_of (by simp [hall d hd]))]
          exact hall d hd
      · rcases eq_or_ne x id with rfl | hne
        · constructor
          · simp
          · cases (g.task x).metadata.failure <;> simp [FailurePolicy.status]
        · exact hlost n x hx (hpass x hx (by simp [hne, hnot]))
  | pass hpass => exact h.visit hnone₀ hc hpass
  | finish hall =>
      intro x hx _
      exact TaskGraph.allTerminal_iff.mp hall x (h.shape ▸ hx)
  | @snapshot n p _ =>
      obtain ⟨_, hbefore, hvisited, hpass⟩ := hs
      constructor
      · intro x hx hchain
        rcases hst : (g.status x).isTerminal with _ | _
        · left
          have hx' : x ∈ g.insertionOrder := h.shape ▸ hx
          have hdeps := (hvisited x hx hchain List.not_mem_nil).resolve_left (by simp [hst])
          have hpending := (TaskStatus.isTerminal_eq_false_iff.mp hst).resolve_right (hc.1 x hx')
          exact TaskGraph.mem_readyTasks.mpr ⟨hx', hpending, h.shape ▸ hdeps⟩
        · exact .inr rfl
      · intro m hm x hx
        rcases Nat.lt_succ_iff_lt_or_eq.mp hm with hlt | rfl
        · exact hbefore.failed m hlt x hx
        · exact hpass x hx List.not_mem_nil
  | again => exact hs
  | stall | hitCancelled _ | dispatchCancelled _ | refuse _ => trivial
  | miss => exact hs
  | hit _ _ => exact hcurrent hstatus hs
  | replay _ | complete _ | abandon _ => exact hcurrent hstatus' hs
  | dispatch _ | markFailed _ | retry _ => exact hcurrent hstatus hs
  | submit _ | wait _ _ | stored | recorded => exact hs
  | fail _ => exact hcurrent (fun x _ => TaskGraph.status_countAttempt g _ x) hs
  | thread =>
      have hdone : g.status _ = .succeeded := hc.1
      exact hend (fun x _ => by simp) (by simp [hdone]) hs
  | giveUp _ => exact hend hstatus (by simp) hs
  | recordedCancelled =>
      have hdone : g.status _ = .cancelled := hc.1
      exact hend (fun x _ => rfl) (by simp [hdone]) hs
  | idle _ => exact hs

theorem Move.settles (hnone₀ : NoneRunning g₀) (hm : Move g c g' c' label) (hc : Coherent g c)
    (h : Settles g₀ g c) : Settles g₀ g' c' where
  toFrozen := hm.frozen h.toFrozen
  doomed _ _ hx := hm.doomed hc h hx
  settled := hm.settledAt hnone₀ hc h

theorem Settles.cancelled {id : Uuid} (h : Settles g₀ g c) (hpending : g.status id = .pending) :
    Settles g₀ (g.setState id .cancelled) c where
  toFrozen := h.toFrozen.cancelled hpending
  doomed m x hx := by
    rw [TaskGraph.status_setState]
    split
    · simp
    · exact h.doomed m x hx
  settled := by
    apply h.settled.congr
    · intro x hx
      rw [TaskGraph.status_setState]
      split
      · rfl
      · exact hx
    · intro x hx
      have hne : x ≠ id := fun heq => by simp [← heq, hx] at hpending
      rwa [TaskGraph.status_setState, if_neg hne]
    · intro x hx
      rw [Lost, TaskGraph.status_setState]
      split
      · simp
      · exact hx

theorem Settles.start (hnone₀ : NoneRunning g₀) : Settles g₀ g₀ (.iterate 0) where
  toFrozen := .start
  doomed _ _ hx := by simp [hx.pending]
  settled := by
    constructor
    · intro x hx hchain
      right
      by_contra hopen
      have hpending := (TaskStatus.isTerminal_eq_false_iff.mp (by simpa using hopen)).resolve_right
        (hnone₀ x hx)
      exact hchain (.single hpending)
    · intro m hm
      omega

end settling

/-! ## Every round is needed

The other bound, for a worker that completes everything at once: no task ends in
an earlier round than its chain allows. The invariant `EndedWithin` is kept by
every move. -/

/-- The phase belongs to a dispatch in which the worker completes the task. -/
def Phase.Completes : Phase → Prop
  | .markFailed _ | .markPending | .recordCancelled => False
  | _ => True

def Control.Completes : Control → Prop
  | .task _ _ _ phase => phase.Completes
  | _ => True

/-- Nothing has ended before it had to: a success needs a short chain, a failure an earlier one. -/
structure EndedWithin (g₀ g : TaskGraph) (n : Nat) : Prop where
  succeeded : ∀ x, g₀.status x = .pending → g.status x = .succeeded → ¬ g₀.PendingChain (n + 1) x
  failed : ∀ x, g₀.status x = .pending → Lost g x → ∃ m < n, g₀.FailsIn m x

/-- What can have ended at a position when every dispatch completes. -/
def EndedAt (g₀ g : TaskGraph) : Control → Prop
  | .iterate n => EndedWithin g₀ g n
  | .propagate n ids _ => ids <:+ g₀.insertionOrder ∧
      (∀ x, g₀.status x = .pending → g.status x = .succeeded → ¬ g₀.PendingChain (n + 1) x) ∧
      ∀ x, g₀.status x = .pending → Lost g x →
        ∃ m, g₀.FailsIn m x ∧ (m < n ∨ m = n ∧ x ∉ ids)
  | .ready n ids _ => EndedWithin g₀ g (n + 1) ∧ ∀ x ∈ ids, ¬ g₀.PendingChain (n + 2) x
  | .task n ids id _ => EndedWithin g₀ g (n + 1) ∧ ∀ x ∈ id :: ids, ¬ g₀.PendingChain (n + 2) x
  | .returned => EndedWithin g₀ g 10000
  | .threw _ => True

section needed

variable {g₀ g g' : TaskGraph} {c c' : Control} {label : Option Uuid} {x : Uuid} {m n : Nat}

theorem EndedWithin.mono (h : EndedWithin g₀ g m) (hmn : m ≤ n) : EndedWithin g₀ g n where
  succeeded x hx hdone := TaskGraph.not_chain_mono (h.succeeded x hx hdone) hmn
  failed x hx hlost :=
    let ⟨k, hk, hfails⟩ := h.failed x hx hlost
    ⟨k, Nat.lt_of_lt_of_le hk hmn, hfails⟩

/-- A move after which no other task has ended. -/
theorem EndedWithin.move {id : Uuid} (h : EndedWithin g₀ g n)
    (hsame : ∀ x, x ≠ id → g'.status x = g.status x) (hlost : ¬ Lost g' id)
    (hid : ¬ g₀.PendingChain (n + 1) id) : EndedWithin g₀ g' n where
  succeeded x hx hdone := by
    rcases eq_or_ne x id with rfl | hne
    · exact hid
    · exact h.succeeded x hx (hsame x hne ▸ hdone)
  failed x hx hl := by
    rcases eq_or_ne x id with rfl | hne
    · exact absurd hl hlost
    · rw [Lost, hsame x hne] at hl
      exact h.failed x hx hl

theorem EndedWithin.congr (h : EndedWithin g₀ g n) (hsame : ∀ x, g'.status x = g.status x) :
    EndedWithin g₀ g' n where
  succeeded x hx hdone := h.succeeded x hx (hsame x ▸ hdone)
  failed x hx hl := by
    rw [Lost, hsame x] at hl
    exact h.failed x hx hl

/-- Where `PropagateFailures` finds a failed dependency, a failure from before
the run has come down. -/
theorem exists_failsIn {ids : List Uuid} {p : Bool} (hnone₀ : NoneRunning g₀)
    (hf : Frozen g₀ g (.propagate n (x :: ids) p))
    (hs : EndedAt g₀ g (.propagate n (x :: ids) p)) (hfailed : g.dependencyFailed x = true)
    (hx : g₀.status x = .pending) : ∃ m, g₀.FailsIn m x ∧ m ≤ n := by
  obtain ⟨hsuffix, _, hpass⟩ := hs
  obtain ⟨_, d, hd, hlost⟩ := TaskGraph.dependencyFailed_iff.mp hfailed
  rw [hf.shape] at hd
  have hmem := (g₀.mem_of_dependency x d hd).2
  by_cases hopen : g₀.status d = .pending
  · obtain ⟨m, hm, hlt | ⟨rfl, hnot⟩⟩ := hpass d hopen hlost
    · exact ⟨m + 1, .ahead hm hd hx, hlt⟩
    · exact ⟨m, .behind hm hd hx ((TaskShape.idxOf_lt_iff hsuffix hmem).mpr hnot), le_refl m⟩
  · -- a dependency that had ended before the run
    refine ⟨0, .root ⟨?_, fun hdone => hlost.2 (hf.succeeded d hdone)⟩ hd hx, Nat.zero_le n⟩
    by_contra hst
    rcases TaskStatus.isTerminal_eq_false_iff.mp (by simpa using hst) with hp | hr
    · exact hopen hp
    · exact hnone₀ d hmem hr

theorem Move.endedAt (hnone₀ : NoneRunning g₀) (hm : Move g c g' c' label) (hc : Coherent g c)
    (hround : c.InRounds) (hf : Frozen g₀ g c) (hcomp : c.Completes) (hcomp' : c'.Completes)
    (hs : EndedAt g₀ g c) : EndedAt g₀ g' c' := by
  have hstatus : ∀ {id : Uuid} {state : TaskStatus} (x : Uuid), x ≠ id →
      (g.setState id state).status x = g.status x := by
    intro id state x hne
    rw [TaskGraph.status_setState, if_neg hne]
  have hstatus' : ∀ {id : Uuid} {state : TaskStatus} {outputs : List ArtifactRef} (x : Uuid),
      x ≠ id → ((g.setOutputs id outputs).setState id state).status x = g.status x := by
    intro id state outputs x hne
    rw [TaskGraph.status_setState, if_neg hne, TaskGraph.status_setOutputs]
  cases hm with
  | enter _ =>
      refine ⟨hf.shape ▸ List.suffix_refl _, hs.succeeded, fun x hx hlost => ?_⟩
      obtain ⟨m, hm, hfails⟩ := hs.failed x hx hlost
      exact ⟨m, hfails, .inl hm⟩
  | exhaust hn =>
      have hlimit : _ ≤ 10000 := hround
      exact hs.mono hlimit
  | @propagate n id ids p hfailed =>
      obtain ⟨hpending, _⟩ := TaskGraph.dependencyFailed_iff.mp hfailed
      have hpending₀ := hf.pending hnone₀ (hc.2 List.mem_cons_self) hpending
      -- a failure from before the run has come down to the task in at most `n` rounds
      obtain ⟨k, hfails, hk⟩ := exists_failsIn hnone₀ hf hs hfailed hpending₀
      obtain ⟨hsuffix, hdone, hpass⟩ := hs
      have hid : id ∉ ids := by
        have hnodup := g₀.nodup_order.sublist hsuffix.sublist
        exact (List.nodup_cons.mp hnodup).1
      refine ⟨(List.suffix_cons id ids).trans hsuffix, fun x hx hst => ?_, fun x hx hlost => ?_⟩
      · rcases eq_or_ne x id with rfl | hne
        · rw [TaskGraph.status_setState, if_pos rfl] at hst
          cases hpolicy : (g.task x).metadata.failure <;> simp [hpolicy, FailurePolicy.status] at hst
        · exact hdone x hx (hstatus x hne ▸ hst)
      · rcases eq_or_ne x id with rfl | hne
        · exact ⟨k, hfails, (Nat.lt_or_eq_of_le hk).imp_right fun heq => ⟨heq, hid⟩⟩
        · rw [Lost, hstatus x hne] at hlost
          obtain ⟨m, hm, hwhen⟩ := hpass x hx hlost
          refine ⟨m, hm, hwhen.imp_right fun hlast => ⟨hlast.1, ?_⟩⟩
          exact List.not_mem_of_not_mem_cons hlast.2
  | @pass n id ids p _ =>
      -- nothing changes but the rest of the pass
      obtain ⟨hsuffix, hdone, hpass⟩ := hs
      refine ⟨(List.suffix_cons id ids).trans hsuffix, hdone, fun x hx hlost => ?_⟩
      obtain ⟨m, hm, hwhen⟩ := hpass x hx hlost
      refine ⟨m, hm, hwhen.imp_right fun hlast => ⟨hlast.1, ?_⟩⟩
      exact List.not_mem_of_not_mem_cons hlast.2
  | @finish n p _ =>
      obtain ⟨_, hdone, hpass⟩ := hs
      have hn : n < 10000 := hround
      constructor
      · intro x hx hst
        exact TaskGraph.not_chain_mono (hdone x hx hst) hn.le
      · intro x hx hlost
        obtain ⟨m, hm, hwhen⟩ := hpass x hx hlost
        exact ⟨m, by omega, hm⟩
  | @snapshot n p _ =>
      obtain ⟨_, hdone, hpass⟩ := hs
      refine ⟨⟨fun x hx hst => ?_, fun x hx hlost => ?_⟩, fun x hx => ?_⟩
      · exact TaskGraph.not_chain_mono (hdone x hx hst) (Nat.le_succ n)
      · obtain ⟨m, hm, hwhen⟩ := hpass x hx hlost
        exact ⟨m, by omega, hm⟩
      · -- the dependencies of a ready task have succeeded, so no chain of `n` leads to it
        obtain ⟨_, _, hdeps⟩ := TaskGraph.mem_readyTasks.mp hx
        apply TaskGraph.not_chain_of_dependencies
        intro d hd hchain
        exact hdone d hchain.pending (hdeps d (hf.shape ▸ hd)) hchain
  | again => exact hs.1
  | stall | hitCancelled _ | dispatchCancelled _ | refuse _ => trivial
  | miss => exact hs
  | hit _ _ | dispatch _ =>
      refine ⟨hs.1.move hstatus ?_ (hs.2 _ List.mem_cons_self), hs.2⟩
      simp [Lost]
  | replay _ | complete _ =>
      refine ⟨hs.1.move hstatus' ?_ (hs.2 _ List.mem_cons_self), hs.2⟩
      simp [Lost]
  | submit _ | wait _ _ | stored | recorded => exact hs
  | thread =>
      refine ⟨hs.1.congr fun x => by simp, fun x hx => hs.2 x (List.mem_cons_of_mem _ hx)⟩
  | fail _ | abandon _ => exact absurd hcomp' id
  | markFailed _ | giveUp _ | retry _ | recordedCancelled => exact absurd hcomp id
  | idle _ => exact hs

theorem EndedAt.start : EndedAt g₀ g₀ (.iterate 0) where
  succeeded x hx hdone := by simp [hx] at hdone
  failed x hx hlost := by simp [Lost, hx] at hlost

end needed

/-! ## Runs

Both bounds together decide which graphs end well. A chain that is as long as
one likes shows where the bound of the loop lies. -/

namespace Scheduler

variable {σ ι : Type}

/-- The run comes to an end, and `Execute` returns only when every task is terminal. -/
def EndsWell (sched : Scheduler σ ι) (inputs : Nat → StepInput ι) (s₀ : SchedulerState σ) : Prop :=
  (∃ k, (sched.states inputs s₀ k).control.isLive = false) ∧
    ∀ k, (sched.states inputs s₀ k).control = .returned →
      ∀ x ∈ s₀.graph.insertionOrder,
        ((sched.states inputs s₀ k).graph.status x).isTerminal = true

end Scheduler

namespace TaskGraph

/-- `Execute` on this graph ends well with every executor whose tasks all end. -/
def EndsWell (g : TaskGraph) : Prop :=
  ∀ {σ ι : Type} (sched : Scheduler σ ι) (inputs : Nat → StepInput ι) (s₀ : SchedulerState σ),
    s₀.graph = g → s₀.control = .iterate 0 → sched.Responsive inputs s₀ → sched.EndsWell inputs s₀

variable {g : TaskGraph}

open Scheduler in
/-- **Enough rounds.** -/
theorem endsWell_of_fits (hnone : NoneRunning g) (hfits : g.FitsIn 10000) : g.EndsWell := by
  intro σ ι sched inputs s₀ hg h₀ hleave
  subst hg
  have hc : Coherent s₀.graph s₀.control := by
    rw [h₀]
    exact .start hnone
  refine ⟨exists_halted hc (by simp [h₀, Control.InRounds]) hleave, fun k hret x hx => ?_⟩
  have hstart : Settles s₀.graph s₀.graph s₀.control := by
    rw [h₀]
    exact .start hnone
  obtain ⟨_, hinv⟩ := states_induct sched inputs (fun g c => Settles s₀.graph g c)
    (fun _ _ _ _ _ hcg h hm => hm.settles hnone hcg h) (fun _ _ _ _ h _ hp => h.cancelled hp)
    hc hstart k
  have hsettled := hinv.settled
  rw [hret] at hsettled
  apply hsettled x hx
  by_cases hchain : s₀.graph.PendingChain 10001 x
  · exact .inr (hfits x hchain)
  · exact .inl hchain

end TaskGraph

/-! A worker that completes every task as soon as it is asked. -/

private def completing : Scheduler (List WorkerEvent) Unit where
  cache := ⟨id, "", ""⟩
  executor := .deterministic {} ⟨0⟩ fun _ => [.completed]

private def completingInputs (_ : Nat) : StepInput Unit := { worker := () }

private def startOf (g : TaskGraph) : SchedulerState (List WorkerEvent) where
  graph := g
  store := {}
  executor := []
  runPipelineHash := ""
  control := .iterate 0

/-- What the worker has to say at a position. -/
private def Control.Answer (events : List WorkerEvent) : Control → Prop
  | .task _ _ id (.await _ _) => events = [⟨id, .completed⟩]
  | .threw _ => True
  | c => c.Completes ∧ events = []

private theorem Control.Answer.completes {events : List WorkerEvent} {c : Control}
    (h : c.Answer events) : c.Completes := by
  cases c with
  | task n ids id phase => cases phase <;> first | trivial | exact h.1
  | _ => trivial

/-- A `Mark` after which the worker is silent. -/
private theorem answer_mark {s : SchedulerState (List WorkerEvent)} (id : Uuid)
    (target : TaskStatus) {next : Control} (hnext : next.Answer s.executor) :
    (s.mark id target next).control.Answer (s.mark id target next).executor := by
  rw [SchedulerState.mark_executor]
  rcases s.mark_control id target next with hcontrol | ⟨error, hcontrol⟩
  · rwa [hcontrol]
  · rw [hcontrol]
    trivial

/-- The event that is read completes the task. -/
private theorem advance_await {s : SchedulerState (List WorkerEvent)} (k : Nat) {n : Nat}
    {ids : List Uuid} {id : Uuid} {produced : List ArtifactRef} {missed : Nat}
    (hcontrol : s.control = .task n ids id (.await produced missed))
    (hevents : s.executor = [⟨id, .completed⟩]) :
    completing.advance (completingInputs k) s =
      { s with executor := [], graph := s.graph.setOutputs id produced }.mark id .succeeded
        (.task n ids id (.storeOutput (s.graph.task id).outputs)) := by
  simp only [Scheduler.advance, hcontrol, Scheduler.dispatchAndAwait, Scheduler.awaitEvent,
    completing, WorkerExecutor.deterministic, hevents, if_true, Scheduler.handleEvent]

private theorem answer_step {s : SchedulerState (List WorkerEvent)} (k : Nat)
    (h : s.control.Answer s.executor) :
    (completing.advance (completingInputs k) s).control.Answer
      (completing.advance (completingInputs k) s).executor := by
  by_cases hwait : ∃ n ids id produced missed, s.control = .task n ids id (.await produced missed)
  · obtain ⟨n, ids, id, produced, missed, hcontrol⟩ := hwait
    rw [hcontrol] at h
    rw [advance_await k hcontrol h]
    exact answer_mark _ _ ⟨trivial, rfl⟩
  -- outside a wait the worker has nothing to say, and no step gives it anything
  unfold Scheduler.advance
  split
  · next hcontrol =>
      rw [hcontrol] at h
      split <;> exact ⟨trivial, h.2⟩
  · next hcontrol =>
      rw [hcontrol] at h
      split
      · exact answer_mark _ _ ⟨trivial, h.2⟩
      · exact ⟨trivial, h.2⟩
  · next hcontrol =>
      rw [hcontrol] at h
      split <;> exact ⟨trivial, h.2⟩
  · next hcontrol =>
      rw [hcontrol] at h
      unfold Scheduler.tryCacheHit
      split
      · exact ⟨trivial, h.2⟩
      · split
        · exact ⟨trivial, h.2⟩
        · exact answer_mark _ _ ⟨trivial, h.2⟩
  · next hcontrol =>
      rw [hcontrol] at h
      split
      · exact ⟨trivial, h.2⟩
      · trivial
  · next n ids id phase hcontrol =>
      rw [hcontrol] at h
      cases phase with
      | cacheHit output => exact answer_mark _ _ ⟨trivial, h.2⟩
      | dispatch =>
          simp only [Scheduler.dispatchAndAwait]
          split
          · exact ⟨trivial, h.2⟩
          · exact answer_mark _ _ ⟨trivial, h.2⟩
      | submit =>
          -- the submission, which the worker answers at once
          show s.executor ++ _ = _
          rw [h.2]
          rfl
      | await produced missed => exact absurd ⟨_, _, _, _, _, hcontrol⟩ hwait
      | storeOutput declared =>
          simp only [Scheduler.dispatchAndAwait]
          split <;> exact ⟨trivial, h.2⟩
      | recordSucceeded declared => exact ⟨trivial, h.2⟩
      | threadOutputs declared => exact ⟨trivial, h.2⟩
      -- phases of a failed attempt, which do not occur
      | markFailed retryable => exact h.1.elim
      | markPending => exact h.1.elim
      | recordCancelled => exact h.1.elim
  · next hcontrol => exact h
  · next hcontrol => exact h

section completing

open Scheduler

variable (g : TaskGraph)

private theorem completing_quiet : Quiet completingInputs := fun _ => rfl

private theorem completing_answer (k : Nat) :
    (completing.states completingInputs (startOf g) k).control.Answer
      (completing.states completingInputs (startOf g) k).executor := by
  induction k with
  | zero => exact ⟨trivial, rfl⟩
  | succ k ih =>
      rw [states_succ_of_quiet completing_quiet]
      exact answer_step k ih

/-- The worker answers at once. -/
private theorem completing_responsive : completing.Responsive completingInputs (startOf g) := by
  intro k hwait
  refine ⟨k + 1, Nat.le_succ k, ?_⟩
  have hanswer := completing_answer g k
  rw [states_succ_of_quiet completing_quiet]
  cases hcontrol : (completing.states completingInputs (startOf g) k).control with
  | task n ids id phase =>
      cases phase with
      | await produced missed =>
          rw [hcontrol] at hanswer
          rw [advance_await k hcontrol hanswer]
          intro hwait'
          rcases SchedulerState.mark_control _ id .succeeded _ with hnext | ⟨error, hnext⟩ <;>
            rw [hnext] at hwait' <;> exact hwait'
      | _ => simp [hcontrol, Control.IsWaiting] at hwait
  | _ => simp [hcontrol, Control.IsWaiting] at hwait

variable {g}

private theorem completing_endedAt (hnone : NoneRunning g) (k : Nat) :
    Frozen g (completing.states completingInputs (startOf g) k).graph
        (completing.states completingInputs (startOf g) k).control ∧
      EndedAt g (completing.states completingInputs (startOf g) k).graph
        (completing.states completingInputs (startOf g) k).control := by
  have hc : Coherent (startOf g).graph (startOf g).control := .start hnone
  have hround : (startOf g).control.InRounds := Nat.zero_le 10000
  induction k with
  | zero => exact ⟨.start, .start⟩
  | succ k ih =>
      obtain ⟨label, hmove, _⟩ := moves_of_quiet completing completing_quiet hc k
      refine ⟨hmove.frozen ih.1, ?_⟩
      exact hmove.endedAt hnone (states_coherent hc k) (states_inRounds hc hround k) ih.1
        (completing_answer g k).completes (completing_answer g (k + 1)).completes ih.2

/-- **No more rounds than needed.** -/
theorem TaskGraph.fits_of_endsWell (hnone : NoneRunning g) (hacyclic : g.Acyclic)
    (h : g.EndsWell) : g.FitsIn 10000 := by
  intro x hchain
  have hc : Coherent (startOf g).graph (startOf g).control := .start hnone
  have hleave := completing_responsive g
  obtain ⟨k, hret⟩ := exists_returned_of_quiet completing_quiet hc rfl hacyclic
    (fun _ _ _ _ _ => ⟨_, rfl⟩) hleave
  have hx : x ∈ g.insertionOrder := by
    cases hchain with
    | extend _ hd _ => exact (g.mem_of_dependency x _ hd).1
  have hterm := (h completing completingInputs (startOf g) rfl rfl hleave).2 k hret x hx
  have hended : EndedWithin g (completing.states completingInputs (startOf g) k).graph 10000 := by
    have hinv := (completing_endedAt hnone k).2
    rwa [hret] at hinv
  by_cases hdone : (completing.states completingInputs (startOf g) k).graph.status x = .succeeded
  · exact absurd hchain (hended.succeeded x hchain.pending hdone)
  · exact hended.failed x hchain.pending ⟨hterm, hdone⟩

end completing

/-- **`Execute` ends well exactly on the graphs that fit its rounds.** -/
theorem TaskGraph.endsWell_iff {g : TaskGraph} (hnone : NoneRunning g) (hacyclic : g.Acyclic) :
    g.EndsWell ↔ g.FitsIn 10000 :=
  ⟨fits_of_endsWell hnone hacyclic, endsWell_of_fits hnone⟩

/-! A chain of `n` new tasks, each depending on the one before. -/

section chain

private def nth (i : Nat) : Uuid := ⟨BitVec.ofNat 128 i⟩

private theorem nth_toNat (u : Uuid) : nth u.bytes.toNat = u := by
  simp [nth]

private theorem toNat_nth {i : Nat} (hi : i < 2 ^ 128) : (nth i).bytes.toNat = i := by
  simpa [nth] using Nat.mod_eq_of_lt hi

variable {n : Nat}

private theorem mem_chain (hn : n < 2 ^ 128) {u : Uuid} :
    u ∈ (List.range' 1 n).map nth ↔ 1 ≤ u.bytes.toNat ∧ u.bytes.toNat ≤ n := by
  simp only [List.mem_map, List.mem_range'_1]
  constructor
  · intro hu
    obtain ⟨i, hi, rfl⟩ := hu
    rw [toNat_nth (by omega)]
    omega
  · intro hu
    exact ⟨u.bytes.toNat, by omega, nth_toNat u⟩

/-- The task before, and the task after. -/
private def chainBefore (n : Nat) (u : Uuid) : List Uuid :=
  if 2 ≤ u.bytes.toNat ∧ u.bytes.toNat ≤ n then [nth (u.bytes.toNat - 1)] else []

private def chainAfter (n : Nat) (u : Uuid) : List Uuid :=
  if 1 ≤ u.bytes.toNat ∧ u.bytes.toNat < n then [nth (u.bytes.toNat + 1)] else []

private theorem nodup_chain (hn : n < 2 ^ 128) : ((List.range' 1 n).map nth).Nodup := by
  apply List.Nodup.map_on _ List.nodup_range'
  intro i hi j hj heq
  have hbits := congrArg (fun u : Uuid => u.bytes.toNat) heq
  simp only [List.mem_range'_1] at hi hj
  rwa [toNat_nth (by omega), toNat_nth (by omega)] at hbits

private theorem mem_of_chainBefore (hn : n < 2 ^ 128) (u d : Uuid) (hd : d ∈ chainBefore n u) :
    u ∈ (List.range' 1 n).map nth ∧ d ∈ (List.range' 1 n).map nth := by
  rw [mem_chain hn, mem_chain hn]
  unfold chainBefore at hd
  split at hd
  · rw [List.mem_singleton.mp hd, toNat_nth (by omega)]
    omega
  · simp at hd

private theorem mem_chainAfter (hn : n < 2 ^ 128) (u d : Uuid) :
    u ∈ chainAfter n d ↔ d ∈ chainBefore n u := by
  have hnth : ∀ {a b : Uuid}, a = nth (b.bytes.toNat + 1) → b.bytes.toNat < n →
      a.bytes.toNat = b.bytes.toNat + 1 := by
    intro a b heq hb
    rw [heq, toNat_nth (by omega)]
  unfold chainAfter chainBefore
  split <;> split
  · next hd hu =>
      simp only [List.mem_singleton]
      constructor
      · intro heq
        rw [hnth heq hd.2, Nat.add_sub_cancel, nth_toNat]
      · intro heq
        have hpos : d.bytes.toNat = u.bytes.toNat - 1 := by
          rw [heq, toNat_nth (by omega)]
        rw [hpos, Nat.sub_add_cancel (by omega), nth_toNat]
  · next hd hu =>
      simp only [List.mem_singleton, List.not_mem_nil, iff_false]
      intro heq
      have hpos := hnth heq hd.2
      omega
  · next hd hu =>
      simp only [List.mem_singleton, List.not_mem_nil, false_iff]
      intro heq
      have hpos : d.bytes.toNat = u.bytes.toNat - 1 := by
        rw [heq, toNat_nth (by omega)]
      omega
  · simp

private theorem nodup_chainBefore (n : Nat) (u : Uuid) : (chainBefore n u).Nodup := by
  unfold chainBefore
  split <;> simp

private theorem nodup_chainAfter (n : Nat) (u : Uuid) : (chainAfter n u).Nodup := by
  unfold chainAfter
  split <;> simp

private def chainShape (n : Nat) (hn : n < 2 ^ 128) : TaskShape where
  jobId := .nil
  insertionOrder := (List.range' 1 n).map nth
  dependencies := chainBefore n
  dependents := chainAfter n
  nodup_order := nodup_chain hn
  mem_of_dependency := mem_of_chainBefore hn
  mem_dependents := mem_chainAfter hn
  nodup_dependencies := nodup_chainBefore n
  nodup_dependents := nodup_chainAfter n

private def chainOf (n : Nat) (hn : n < 2 ^ 128) : TaskGraph where
  toTaskShape := chainShape n hn
  task u := { id := u, definition := { type := "import" } }
  id_task _ := rfl

private theorem chainOf_acyclic (hn : n < 2 ^ 128) : (chainOf n hn).Acyclic := by
  refine ⟨fun u => u.bytes.toNat, fun u d hd => ?_⟩
  simp only [chainOf, chainShape, chainBefore] at hd
  split at hd
  · show d.bytes.toNat < u.bytes.toNat
    rw [List.mem_singleton.mp hd, toNat_nth (by omega)]
    omega
  · simp at hd

private theorem chainOf_pending (hn : n < 2 ^ 128) (u : Uuid) :
    (chainOf n hn).status u = .pending := rfl

private theorem chainOf_chain (hn : n < 2 ^ 128) {m : Nat} (hm : 0 < m) (hmn : m ≤ n) :
    (chainOf n hn).PendingChain m (nth m) := by
  induction m, hm using Nat.le_induction with
  | base => exact .single (chainOf_pending hn _)
  | succ m hm ih =>
      refine .extend (ih (by omega)) ?_ (chainOf_pending hn _)
      simp only [chainOf, chainShape, chainBefore, toNat_nth (show m + 1 < 2 ^ 128 by omega)]
      rw [if_pos (by omega), Nat.add_sub_cancel]
      exact List.mem_singleton_self _

/-- Nothing fails where nothing has failed. -/
private theorem chainOf_not_failsIn (hn : n < 2 ^ 128) {m : Nat} {u : Uuid} :
    ¬ (chainOf n hn).FailsIn m u := by
  intro h
  induction h with
  | root hlost _ _ => simp [Lost, chainOf_pending hn] at hlost
  | behind _ _ _ _ ih => exact ih
  | ahead _ _ _ ih => exact ih

/-- No chain of the graph has more tasks than the graph. -/
private theorem length_le_of_chain (hn : n < 2 ^ 128) {m : Nat} {u : Uuid}
    (h : (chainOf n hn).PendingChain m u) : m ≤ 1 ∨ m ≤ u.bytes.toNat ∧ u.bytes.toNat ≤ n := by
  induction h with
  | single _ => exact .inl (le_refl 1)
  | @extend m d u _ hd _ ih =>
      simp only [chainOf, chainShape, chainBefore] at hd
      split at hd
      · rw [List.mem_singleton.mp hd, toNat_nth (by omega)] at ih
        omega
      · simp at hd

private theorem ten_thousand_lt : 10000 < 2 ^ 128 := by norm_num

private theorem ten_thousand_and_one_lt : 10001 < 2 ^ 128 := by norm_num

theorem chain_of_10000_ends : (chainOf 10000 ten_thousand_lt).EndsWell := by
  refine (TaskGraph.endsWell_iff (fun u _ => ?_) (chainOf_acyclic _)).mpr fun u hchain => ?_
  · simp [chainOf_pending]
  · have hlength := length_le_of_chain _ hchain
    omega

theorem chain_of_10001_ends_early :
    (chainOf 10001 ten_thousand_and_one_lt).Acyclic ∧
      (∀ u, (chainOf 10001 ten_thousand_and_one_lt).status u = .pending) ∧
      ¬ (chainOf 10001 ten_thousand_and_one_lt).EndsWell := by
  refine ⟨chainOf_acyclic _, fun u => chainOf_pending _ u, fun hends => ?_⟩
  have hnone : NoneRunning (chainOf 10001 ten_thousand_and_one_lt) := by
    intro u _
    simp [chainOf_pending]
  have hchain := chainOf_chain ten_thousand_and_one_lt (by norm_num : 0 < 10001) le_rfl
  obtain ⟨m, _, hfails⟩ := TaskGraph.fits_of_endsWell hnone (chainOf_acyclic _) hends _ hchain
  exact chainOf_not_failsIn _ hfails

end chain

end SpatialPlatform.Engine
