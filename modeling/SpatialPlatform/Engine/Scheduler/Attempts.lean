import SpatialPlatform.Engine.Scheduler.Progress

/-!
# Attempts

A task is submitted again only while the retry policy leaves it an attempt, so
the submissions of a task are bounded by `max_attempts` whatever its worker
does.

`advance_executor` says when the executor is called at all.
-/

namespace SpatialPlatform.Engine

open SpatialPlatform.Core SpatialPlatform.Lib

/-- The thread is about to submit a task. -/
def Control.Submits : Control → Prop
  | .task _ _ _ .submit => True
  | _ => False

/-- The timeouts counted in the current attempt. -/
def Control.missed : Control → Nat
  | .task _ _ _ (.await _ missed) => missed
  | _ => 0

theorem Control.submits_iff {c : Control} : c.Submits ↔ ∃ n ids id, c = .task n ids id .submit := by
  constructor
  · intro h
    cases c with
    | task n ids id phase =>
        cases phase with
        | submit => exact ⟨n, ids, id, rfl⟩
        | _ => exact h.elim
    | _ => exact h.elim
  · rintro ⟨n, ids, id, rfl⟩
    trivial

theorem Control.isWaiting_iff {c : Control} :
    c.IsWaiting ↔ ∃ n ids id produced, c = .task n ids id (.await produced c.missed) := by
  constructor
  · intro h
    cases c with
    | task n ids id phase =>
        cases phase with
        | await produced missed => exact ⟨n, ids, id, produced, rfl⟩
        | _ => exact h.elim
    | _ => exact h.elim
  · rintro ⟨n, ids, id, produced, h⟩
    rw [h]
    trivial

/-- The current dispatch of the task will submit it again. -/
def Control.Resubmits (x : Uuid) : Control → Prop
  | .task _ _ id .submit | .task _ _ id (.markFailed true) | .task _ _ id .markPending => id = x
  | _ => False

/-- The task is with the worker. -/
def Control.Awaits (x : Uuid) : Control → Prop
  | .task _ _ id (.await _ _) => id = x
  | _ => False

/-- How the submissions of a task compare with its attempts: each submission but
the last one has failed, and another one follows only below the limit. -/
structure WithinPolicy (x : Uuid) (g : TaskGraph) (c : Control) (submissions : Int) : Prop where
  bound : submissions ≤ (g.task x).metadata.retry.maxAttempts
  next : g.status x = .pending ∨ c.Resubmits x → submissions ≤ (g.task x).metadata.attempts ∧
    submissions < (g.task x).metadata.retry.maxAttempts
  awaited : c.Awaits x → submissions ≤ (g.task x).metadata.attempts + 1

section step

variable {g g' : TaskGraph} {c c' : Control} {submitted : Option Uuid} {x : Uuid} {n : Int}

/-- Nothing happens to the task itself. -/
theorem WithinPolicy.frame (h : WithinPolicy x g c n)
    (hmeta : (g'.task x).metadata = (g.task x).metadata)
    (hnext : g'.status x = .pending ∨ c'.Resubmits x → g.status x = .pending ∨ c.Resubmits x)
    (hawaited : c'.Awaits x → c.Awaits x) : WithinPolicy x g' c' n := by
  constructor
  · rw [hmeta]
    exact h.bound
  · rw [hmeta]
    intro hx
    exact h.next (hnext hx)
  · rw [hmeta]
    intro hx
    exact h.awaited (hawaited hx)

theorem Move.withinPolicy (hm : Move g c g' c' submitted) (h : WithinPolicy x g c n) :
    WithinPolicy x g' c' (n + if submitted = some x then 1 else 0) := by
  have hstatus : ∀ {id : Uuid} {state : TaskStatus}, state ≠ .pending →
      (g.setState id state).status x = .pending → g.status x = .pending := by
    intro id state hne hpending
    rw [TaskGraph.status_setState] at hpending
    split at hpending
    · exact absurd hpending hne
    · exact hpending
  have hdone : ∀ {id : Uuid} {outputs : List ArtifactRef} {state : TaskStatus}, state ≠ .pending →
      ((g.setOutputs id outputs).setState id state).status x = .pending →
        g.status x = .pending := by
    intro id outputs state hne hpending
    rw [TaskGraph.status_setState, TaskGraph.status_setOutputs] at hpending
    split at hpending
    · exact absurd hpending hne
    · exact hpending
  cases hm with
  | @submit m id ids hrun =>
      rcases eq_or_ne id x with rfl | hne
      · obtain ⟨hle, hlt⟩ := h.next (.inr rfl)
        rw [if_pos rfl]
        refine ⟨by omega, ?_, fun _ => by omega⟩
        rintro (hpending | hfalse)
        · rw [hrun] at hpending
          cases hpending
        · exact hfalse.elim
      · rw [if_neg (by simpa using hne), Int.add_zero]
        refine h.frame rfl ?_ fun hx => absurd hx hne
        exact Or.imp_right False.elim
  | @fail m id ids produced missed recoverable =>
      rw [if_neg (by simp), Int.add_zero]
      rcases eq_or_ne id x with rfl | hne
      · have hle := h.awaited rfl
        refine ⟨?_, ?_, False.elim⟩
        · simpa [TaskGraph.task_countAttempt] using h.bound
        · rw [TaskGraph.status_countAttempt, TaskGraph.task_countAttempt, if_pos rfl]
          rintro (hpending | hretry)
          · obtain ⟨_, hlt⟩ := h.next (.inl hpending)
            exact ⟨hle, hlt⟩
          · -- the failure is retried, so the counted attempt was not the last
            refine ⟨hle, ?_⟩
            cases hbool : recoverable && decide ((g.task id).metadata.attempts + 1 <
                (g.task id).metadata.retry.maxAttempts) with
            | false => simp [hbool, Control.Resubmits] at hretry
            | true =>
                have hlt := of_decide_eq_true (Bool.and_eq_true_iff.mp hbool).2
                show n < (g.task id).metadata.retry.maxAttempts
                omega
      · refine h.frame ?_ ?_ False.elim
        · rw [TaskGraph.task_countAttempt, if_neg (Ne.symm hne)]
        · rw [TaskGraph.status_countAttempt]
          refine Or.imp_right fun hx => absurd ?_ hne
          revert hx
          generalize (recoverable && _) = retry
          cases retry
          · exact False.elim
          · exact fun hx => hx
  | markFailed _ =>
      rw [if_neg (by simp), Int.add_zero]
      refine h.frame (by simp) (Or.imp (hstatus (by simp)) id) False.elim
  | @retry m id ids hfailed =>
      rw [if_neg (by simp), Int.add_zero]
      refine h.frame (by simp) ?_ False.elim
      rintro (hpending | hfalse)
      · rw [TaskGraph.status_setState] at hpending
        split at hpending
        · next heq => exact .inr heq.symm
        · exact .inl hpending
      · exact hfalse.elim
  | dispatch hpending =>
      rw [if_neg (by simp), Int.add_zero]
      refine h.frame (by simp) ?_ False.elim
      rintro (hx | rfl)
      · exact .inl (hstatus (by simp) hx)
      · exact .inl hpending
  | propagate _ =>
      rw [if_neg (by simp), Int.add_zero]
      refine h.frame (by simp) (Or.imp (hstatus ?_) False.elim) False.elim
      cases (g.task _).metadata.failure <;> simp [FailurePolicy.status]
  | hit _ _ | giveUp _ =>
      rw [if_neg (by simp), Int.add_zero]
      exact h.frame (by simp) (Or.imp (hstatus (by simp)) False.elim) False.elim
  | replay _ | complete _ | abandon _ =>
      rw [if_neg (by simp), Int.add_zero]
      exact h.frame (by simp) (Or.imp (hdone (by simp)) False.elim) False.elim
  | wait _ _ =>
      rw [if_neg (by simp), Int.add_zero]
      exact h.frame rfl (Or.imp_right False.elim) id
  | thread =>
      rw [if_neg (by simp), Int.add_zero]
      exact h.frame (by simp) (by simp [Control.Resubmits]) False.elim
  | idle _ =>
      rw [if_neg (by simp), Int.add_zero]
      exact h
  | _ =>
      rw [if_neg (by simp), Int.add_zero]
      exact h.frame rfl (Or.imp_right False.elim) False.elim

end step

/-! ## Runs

The submissions of a run are counted along the labels of its moves. A task
within its policy stays so, by induction over the steps, and together with the
end of the run this is what it means to settle. -/

namespace Scheduler

variable {σ ι : Type} {sched : Scheduler σ ι} {inputs : Nat → StepInput ι} {s₀ : SchedulerState σ}

/-- How often a task has been submitted. -/
def submissionsOf (s : SchedulerState σ) (x : Uuid) : Nat :=
  (s.submissions.map TaskRequest.taskId).count x

/-- One step submits the task of its move, once. -/
theorem submissionsOf_append {s s' : SchedulerState σ} {g : TaskGraph} {submitted : Option Uuid}
    {hash : String}
    (h : s'.submissions = s.submissions ++ (submitted.map (g.request hash)).toList) (x : Uuid) :
    (submissionsOf s' x : Int) = submissionsOf s x + if submitted = some x then 1 else 0 := by
  unfold submissionsOf
  rw [h, List.map_append, List.count_append]
  cases submitted with
  | none => simp
  | some id =>
      rcases eq_or_ne id x with rfl | hne
      · simp [TaskGraph.request]
      · simp [TaskGraph.request, hne]

variable (sched) in
theorem states_withinPolicy (hquiet : Quiet inputs) (hc : Coherent s₀.graph s₀.control)
    (h₀ : s₀.control = .iterate 0) (hsub : s₀.submissions = []) {x : Uuid}
    (hmax : 1 ≤ (s₀.graph.task x).metadata.retry.maxAttempts)
    (hattempts : 0 ≤ (s₀.graph.task x).metadata.attempts) (k : Nat) :
    WithinPolicy x (sched.states inputs s₀ k).graph (sched.states inputs s₀ k).control
      (submissionsOf (sched.states inputs s₀ k) x) := by
  induction k with
  | zero =>
      have hnone : submissionsOf s₀ x = 0 := by simp [submissionsOf, hsub]
      rw [states_zero, hnone, h₀]
      exact ⟨by omega, fun _ => ⟨hattempts, by omega⟩, False.elim⟩
  | succ k ih =>
      obtain ⟨submitted, hmove, hsubs, _⟩ := moves_of_quiet sched hquiet hc k
      rw [submissionsOf_append hsubs]
      exact hmove.withinPolicy ih

theorem states_retry (hquiet : Quiet inputs) (hc : Coherent s₀.graph s₀.control) (k : Nat)
    (x : Uuid) : ((sched.states inputs s₀ k).graph.task x).metadata.retry =
      (s₀.graph.task x).metadata.retry := by
  induction k with
  | zero => rfl
  | succ k ih =>
      obtain ⟨_, hmove, _⟩ := moves_of_quiet sched hquiet hc k
      exact (hmove.retry_eq x).trans ih

/-- The run ends: no exception leaves it, and at its end every task is terminal
after at most `max_attempts` submissions. -/
structure Settles (sched : Scheduler σ ι) (inputs : Nat → StepInput ι) (s₀ : SchedulerState σ) :
    Prop where
  calm : ∀ k error, (sched.states inputs s₀ k).control ≠ .threw error
  returns : ∃ k, (sched.states inputs s₀ k).control = .returned ∧
    ∀ x ∈ s₀.graph.insertionOrder, ((sched.states inputs s₀ k).graph.status x).isTerminal = true ∧
      (submissionsOf (sched.states inputs s₀ k) x : Int) ≤
        (s₀.graph.task x).metadata.retry.maxAttempts

/-- What a run is given: tasks that are to be tried at least once, as many
rounds as there are layers, no `Cancel`, and a worker that is not waited for
forever. -/
structure Ordinary (sched : Scheduler σ ι) (inputs : Nat → StepInput ι) (s₀ : SchedulerState σ) :
    Prop where
  idle : NoneRunning s₀.graph
  layers : s₀.graph.Layered 10000
  policy : ∀ x ∈ s₀.graph.insertionOrder,
    1 ≤ (s₀.graph.task x).metadata.retry.maxAttempts ∧ 0 ≤ (s₀.graph.task x).metadata.attempts
  quiet : Quiet inputs
  responsive : sched.Responsive inputs s₀

theorem Ordinary.settles (h : sched.Ordinary inputs s₀) (h₀ : s₀.control = .iterate 0)
    (hsub : s₀.submissions = []) (haccepts : sched.Accepted inputs s₀) :
    sched.Settles inputs s₀ := by
  have hc : Coherent s₀.graph s₀.control := by
    rw [h₀]
    exact Coherent.start h.idle
  have hacyclic := h.layers.acyclic
  obtain ⟨k, hk⟩ := exists_returned_of_quiet h.quiet hc h₀ hacyclic haccepts h.responsive
  refine ⟨not_threw_of_quiet h.quiet hc h₀ hacyclic haccepts, k, hk, fun x hx => ?_⟩
  obtain ⟨hmax, hattempts⟩ := h.policy x hx
  have hpolicy := states_withinPolicy sched h.quiet hc h₀ hsub hmax hattempts k
  refine ⟨allTerminal_of_returned hc h₀ h.layers hk x hx, ?_⟩
  rw [← states_retry h.quiet hc k x]
  exact hpolicy.bound

/-! ## When the executor is called

The thread calls the executor in two places, so an invariant of the executor
needs a lemma for a submission and one for a wait; all other steps leave it
alone. -/

variable {input : StepInput ι} {s : SchedulerState σ}

/-- The executor is as it was, and no wait for it begins. -/
def Leaves (s s' : SchedulerState σ) : Prop :=
  s'.executor = s.executor ∧ ¬ s'.control.IsWaiting

theorem leaves_goto {c : Control} (hc : ¬ c.IsWaiting) : Leaves s (s.goto c) := ⟨rfl, hc⟩

theorem leaves_mark {s' : SchedulerState σ} (hs : s'.executor = s.executor) (id : Uuid)
    (target : TaskStatus) {next : Control} (hnext : ¬ next.IsWaiting) :
    Leaves s (s'.mark id target next) := by
  refine ⟨(s'.mark_executor id target next).trans hs, ?_⟩
  rcases s'.mark_control id target next with heq | ⟨error, heq⟩
  · rw [heq]
    exact hnext
  · rw [heq]
    exact fun h => h

variable (sched input) in
/-- Away from submission and wait the executor is left alone, and no wait begins. -/
theorem advance_leaves (hsubmit : ¬ s.control.Submits)
    (hwait : ¬ s.control.IsWaiting) : Leaves s (sched.advance input s) := by
  unfold advance
  split
  · split
    · exact leaves_goto id
    · exact leaves_goto id
  · split
    · exact leaves_mark rfl _ _ id
    · exact leaves_goto id
  · split
    · exact leaves_goto id
    · exact leaves_goto id
  · unfold tryCacheHit
    split
    · exact ⟨rfl, id⟩
    · split
      · exact ⟨rfl, id⟩
      · exact leaves_mark rfl _ _ id
  · split
    · exact leaves_goto id
    · exact ⟨rfl, id⟩
  -- inside a dispatch only two phases call the executor
  · next n ids id phase hcontrol =>
      cases phase with
      | submit =>
          rw [hcontrol] at hsubmit
          exact absurd trivial hsubmit
      | await produced missed =>
          rw [hcontrol] at hwait
          exact absurd trivial hwait
      | cacheHit output => exact leaves_mark rfl _ _ (fun h => h)
      | dispatch =>
          simp only [dispatchAndAwait]
          split
          · exact leaves_goto fun h => h
          · exact leaves_mark rfl _ _ fun h => h
      | storeOutput declared =>
          simp only [dispatchAndAwait]
          split
          · exact leaves_goto fun h => h
          · exact ⟨rfl, fun h => h⟩
      | markFailed retryable =>
          cases retryable with
          | true => exact leaves_mark rfl _ _ fun h => h
          | false => exact leaves_mark rfl _ _ fun h => h
      | markPending => exact leaves_mark rfl _ _ fun h => h
      | recordSucceeded declared => exact ⟨rfl, fun h => h⟩
      | threadOutputs declared => exact ⟨rfl, fun h => h⟩
      | recordCancelled => exact ⟨rfl, fun h => h⟩
  · next hcontrol => exact ⟨rfl, hwait⟩
  · next hcontrol => exact ⟨rfl, hwait⟩

variable (sched input) in
/-- A submission that is accepted begins a wait, one that is refused ends the run. -/
theorem advance_submit {n : Nat} {ids : List Uuid} {id : Uuid}
    (hcontrol : s.control = .task n ids id .submit) :
    (∃ executor, sched.executor.submit s.executor input.worker
        (s.graph.request s.runPipelineHash id) = .ok executor ∧
      (sched.advance input s).executor = executor ∧ (sched.advance input s).control.IsWaiting) ∨
    Leaves s (sched.advance input s) := by
  simp only [advance, hcontrol, dispatchAndAwait]
  split
  · next error _ => exact .inr ⟨rfl, fun h => h⟩
  · next executor haccepted => exact .inl ⟨executor, haccepted, rfl, trivial⟩

variable (sched input) in
/-- A wait goes on, unless the worker has been silent for the eleventh time or
has reported the end of the task. -/
theorem advance_await {n : Nat} {ids : List Uuid} {id : Uuid} {produced : List ArtifactRef}
    {missed : Nat} (hcontrol : s.control = .task n ids id (.await produced missed)) :
    (sched.advance input s).executor =
        (sched.executor.waitForEvent s.executor input.worker).2 ∧
      ((sched.advance input s).control.IsWaiting ∨
        (10 ≤ missed ∧ (sched.executor.waitForEvent s.executor input.worker).1 = none) ∨
        ∃ event, (sched.executor.waitForEvent s.executor input.worker).1 = some event ∧
          event.kind.isTerminal = true) := by
  simp only [advance, hcontrol, dispatchAndAwait, awaitEvent]
  split
  · next executor hwait =>
      rw [hwait]
      split
      · exact ⟨rfl, .inr (.inl ⟨by omega, rfl⟩)⟩
      · exact ⟨rfl, .inl trivial⟩
  · next event executor hwait =>
      rw [hwait]
      split
      · cases hkind : event.kind with
        | completed =>
            exact ⟨SchedulerState.mark_executor _ _ _ _, .inr (.inr ⟨event, rfl, by rw [hkind]; rfl⟩)⟩
        | cancelled =>
            exact ⟨SchedulerState.mark_executor _ _ _ _, .inr (.inr ⟨event, rfl, by rw [hkind]; rfl⟩)⟩
        | failed code message recoverable =>
            exact ⟨rfl, .inr (.inr ⟨event, rfl, by rw [hkind]; rfl⟩)⟩
        | artifactProduced _ | progress _ | log _ | heartbeat => exact ⟨rfl, .inl trivial⟩
      · exact ⟨rfl, .inl trivial⟩

end Scheduler

end SpatialPlatform.Engine
