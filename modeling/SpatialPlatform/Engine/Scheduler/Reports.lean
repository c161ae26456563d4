import SpatialPlatform.Engine.Scheduler.Attempts

/-!
# What the executor reports

An attempt of a task ends with an event of the executor, or with its eleventh
silence. What becomes of the task is a matter of the retry policy: a recoverable
failure is tried again while attempts are left, and everything else is final.
`RetryPolicy.settle` says so for the ends of the attempts of one task, one after
the other, without the scheduler.

* `decides_of_reports` — wherever a dispatch is decided, it is decided as the
  policy settles the reports.
-/

namespace SpatialPlatform.Engine

open SpatialPlatform.Core SpatialPlatform.Lib

/-- How an attempt of a task ends. -/
inductive AttemptEnd where
  | completed
  | failed (recoverable : Bool)
  | cancelled
  deriving DecidableEq, Repr

/-- How a task ends whose attempts end so, after `attempts` that have failed
before; it has not ended as long as all are to be tried again. -/
def RetryPolicy.settle (policy : RetryPolicy) (attempts : Int) : List AttemptEnd → Option TaskStatus
  | [] => none
  | .completed :: _ => some .succeeded
  | .cancelled :: _ => some .cancelled
  | .failed recoverable :: ends =>
      if recoverable && attempts + 1 < policy.maxAttempts then policy.settle (attempts + 1) ends
      else some .failed

/-- The end of an attempt that an event of the executor is. -/
def WorkerEventKind.attemptEnd : WorkerEventKind → Option AttemptEnd
  | .completed => some .completed
  | .failed _ _ recoverable => some (.failed recoverable)
  | .cancelled => some .cancelled
  | .progress _ | .log _ | .artifactProduced _ | .heartbeat => none

namespace RetryPolicy

variable {policy : RetryPolicy} {attempts : Int} {ends more : List AttemptEnd} {status : TaskStatus}

/-- What has ended stays so. -/
theorem settle_append_of_some (h : policy.settle attempts ends = some status) :
    policy.settle attempts (ends ++ more) = some status := by
  induction ends generalizing attempts with
  | nil => exact (nomatch h)
  | cons e ends ih =>
      cases e with
      | completed | cancelled => exact h
      | failed recoverable =>
          simp only [settle, List.cons_append] at h ⊢
          split at h
          · rename_i hretry
            rw [if_pos hretry]
            exact ih h
          · rename_i hretry
            rw [if_neg hretry]
            exact h

/-- All attempts before the last are counted. -/
theorem settle_append_of_none (h : policy.settle attempts ends = none) :
    policy.settle attempts (ends ++ more) = policy.settle (attempts + ends.length) more := by
  induction ends generalizing attempts with
  | nil => simp
  | cons e ends ih =>
      cases e with
      | completed | cancelled => exact (nomatch h)
      | failed recoverable =>
          simp only [settle, List.cons_append] at h ⊢
          split at h
          · rename_i hretry
            rw [if_pos hretry, ih h, List.length_cons]
            congr 1
            omega
          · exact (nomatch h)

end RetryPolicy

/-! ## A dispatch and its end

The retry policy makes one outcome out of the ends of the attempts. `Tracks`
says, for a task and the ends that were reported for it, where the thread can
be; a move without a report keeps it. -/

/-- The status in which a phase leaves the dispatch of its task, once it is decided. -/
def Phase.outcome : Phase → Option TaskStatus
  | .storeOutput _ | .recordSucceeded _ | .threadOutputs _ => some .succeeded
  | .markFailed false => some .failed
  | .recordCancelled => some .cancelled
  | _ => none

/-- The current task and its status, once the dispatch is decided. -/
def Control.decided : Control → Option (Uuid × TaskStatus)
  | .task _ _ id phase => phase.outcome.map (id, ·)
  | _ => none

/-- A decided dispatch of a task ends in its outcome. -/
def Control.Decides (outcome : Uuid → TaskStatus) (c : Control) : Prop :=
  ∀ end_ ∈ c.decided, outcome end_.1 = end_.2

/-- The thread replays a cached output. -/
def Control.IsCacheHit (c : Control) : Prop :=
  ∃ n ids id output, c = .task n ids id (.cacheHit output)

/-- The thread is at work on a task. -/
def Control.IsAt (c : Control) (x : Uuid) : Prop := ∃ n ids phase, c = .task n ids x phase

/-- Where a task stands whose attempts have ended so: before its dispatch none
has; during the dispatch the policy has settled what the phase says, and every
attempt so far is counted if it is to be tried again. -/
structure Tracks (policy : RetryPolicy) (attempts : Int) (x : Uuid) (g : TaskGraph) (c : Control)
    (ends : List AttemptEnd) : Prop where
  waiting : g.status x = .pending → ¬ c.IsAt x → ends = [] ∧ (g.task x).metadata.attempts = attempts
  current : ∀ n ids phase, c = .task n ids x phase → policy.settle attempts ends = phase.outcome ∧
    (phase.outcome = none → (g.task x).metadata.attempts = attempts + ends.length)

section step

variable {policy : RetryPolicy} {attempts : Int} {x : Uuid} {g g' : TaskGraph} {c c' : Control}
  {ends : List AttemptEnd} {label : Option Uuid}

theorem Control.isAt_task {n : Nat} {ids : List Uuid} {id : Uuid} {phase : Phase} :
    (Control.task n ids id phase).IsAt x ↔ id = x := by
  constructor
  · rintro ⟨_, _, _, heq⟩
    cases heq
    rfl
  · rintro rfl
    exact ⟨n, ids, phase, rfl⟩

theorem Control.not_isAt_of_ne (h : ∀ n ids id phase, c ≠ .task n ids id phase) : ¬ c.IsAt x := by
  rintro ⟨n, ids, phase, rfl⟩
  exact h n ids x phase rfl

theorem pending_of_setState {id : Uuid} {state : TaskStatus}
    (h : (g.setState id state).status x = .pending) (hne : id ≠ x) : g.status x = .pending := by
  rwa [TaskGraph.status_setState, if_neg (Ne.symm hne)] at h

/-- A task that a move marks is not pending behind it. -/
theorem ne_of_setState {id : Uuid} {state : TaskStatus} (hstate : state ≠ .pending)
    (h : (g.setState id state).status x = .pending) : id ≠ x := by
  rintro rfl
  rw [TaskGraph.status_setState, if_pos rfl] at h
  exact hstate h

/-- The thread is at a task that is not pending, and so at another one. -/
theorem waiting_of_ne_pending {n : Nat} {ids : List Uuid} {id : Uuid} {phase : Phase}
    (hne : g.status id ≠ .pending) (h : g.status x = .pending) :
    g.status x = .pending ∧ ¬ (Control.task n ids id phase).IsAt x := by
  rw [Control.isAt_task]
  refine ⟨h, ?_⟩
  rintro rfl
  exact hne h

/-- A pending task that the thread is not at after a move was one before it. -/
theorem Move.waiting_of_waiting (hm : Move g c g' c' label) (hc : Coherent g c)
    (hwait : ¬ c.IsWaiting) (hpending : g'.status x = .pending) (hnot : ¬ c'.IsAt x) :
    g.status x = .pending ∧ ¬ c.IsAt x := by
  cases hm with
  | enter _ | exhaust _ | pass _ | finish _ | snapshot _ | again | stall | hitCancelled _ | miss =>
      exact ⟨hpending, Control.not_isAt_of_ne (by simp)⟩
  | @propagate n id ids p hfailed =>
      have hid : id ≠ x :=
        ne_of_setState (by cases (g.task id).metadata.failure <;> simp [FailurePolicy.status]) hpending
      exact ⟨pending_of_setState hpending hid, Control.not_isAt_of_ne (by simp)⟩
  | hit output _ =>
      rw [Control.isAt_task] at hnot
      exact ⟨pending_of_setState hpending hnot, Control.not_isAt_of_ne (by simp)⟩
  | replay _ =>
      rw [Control.isAt_task] at hnot ⊢
      rw [TaskGraph.status_setState, if_neg (Ne.symm hnot), TaskGraph.status_setOutputs] at hpending
      exact ⟨hpending, hnot⟩
  | dispatch _ | markFailed _ | retry _ =>
      rw [Control.isAt_task] at hnot ⊢
      exact ⟨pending_of_setState hpending hnot, hnot⟩
  | submit _ | stored | recorded =>
      rw [Control.isAt_task] at hnot ⊢
      exact ⟨hpending, hnot⟩
  | giveUp _ =>
      have hid := ne_of_setState (by simp) hpending
      rw [Control.isAt_task]
      exact ⟨pending_of_setState hpending hid, hid⟩
  -- the thread goes on from a task that has been marked before
  | dispatchCancelled hcancelled => exact waiting_of_ne_pending (by simp [hcancelled]) hpending
  | refuse error =>
      have hrun : g.status _ = .running := hc.1
      exact waiting_of_ne_pending (by simp [hrun]) hpending
  | recordedCancelled =>
      have hcancelled : g.status _ = .cancelled := hc.1
      exact waiting_of_ne_pending (by simp [hcancelled]) hpending
  | thread =>
      have hdone : g.status _ = .succeeded := hc.1
      rw [TaskGraph.status_threadOutputsToDependents] at hpending
      exact waiting_of_ne_pending (by simp [hdone]) hpending
  | wait _ _ | complete _ | fail _ | abandon _ => exact absurd trivial hwait
  | idle _ => exact ⟨hpending, hnot⟩

/-- The thread comes to a pending task, or it was at the task before and nothing was decided. -/
theorem Move.current_of_current {n : Nat} {ids : List Uuid} {phase : Phase}
    (hm : Move g c g' (.task n ids x phase) label) (hu : Uncancelled g c) (hwait : ¬ c.IsWaiting)
    (hmiss : ¬ c.IsCacheHit) :
    (∃ phase', c = .task n ids x phase' ∧ phase'.outcome = phase.outcome) ∨
      g.status x = .pending ∧ ¬ c.IsAt x ∧ phase.outcome = none := by
  have hready : ∀ {ids p}, ¬ (Control.ready n ids p).IsAt x := by
    rintro ids p ⟨_, _, _, heq⟩
    cases heq
  cases hm with
  | miss => exact .inr ⟨hu x List.mem_cons_self, hready, rfl⟩
  | hit output hpending => exact .inr ⟨hpending, hready, rfl⟩
  | replay _ => exact absurd ⟨_, _, _, _, rfl⟩ hmiss
  | dispatch _ | submit _ | stored | recorded | markFailed _ | retry _ => exact .inl ⟨_, rfl, rfl⟩
  | wait _ _ | complete _ | fail _ | abandon _ => exact absurd trivial hwait
  | idle hdead => exact (nomatch hdead)

/-- A move on which the executor reports nothing. -/
theorem Move.tracks (hm : Move g c g' c' label) (hc : Coherent g c) (hu : Uncancelled g c)
    (hwait : ¬ c.IsWaiting) (hmiss : ¬ c.IsCacheHit) (h : Tracks policy attempts x g c ends) :
    Tracks policy attempts x g' c' ends := by
  have hattempts : (g'.task x).metadata.attempts = (g.task x).metadata.attempts := by
    rcases hm.metadata x with heq | ⟨n, ids, produced, missed, rfl, _⟩
    · rw [heq]
    · exact absurd trivial hwait
  constructor
  · intro hpending hnot
    obtain ⟨hpending, hnot⟩ := hm.waiting_of_waiting hc hwait hpending hnot
    rw [hattempts]
    exact h.waiting hpending hnot
  · rintro n ids phase rfl
    rw [hattempts]
    rcases hm.current_of_current hu hwait hmiss with ⟨phase', hphase, hsame⟩ | ⟨hpending, hnot, hnone⟩
    · rw [← hsame]
      exact h.current n ids phase' hphase
    · obtain ⟨hends, hcount⟩ := h.waiting hpending hnot
      rw [hends, hnone, hcount]
      exact ⟨rfl, fun _ => (Int.add_zero _).symm⟩

end step

/-! ## Reports

What the executor tells the thread that an attempt has ended. A report decides
the dispatch or is counted as an attempt, and both are what the policy says of
it. -/

namespace Scheduler

variable {σ ι : Type} (sched : Scheduler σ ι)

/-- The end of an attempt that the executor reports to the thread that waits for
it, if it does; the eleventh silence of an attempt is a failure that may be
recovered from. -/
def reported (input : StepInput ι) (s : SchedulerState σ) : Option (Uuid × AttemptEnd) :=
  match s.control with
  | .task _ _ id (.await _ missed) =>
      match (sched.executor.waitForEvent s.executor input.worker).1 with
      | none => if missed + 1 > 10 then some (id, .failed true) else none
      | some event => if event.taskId = id then event.kind.attemptEnd.map (id, ·) else none
  | _ => none

/-- What the executor reports in the first steps of a run. -/
def reports (inputs : Nat → StepInput ι) (s₀ : SchedulerState σ) (k : Nat) : List (Uuid × AttemptEnd) :=
  (List.range k).filterMap fun i => sched.reported (inputs i) (sched.states inputs s₀ i)

/-- The ends of the attempts of one task. -/
def endsOf (x : Uuid) (reports : List (Uuid × AttemptEnd)) : List AttemptEnd :=
  reports.filterMap fun report => if report.1 = x then some report.2 else none

variable {sched} {inputs : Nat → StepInput ι} {s₀ s : SchedulerState σ} {input : StepInput ι}
  {x : Uuid}

theorem reported_eq_none (hwait : ¬ s.control.IsWaiting) : sched.reported input s = none := by
  unfold reported
  split
  next hcontrol =>
    rw [hcontrol] at hwait
    exact absurd trivial hwait
  next => rfl

theorem reports_succ (k : Nat) : sched.reports inputs s₀ (k + 1) = sched.reports inputs s₀ k ++
    (sched.reported (inputs k) (sched.states inputs s₀ k)).toList := by
  unfold reports
  rw [List.range_succ, List.filterMap_append, List.filterMap_cons, List.filterMap_nil]
  cases sched.reported (inputs k) (sched.states inputs s₀ k) <;> rfl

theorem endsOf_append (reports more : List (Uuid × AttemptEnd)) :
    endsOf x (reports ++ more) = endsOf x reports ++ endsOf x more :=
  List.filterMap_append

theorem endsOf_singleton (id : Uuid) (e : AttemptEnd) :
    endsOf x [(id, e)] = if id = x then [e] else [] := by
  unfold endsOf
  by_cases h : id = x <;> simp [h]

/-- While nothing is reported the wait goes on. -/
theorem advance_of_reported_none {n : Nat} {ids : List Uuid} {id : Uuid} {produced : List ArtifactRef}
    {missed : Nat} (hcontrol : s.control = .task n ids id (.await produced missed))
    (hnone : sched.reported input s = none) :
    (sched.advance input s).graph = s.graph ∧ ∃ produced' missed',
      (sched.advance input s).control = .task n ids id (.await produced' missed') := by
  simp only [reported, hcontrol] at hnone
  simp only [advance, hcontrol, dispatchAndAwait, awaitEvent]
  split
  next executor hevent =>
    rw [hevent] at hnone
    split
    next hsilent => simp [hsilent] at hnone
    next => exact ⟨rfl, _, _, rfl⟩
  next event executor hevent =>
    rw [hevent] at hnone
    split
    next hid =>
      simp only [hid, if_true, Option.map_eq_none_iff] at hnone
      cases hkind : event.kind <;> simp only [hkind, WorkerEventKind.attemptEnd, reduceCtorEq] at hnone
      all_goals exact ⟨rfl, _, _, rfl⟩
    next => exact ⟨rfl, _, _, rfl⟩

/-- The step from `s` to `s'` decides the dispatch as the policy settles the end
of this attempt, and counts the attempt if that is not the end; nothing happens
to other tasks. -/
structure Decides (s s' : SchedulerState σ) (n : Nat) (ids : List Uuid) (id : Uuid) (e : AttemptEnd) :
    Prop where
  decided : ∃ phase, s'.control = .task n ids id phase ∧
    (s.graph.task id).metadata.retry.settle (s.graph.task id).metadata.attempts [e] = phase.outcome ∧
    (phase.outcome = none →
      (s'.graph.task id).metadata.attempts = (s.graph.task id).metadata.attempts + 1)
  others : ∀ x, x ≠ id → s'.graph.status x = s.graph.status x ∧
    (s'.graph.task x).metadata = (s.graph.task x).metadata

variable {n : Nat} {ids : List Uuid} {id : Uuid} {produced : List ArtifactRef} {missed : Nat}
  {e : AttemptEnd}

theorem decides_failed (executor : σ) (error : ErrorRecord) :
    Decides s (sched.failed { s with executor := executor } n ids id error) n ids id
      (.failed error.recoverable) := by
  have hcount : ((s.graph.countAttempt id).task id).metadata.attempts =
      (s.graph.task id).metadata.attempts + 1 := by
    rw [TaskGraph.task_countAttempt, if_pos rfl]
  have hretry : ((s.graph.countAttempt id).task id).metadata.retry =
      (s.graph.task id).metadata.retry := by
    rw [TaskGraph.task_countAttempt, if_pos rfl]
  constructor
  · refine ⟨_, rfl, ?_, fun _ => hcount⟩
    rw [hcount, hretry, RetryPolicy.settle, RetryPolicy.settle]
    cases error.recoverable && decide ((s.graph.task id).metadata.attempts + 1 <
      (s.graph.task id).metadata.retry.maxAttempts) <;> rfl
  · intro x hne
    constructor
    · exact s.graph.status_countAttempt id x
    · show ((s.graph.countAttempt id).task x).metadata = _
      rw [TaskGraph.task_countAttempt, if_neg hne]

/-- The end of an attempt that the executor reports is the one that is decided on. -/
theorem decides_of_reported (hcontrol : s.control = .task n ids id (.await produced missed))
    (hrun : s.graph.status id = .running) (hreport : sched.reported input s = some (x, e)) :
    x = id ∧ Decides s (sched.advance input s) n ids id e := by
  -- marking this task says nothing about another one
  have hothers : ∀ (outputs : List ArtifactRef) (state : TaskStatus) (y : Uuid), y ≠ id →
      ((s.graph.setOutputs id outputs).setState id state).status y = s.graph.status y ∧
        (((s.graph.setOutputs id outputs).setState id state).task y).metadata =
          (s.graph.task y).metadata := by
    intro outputs state y hne
    simp [hne]
  simp only [reported, hcontrol] at hreport
  simp only [advance, hcontrol, dispatchAndAwait, awaitEvent]
  split
  -- silence is reported as a crash when it is the eleventh
  next executor hevent =>
    rw [hevent] at hreport
    split
    next hsilent =>
      simp only [hsilent, if_true, Option.some.injEq, Prod.mk.injEq] at hreport
      obtain ⟨rfl, rfl⟩ := hreport
      exact ⟨rfl, decides_failed executor _⟩
    next hsilent => simp [hsilent] at hreport
  next event executor hevent =>
    rw [hevent] at hreport
    split
    next hid =>
      simp only [hid, if_true] at hreport
      cases hkind : event.kind with
      | completed =>
          rw [hkind] at hreport
          cases hreport
          refine ⟨rfl, ?_⟩
          simp only [handleEvent]
          rw [SchedulerState.mark_of_legal _ (by simp [hrun, TaskStatus.isLegal])]
          exact ⟨⟨_, rfl, rfl, fun h => absurd h (Option.some_ne_none _)⟩, hothers _ _⟩
      | cancelled =>
          rw [hkind] at hreport
          cases hreport
          refine ⟨rfl, ?_⟩
          simp only [handleEvent]
          rw [SchedulerState.mark_of_legal _ (by simp [hrun, TaskStatus.isLegal])]
          exact ⟨⟨_, rfl, rfl, fun h => absurd h (Option.some_ne_none _)⟩, hothers _ _⟩
      | failed code message recoverable =>
          rw [hkind] at hreport
          cases hreport
          exact ⟨rfl, decides_failed executor _⟩
      | artifactProduced _ | progress _ | log _ | heartbeat =>
          rw [hkind] at hreport
          cases hreport
    next hid => simp [hid] at hreport

/-! ## Runs

The two kinds of steps together, and the induction over a run. After the end of
the run nothing more is reported, so what the policy has settled is final. -/

variable {policy : RetryPolicy} {attempts : Int} {ends : List AttemptEnd}

/-- One step of the thread, with what the executor reports. -/
theorem tracks_advance (hc : Coherent s.graph s.control) (hu : Uncancelled s.graph s.control)
    (hmiss : ¬ s.control.IsCacheHit) (hpolicy : (s.graph.task x).metadata.retry = policy)
    (h : Tracks policy attempts x s.graph s.control ends) :
    Tracks policy attempts x (sched.advance input s).graph (sched.advance input s).control
      (ends ++ endsOf x (sched.reported input s).toList) := by
  by_cases hwait : s.control.IsWaiting
  · obtain ⟨n, ids, id, produced, hcontrol⟩ := Control.isWaiting_iff.mp hwait
    rw [hcontrol] at hc
    have hrun : s.graph.status id = .running := hc.1
    cases hreport : sched.reported input s with
    | none =>
        obtain ⟨hgraph, produced', missed', hcontrol'⟩ := advance_of_reported_none hcontrol hreport
        rw [hgraph, hcontrol', Option.toList_none, endsOf, List.filterMap_nil, List.append_nil]
        constructor
        · intro hpending hnot
          refine h.waiting hpending ?_
          rwa [hcontrol, Control.isAt_task, ← Control.isAt_task]
        · intro n' ids' phase heq
          cases heq
          exact h.current n ids (.await produced _) hcontrol
    | some report =>
        obtain ⟨y, e⟩ := report
        obtain ⟨rfl, ⟨phase, hcontrol', hsettle, hcount⟩, hothers⟩ :=
          decides_of_reported hcontrol hrun hreport
        rw [Option.toList_some, endsOf_singleton]
        rcases eq_or_ne y x with rfl | hne
        · -- all attempts before this one were to be tried again
          obtain ⟨hopen, hbefore⟩ := h.current n ids _ hcontrol
          have hbefore := hbefore rfl
          rw [if_pos rfl]
          constructor
          · intro _ hnot
            rw [hcontrol', Control.isAt_task] at hnot
            exact absurd rfl hnot
          · intro n' ids' phase' heq
            cases hcontrol'.symm.trans heq
            rw [RetryPolicy.settle_append_of_none hopen, ← hbefore, ← hpolicy, hsettle]
            refine ⟨rfl, fun hnone => ?_⟩
            rw [hcount hnone, hbefore, List.length_append, List.length_singleton]
            omega
        · obtain ⟨hstatus, hmetadata⟩ := hothers x (Ne.symm hne)
          rw [if_neg hne, List.append_nil]
          constructor
          · intro hpending _
            rw [hmetadata]
            rw [hstatus] at hpending
            refine h.waiting hpending ?_
            rwa [hcontrol, Control.isAt_task]
          · intro n' ids' phase' heq
            cases hcontrol'.symm.trans heq
            exact absurd rfl hne
  · obtain ⟨label, hmove, _⟩ := sched.advance_moves input hc
    rw [reported_eq_none hwait, Option.toList_none, endsOf, List.filterMap_nil, List.append_nil]
    exact hmove.tracks hc hu hwait hmiss h

variable (sched) in
theorem states_tracks (hquiet : Quiet inputs) (hc : Coherent s₀.graph s₀.control)
    (h₀ : s₀.control = .iterate 0) (hacyclic : s₀.graph.Acyclic)
    (hmiss : ∀ k, ¬ (sched.states inputs s₀ k).control.IsCacheHit) (x : Uuid) (k : Nat) :
    Tracks (s₀.graph.task x).metadata.retry (s₀.graph.task x).metadata.attempts x
      (sched.states inputs s₀ k).graph (sched.states inputs s₀ k).control
      (endsOf x (sched.reports inputs s₀ k)) := by
  induction k with
  | zero =>
      rw [states_zero, h₀]
      exact ⟨fun _ _ => ⟨rfl, rfl⟩, fun _ _ _ heq => (nomatch heq)⟩
  | succ k ih =>
      rw [states_succ_of_quiet hquiet, reports_succ, endsOf_append]
      exact tracks_advance (states_coherent hc k) (unblocked_of_quiet sched hquiet hc h₀ hacyclic k).2
        (hmiss k) (states_retry hquiet hc k x) ih

/-- Wherever a dispatch is decided, it is decided as the retry policy settles
what the executor has reported for the task. -/
theorem decides_of_reports {outcome : Uuid → TaskStatus} (hquiet : Quiet inputs)
    (hc : Coherent s₀.graph s₀.control) (h₀ : s₀.control = .iterate 0) (hacyclic : s₀.graph.Acyclic)
    (hmiss : ∀ k, ¬ (sched.states inputs s₀ k).control.IsCacheHit)
    (houtcome : ∀ k x status, (s₀.graph.task x).metadata.retry.settle
      (s₀.graph.task x).metadata.attempts (endsOf x (sched.reports inputs s₀ k)) = some status →
        outcome x = status) (k : Nat) :
    (sched.states inputs s₀ k).control.Decides outcome := by
  rintro ⟨x, status⟩ hdecided
  unfold Control.decided at hdecided
  split at hdecided
  next n ids id phase hcontrol =>
    obtain ⟨st, hst, heq⟩ := Option.map_eq_some_iff.mp hdecided
    cases heq
    apply houtcome k
    rw [((states_tracks sched hquiet hc h₀ hacyclic hmiss x k).current n ids phase hcontrol).1]
    exact hst
  next => exact (nomatch hdecided)

/-- After the end of a run the executor reports nothing, so the policy has settled what it ever will. -/
theorem settled_of_dead {outcome : Uuid → TaskStatus} {j : Nat} (hquiet : Quiet inputs)
    (hdead : (sched.states inputs s₀ j).control.isLive = false)
    (hend : ∀ x status, (s₀.graph.task x).metadata.retry.settle (s₀.graph.task x).metadata.attempts
      (endsOf x (sched.reports inputs s₀ j)) = some status → outcome x = status)
    (k : Nat) (x : Uuid) (status : TaskStatus)
    (h : (s₀.graph.task x).metadata.retry.settle (s₀.graph.task x).metadata.attempts
      (endsOf x (sched.reports inputs s₀ k)) = some status) : outcome x = status := by
  -- reports are only added
  have hgrow : ∀ m i, ∃ more, sched.reports inputs s₀ (i + m) = sched.reports inputs s₀ i ++ more := by
    intro m i
    induction m with
    | zero => exact ⟨[], (List.append_nil _).symm⟩
    | succ m ih =>
        obtain ⟨more, hmore⟩ := ih
        exact ⟨more ++ _, by rw [← Nat.add_assoc, reports_succ, hmore, List.append_assoc]⟩
  -- a thread that has ended waits for nothing
  have hnone : ∀ m, sched.reports inputs s₀ (j + m) = sched.reports inputs s₀ j := by
    intro m
    induction m with
    | zero => rfl
    | succ m ih =>
        have hquiet' : ¬ (sched.states inputs s₀ (j + m)).control.IsWaiting := by
          rw [states_eq_of_dead hquiet (Nat.le_add_right j m) hdead]
          intro hwait
          obtain ⟨n, ids, id, produced, hcontrol⟩ := Control.isWaiting_iff.mp hwait
          rw [hcontrol] at hdead
          exact (nomatch hdead)
        rw [← Nat.add_assoc, reports_succ, reported_eq_none hquiet', ih, Option.toList_none,
          List.append_nil]
  apply hend
  rcases Nat.le_total k j with hkj | hjk
  · obtain ⟨m, rfl⟩ := Nat.exists_eq_add_of_le hkj
    obtain ⟨more, hmore⟩ := hgrow m k
    rw [hmore, endsOf_append]
    exact RetryPolicy.settle_append_of_some h
  · obtain ⟨m, rfl⟩ := Nat.exists_eq_add_of_le hjk
    rwa [hnone] at h

end Scheduler

end SpatialPlatform.Engine
