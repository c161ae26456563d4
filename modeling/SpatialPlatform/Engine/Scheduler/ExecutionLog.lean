import SpatialPlatform.Engine.Scheduler.AttemptNumbers

/-!
# The execution log

`RecordRun` writes a row of `task_runs` when a request has ended, and nothing
else does.

* `log_follows_submissions` — the rows of a run are, in order, those of its
  requests, but for the last one until its end is recorded.
-/

namespace SpatialPlatform.Engine

open SpatialPlatform.Core SpatialPlatform.Lib

/-- The phases between a submission and its row. -/
def Phase.isUnrecorded : Phase → Bool
  | .await _ _ | .storeOutput _ | .recordSucceeded _ | .recordCancelled => true
  | _ => false

/-- What the row of a request is for. -/
def TaskRequest.entry (request : TaskRequest) : Uuid × List ArtifactRef :=
  (request.taskId, request.inputRefs)

def ExecutionRecord.entry (record : ExecutionRecord) : Uuid × List ArtifactRef :=
  (record.taskId, record.inputs)

namespace SchedulerState

variable {σ : Type}

/-- The request that has no row yet. -/
def unrecorded (s : SchedulerState σ) : List (Uuid × List ArtifactRef) :=
  match s.control with
  | .task _ _ id phase => if phase.isUnrecorded then [(id, (s.graph.task id).inputs)] else []
  | _ => []

/-- What a step can do to requests and rows. -/
inductive Logs (s s' : SchedulerState σ) : Prop where
  | keep (hruns : s'.store.runs = s.store.runs) (hsubs : s'.submissions = s.submissions)
      (hopen : s'.unrecorded = s.unrecorded)
  | submit (request : TaskRequest) (hruns : s'.store.runs = s.store.runs)
      (hsubs : s'.submissions = s.submissions ++ [request]) (hopen : s.unrecorded = [])
      (hopen' : s'.unrecorded = [request.entry])
  | record (record : ExecutionRecord) (hruns : s'.store.runs = s.store.runs ++ [record])
      (hsubs : s'.submissions = s.submissions) (hopen : s.unrecorded = [record.entry])
      (hopen' : s'.unrecorded = [])

variable {s s' : SchedulerState σ} {n : Nat} {ids : List Uuid} {id : Uuid} {phase phase' : Phase}

theorem unrecorded_task (hcontrol : s.control = .task n ids id phase) :
    s.unrecorded = if phase.isUnrecorded then [(id, (s.graph.task id).inputs)] else [] := by
  rw [unrecorded, hcontrol]

/-- The rows before a step stay, and a row is written for the request that has none. -/
theorem Logs.follows (h : s.Logs s') {runs new : List ExecutionRecord}
    (hruns : s.store.runs = runs ++ new)
    (hentries : s.submissions.map TaskRequest.entry = new.map ExecutionRecord.entry ++ s.unrecorded) :
    ∃ new', s'.store.runs = runs ++ new' ∧
      s'.submissions.map TaskRequest.entry = new'.map ExecutionRecord.entry ++ s'.unrecorded := by
  cases h with
  | keep hkept hsubs hopen => exact ⟨new, hkept.trans hruns, by rw [hsubs, hentries, hopen]⟩
  | submit request hkept hsubs hopen hopen' =>
      refine ⟨new, hkept.trans hruns, ?_⟩
      rw [hsubs, List.map_append, hentries, hopen, hopen', List.append_nil, List.map_singleton]
  | record record hadded hsubs hopen hopen' =>
      refine ⟨new ++ [record], by rw [hadded, hruns, List.append_assoc], ?_⟩
      rw [hsubs, hentries, hopen, hopen', List.map_append, List.map_singleton, List.append_nil]

/-- A step that only goes from one phase to another. -/
theorem Logs.goto (hcontrol : s.control = .task n ids id phase)
    (hcontrol' : s'.control = .task n ids id phase')
    (hphase : phase'.isUnrecorded = phase.isUnrecorded)
    (hinputs : (s'.graph.task id).inputs = (s.graph.task id).inputs)
    (hruns : s'.store.runs = s.store.runs) (hsubs : s'.submissions = s.submissions) : s.Logs s' :=
  .keep hruns hsubs (by rw [unrecorded_task hcontrol, unrecorded_task hcontrol', hphase, hinputs])

/-- A step outside of the phases without a row. -/
theorem Logs.quiet (hopen : s.unrecorded = []) (hopen' : s'.unrecorded = [])
    (hruns : s'.store.runs = s.store.runs) (hsubs : s'.submissions = s.submissions) : s.Logs s' :=
  .keep hruns hsubs (hopen'.trans hopen.symm)

theorem mark_submissions (s : SchedulerState σ) (id : Uuid) (target : TaskStatus) (next : Control) :
    (s.mark id target next).submissions = s.submissions := by
  unfold mark
  split <;> rfl

/-- `Mark` leaves nothing unrecorded that the next position does not. -/
theorem unrecorded_mark (s : SchedulerState σ) (x : Uuid) (target : TaskStatus) {next : Control}
    (hnext : ∀ n ids id phase, next = .task n ids id phase → phase.isUnrecorded = false) :
    (s.mark x target next).unrecorded = [] := by
  have hnone : ∀ {t : SchedulerState σ}, (t.control = next ∨ ∃ error, t.control = .threw error) →
      t.unrecorded = [] := by
    rintro t (hcontrol | ⟨error, hcontrol⟩)
    · unfold unrecorded
      rw [hcontrol]
      split
      · next n ids id phase =>
          rw [if_neg (by simp [hnext n ids id phase rfl])]
      · rfl
    · rw [unrecorded, hcontrol]
  exact hnone (mark_control s x target next)

end SchedulerState

namespace Scheduler

open SchedulerState

variable {σ ι : Type} (sched : Scheduler σ ι) (input : StepInput ι) {s : SchedulerState σ} {n : Nat}
  {ids : List Uuid} {id : Uuid}

/-- An attempt that failed is recorded. -/
theorem failed_logs {produced : List ArtifactRef} {missed : Nat}
    (hcontrol : s.control = .task n ids id (.await produced missed)) (executor : σ)
    (error : ErrorRecord) : s.Logs (sched.failed { s with executor := executor } n ids id error) := by
  have hinputs : ((s.graph.countAttempt id).task id).inputs = (s.graph.task id).inputs := by
    rw [TaskGraph.task_countAttempt, if_pos rfl]
  refine .record _ rfl rfl ?_ rfl
  rw [unrecorded_task hcontrol]
  simp [Phase.isUnrecorded, ExecutionRecord.entry, hinputs]

theorem awaitEvent_logs {produced : List ArtifactRef} {missed : Nat}
    (hcontrol : s.control = .task n ids id (.await produced missed))
    (hrun : s.graph.status id = .running) :
    s.Logs (sched.awaitEvent input s n ids id produced missed) := by
  unfold awaitEvent
  split
  · next executor _ =>
      split
      · exact sched.failed_logs hcontrol executor _
      · exact .goto hcontrol rfl rfl rfl rfl rfl
  · next event executor _ =>
      split
      · cases event.kind with
        | artifactProduced ref => exact .goto hcontrol rfl rfl rfl rfl rfl
        | progress _ | log _ | heartbeat => exact .goto hcontrol rfl rfl rfl rfl rfl
        | failed code message recoverable => exact sched.failed_logs hcontrol executor _
        | completed | cancelled =>
            simp only [handleEvent]
            rw [mark_of_legal _ (by simp [hrun, TaskStatus.isLegal])]
            refine .goto hcontrol rfl rfl ?_ (SchedulerStateStore.upsertTask_runs _ _) rfl
            simp [TaskGraph.task_setState, TaskGraph.task_setOutputs]
      · exact .keep rfl rfl rfl

theorem dispatchAndAwait_logs {phase : Phase} (hcontrol : s.control = .task n ids id phase)
    (hallows : phase.Allows (s.graph.status id)) :
    s.Logs (sched.dispatchAndAwait input s n ids id phase) := by
  have hquiet : phase.isUnrecorded = false → s.unrecorded = [] := by
    intro hphase
    rw [unrecorded_task hcontrol, hphase]
    rfl
  -- `Mark` writes neither rows nor submissions
  have hmark : ∀ {t : SchedulerState σ} {target : TaskStatus} {next : Control},
      phase.isUnrecorded = false → t.store = s.store → t.submissions = s.submissions →
      (∀ n ids id phase, next = .task n ids id phase → phase.isUnrecorded = false) →
      s.Logs (t.mark id target next) := by
    intro t target next hphase hstore hsubs hnext
    refine .quiet (hquiet hphase) (unrecorded_mark t id target hnext) ?_ ?_
    · rw [mark_runs, hstore]
    · rw [mark_submissions, hsubs]
  have hnext : ∀ {m : Nat} {others : List Uuid} {x : Uuid} {phase : Phase},
      phase.isUnrecorded = false → ∀ n ids id phase', Control.task m others x phase =
        .task n ids id phase' → phase'.isUnrecorded = false := by
    rintro m others x phase hphase _ _ _ _ ⟨⟩
    exact hphase
  cases phase with
  | cacheHit output => exact hmark rfl rfl rfl (hnext rfl)
  | dispatch =>
      simp only [dispatchAndAwait]
      split
      · exact .goto hcontrol rfl rfl rfl rfl rfl
      · exact hmark rfl rfl rfl (hnext rfl)
  | submit =>
      simp only [dispatchAndAwait]
      split
      · exact .quiet (hquiet rfl) rfl rfl rfl
      · exact .submit _ rfl rfl (hquiet rfl) rfl
  | await produced missed => exact sched.awaitEvent_logs input hcontrol hallows
  | storeOutput declared =>
      simp only [dispatchAndAwait]
      split
      · exact .goto hcontrol rfl rfl rfl rfl rfl
      · exact .goto hcontrol rfl rfl rfl (TaskCache.storeOutput_runs _ _ _ _ _) rfl
  -- the row that was missing
  | recordSucceeded _ | recordCancelled =>
      refine .record _ rfl rfl ?_ rfl
      rw [unrecorded_task hcontrol]
      simp [Phase.isUnrecorded, ExecutionRecord.entry]
  | threadOutputs declared => exact .quiet (hquiet rfl) rfl rfl rfl
  | markFailed retryable =>
      cases retryable with
      | true => exact hmark rfl rfl rfl (hnext rfl)
      | false => exact hmark rfl rfl rfl (by simp)
  | markPending => exact hmark rfl rfl rfl (hnext rfl)

/-- The scheduler's own thread. -/
theorem advance_logs (hc : Coherent s.graph s.control) : s.Logs (sched.advance input s) := by
  -- outside a dispatch no row is missing
  have hquiet : ∀ {t : SchedulerState σ}, (∀ n ids id phase, t.control ≠ .task n ids id phase) →
      t.unrecorded = [] := by
    intro t hnone
    unfold unrecorded
    split
    · next n ids id phase hcontrol => exact absurd hcontrol (hnone n ids id phase)
    · rfl
  unfold advance
  split
  · next m hcontrol =>
      have hopen := hquiet (t := s) (by simp [hcontrol])
      split <;> exact .quiet hopen rfl rfl rfl
  · next m x rest p hcontrol =>
      have hopen := hquiet (t := s) (by simp [hcontrol])
      split
      · exact .quiet hopen (unrecorded_mark s x _ (by simp)) (mark_runs _ _ _ _)
          (mark_submissions _ _ _ _)
      · exact .quiet hopen rfl rfl rfl
  · next m p hcontrol =>
      have hopen := hquiet (t := s) (by simp [hcontrol])
      split <;> exact .quiet hopen rfl rfl rfl
  · next m x rest p hcontrol =>
      have hopen := hquiet (t := s) (by simp [hcontrol])
      -- the cache may drop an entry, but no row of an attempt
      have hruns := sched.cache.lookup_runs input.artifacts s.store (s.graph.task x)
      unfold tryCacheHit
      split
      · next store hlookup =>
          rw [hlookup] at hruns
          exact .quiet hopen rfl hruns rfl
      · next entry store hlookup =>
          rw [hlookup] at hruns
          split
          · exact .quiet hopen rfl hruns rfl
          · refine .quiet hopen (unrecorded_mark _ x _ ?_) ?_ (mark_submissions _ _ _ _)
            · rintro _ _ _ _ ⟨⟩
              rfl
            · rw [mark_runs]
              exact hruns
  · next m p hcontrol =>
      have hopen := hquiet (t := s) (by simp [hcontrol])
      split <;> exact .quiet hopen rfl rfl rfl
  · next m rest x phase hcontrol =>
      rw [hcontrol] at hc
      exact sched.dispatchAndAwait_logs input hcontrol hc.1
  · exact .keep rfl rfl rfl
  · exact .keep rfl rfl rfl

variable {inputs : Nat → StepInput ι} {s₀ : SchedulerState σ}

variable (inputs) in
/-- The rows of a run so far. -/
theorem states_log (hc : Coherent s₀.graph s₀.control) (h₀ : s₀.control = .iterate 0)
    (hsub : s₀.submissions = []) (k : Nat) :
    ∃ new, (sched.states inputs s₀ k).store.runs = s₀.store.runs ++ new ∧
      (sched.states inputs s₀ k).submissions.map TaskRequest.entry =
        new.map ExecutionRecord.entry ++ (sched.states inputs s₀ k).unrecorded := by
  induction k with
  | zero =>
      refine ⟨[], (List.append_nil _).symm, ?_⟩
      rw [states_zero, hsub, unrecorded, h₀]
      rfl
  | succ k ih =>
      obtain ⟨new, hruns, hentries⟩ := ih
      -- the calls of `Cancel` change states only
      have hcancel : ∀ (g : TaskGraph) (c : Control) (id : Uuid), (Coherent g c ∧ ∀ x,
            (g.task x).inputs = ((sched.states inputs s₀ k).graph.task x).inputs) →
          id ∈ g.insertionOrder → g.status id = .pending →
          Coherent (g.setState id .cancelled) c ∧ ∀ x, ((g.setState id .cancelled).task x).inputs =
            ((sched.states inputs s₀ k).graph.task x).inputs := by
        rintro g c id ⟨hcg, hg⟩ - hpending
        refine ⟨hcg.cancelled hpending, fun x => ?_⟩
        rw [← hg x, TaskGraph.task_setState]
        split
        · next heq => rw [heq]
        · rfl
      obtain ⟨⟨hserved, hinputs⟩, hcontrol, hsubs, -⟩ := sched.cancels_induct hcancel
        (inputs k).cancels ⟨states_coherent hc k, fun _ => rfl⟩
      change (sched.served (inputs k) (sched.states inputs s₀ k)).submissions = _ at hsubs
      have hopen : (sched.served (inputs k) (sched.states inputs s₀ k)).unrecorded =
          (sched.states inputs s₀ k).unrecorded := by
        unfold unrecorded
        rw [sched.served_control]
        split
        · next x _ _ => rw [show ((sched.served (inputs k) _).graph.task x).inputs = _ from hinputs x]
        · rfl
      have hserves : (sched.served (inputs k) (sched.states inputs s₀ k)).submissions.map
          TaskRequest.entry = new.map ExecutionRecord.entry ++
            (sched.served (inputs k) (sched.states inputs s₀ k)).unrecorded := by
        rw [hsubs, hentries, hopen]
      rw [states_succ_served]
      exact (sched.advance_logs (inputs k) hserved).follows
        ((@served_runs _ _ sched (inputs k) _).trans hruns) hserves

/-- **The log of a run.** In every run, whatever the worker, the cache and the
callers of `Cancel` do, the rows that the run has added to `task_runs` are those
of its requests, in order: each request has one row, with its task and its
inputs, unless it is the last one and its end is not recorded yet. Between the
answer of the worker and `RecordRun` lie the mark and the cache, and a crash
there leaves no row. -/
theorem log_follows_submissions {store : SchedulerStateStore} {executor : σ} {g : TaskGraph}
    {externalInputs : List ArtifactRef} {pipelineHash : String}
    (hrun : sched.run store executor g externalInputs pipelineHash = .ok s₀) (hidle : NoneRunning g)
    (k : Nat) :
    ∃ new, (sched.states inputs s₀ k).store.runs = store.runs ++ new ∧
      ((sched.states inputs s₀ k).submissions.map fun request => (request.taskId, request.inputRefs)) =
        (new.map fun record => (record.taskId, record.inputs)) ++
          (sched.states inputs s₀ k).unrecorded := by
  obtain ⟨-, store', hsave, hs₀⟩ := run_start hrun
  have hc : Coherent s₀.graph s₀.control := by
    rw [hs₀]
    exact Coherent.start hidle
  have hruns : s₀.store.runs = store.runs := by
    rw [hs₀]
    exact (SchedulerStateStore.saveGraph_eq_ok hsave).2.2
  rw [← hruns]
  exact sched.states_log inputs hc (by rw [hs₀]) (by rw [hs₀]) k

/-! One task; the worker gives it up each time. -/

private def retriedGraph : TaskGraph :=
  (TaskGraph.build ⟨9⟩ ⟨8⟩ [{ id := ⟨1⟩, definition := { type := "import" } }] []).toOption.getD
    (.empty ⟨9⟩)

private def retryingScheduler : Scheduler (List WorkerEvent) Unit where
  cache := ⟨fun s => s, "", ""⟩
  executor := .deterministic {} ⟨7⟩ fun _ => [.failed "WORKER_CRASHED" "gone" true]

private def retriedStart : SchedulerState (List WorkerEvent) :=
  (retryingScheduler.run {} [] retriedGraph [] "").toOption.getD
    ⟨retriedGraph, {}, [], "", .returned, [], []⟩

private def retriedInputs (_ : Nat) : StepInput Unit := { worker := () }

/-- Two requests, and a row for each. -/
theorem log_follows_retry :
    ∃ new, (retryingScheduler.states retriedInputs retriedStart 20).store.runs = [] ++ new ∧
      new.map ExecutionRecord.terminalState = [.failed, .failed] ∧
      (retryingScheduler.states retriedInputs retriedStart 20).submissions.map TaskRequest.taskId =
        new.map ExecutionRecord.taskId := by
  have hrun : retryingScheduler.run {} [] retriedGraph [] "" = .ok retriedStart :=
    eq_ok_getD _ (by decide +kernel)
  obtain ⟨new, hruns, hentries⟩ := @log_follows_submissions _ _ retryingScheduler retriedInputs _ _ _ _
    _ _ hrun (by unfold NoneRunning; decide +kernel) 20
  have hopen : (retryingScheduler.states retriedInputs retriedStart 20).unrecorded = [] := by
    decide +kernel
  have hstates : (retryingScheduler.states retriedInputs retriedStart 20).store.runs.map
      ExecutionRecord.terminalState = [.failed, .failed] := by
    decide +kernel
  refine ⟨new, hruns, ?_, ?_⟩
  · rw [hruns] at hstates
    exact hstates
  · rw [hopen, List.append_nil] at hentries
    simpa [Function.comp_def] using congrArg (List.map Prod.fst) hentries

end Scheduler

end SpatialPlatform.Engine
