import SpatialPlatform.Engine.Cache.TaskCache
import SpatialPlatform.Engine.Scheduler.GraphState

/-!
# The scheduler

`engine/scheduler/scheduler.cpp`, cut into steps. One step does at most one
write to the project database, so every point at which the host may crash lies
between two steps, and it serves the `Cancel` calls that arrived since the last
one. `Control` says where in the loops of `Execute` and `DispatchAndAwait` the
thread stands.

Two fields of the state are bookkeeping that the code does not have:
`submissions`, the requests handed to the executor so far, and `marks`, the
status changes made so far.
-/

namespace SpatialPlatform.Engine

open SpatialPlatform.Core

/-! ## The state

The thread can be anywhere between two writes, so the position is explicit: a
loop with what is left of its list, and inside a dispatch a phase. Everything
else is the graph, the database and the executor. -/

/-- Where `DispatchAndAwait` stands, or `TryCacheHit` after its first `Mark`. -/
inductive Phase where
  /-- `TryCacheHit` has marked the task running and will replay this output. -/
  | cacheHit (output : ArtifactRef)
  /-- The head of the outer loop of `DispatchAndAwait`. -/
  | dispatch
  | submit
  /-- The event loop, with the refs produced and the timeouts counted so far. -/
  | await (produced : List ArtifactRef) (missed : Nat)
  -- `kCompleted`, after the task is marked succeeded
  | storeOutput (declared : List ArtifactRef)
  | recordSucceeded (declared : List ArtifactRef)
  | threadOutputs (declared : List ArtifactRef)
  -- `kFailed`, after the run is recorded
  | markFailed (retryable : Bool)
  | markPending
  -- `kCancelled`, after the task is marked cancelled
  | recordCancelled
  deriving DecidableEq, Repr

/-- Where `Execute` stands. `ids` is what is left of the list being walked. -/
inductive Control where
  | iterate (iteration : Nat)
  | propagate (iteration : Nat) (ids : List Uuid) (progressed : Bool)
  | ready (iteration : Nat) (ids : List Uuid) (progressed : Bool)
  | task (iteration : Nat) (ids : List Uuid) (id : Uuid) (phase : Phase)
  | returned
  | threw (error : ProjectError)
  deriving DecidableEq, Repr

structure SchedulerState (σ : Type) where
  graph : TaskGraph
  store : SchedulerStateStore
  executor : σ
  runPipelineHash : String
  control : Control
  submissions : List TaskRequest := []
  marks : List (Uuid × TaskStatus × TaskStatus) := []

/-- The collaborators of a `Scheduler` other than the database. -/
structure Scheduler (σ ι : Type) where
  cache : TaskCache
  executor : WorkerExecutor σ ι

/-- One call of `Scheduler::Cancel`. -/
structure CancelCall (ι : Type) where
  taskId : Uuid
  reason : String := ""
  worker : ι

/-- What the environment contributes to one step: the `Cancel` calls, the
artifact store, and the part of the executor that is not in its state. -/
structure StepInput (ι : Type) where
  cancels : List (CancelCall ι) := []
  artifacts : ArtifactIndex := {}
  worker : ι

namespace SchedulerState

variable {σ : Type} (s : SchedulerState σ)

/-- Only the position changes. -/
def goto (control : Control) : SchedulerState σ := { s with control := control }

/-- An exception leaves `Execute`. -/
def throw (error : ProjectError) : SchedulerState σ := { s with control := .threw error }

/-- `Mark`: check the transition, write the state, persist the row. -/
def mark (id : Uuid) (target : TaskStatus) (next : Control) : SchedulerState σ :=
  match TaskStatus.transition (s.graph.status id) target with
  | .error error => s.throw error
  | .ok state =>
      let g := s.graph.setState id state
      { s with
        graph := g
        store := s.store.upsertTask g.jobId (g.task id)
        marks := s.marks ++ [(id, s.graph.status id, state)]
        control := next }

/-- `RecordRun`. -/
def recordRun (workerId id : Uuid) (terminal : TaskStatus) (outputs : List ArtifactRef)
    (error : Option ErrorRecord) : SchedulerState σ :=
  let task := s.graph.task id
  let record : ExecutionRecord :=
    { taskId := task.id
      attempt := task.metadata.attempts + 1
      workerId := some workerId
      inputs := task.inputs
      outputs := outputs
      terminalState := terminal
      error := error }
  { s with store := s.store.recordRun record }

end SchedulerState

/-! ## Steps

One step goes from one write to the next. Calls of `Cancel` come in between, as
the input of a step; so does what the worker says. -/

/-- What `Execute` throws when a round neither propagated nor dispatched anything. -/
def stalled : ProjectError :=
  ⟨.internal, "scheduler stalled: no task is ready and the graph is not terminal"⟩

namespace Scheduler

variable {σ ι : Type} (sched : Scheduler σ ι) (input : StepInput ι)

/-- `TryCacheHit` up to its first `Mark`; a miss goes on to `DispatchAndAwait`. -/
def tryCacheHit (s : SchedulerState σ) (n : Nat) (ids : List Uuid) (id : Uuid) :
    SchedulerState σ :=
  match sched.cache.lookup input.artifacts s.store (s.graph.task id) with
  | (none, store) => { s with store := store, control := .task n ids id .dispatch }
  | (some entry, store) =>
      match TaskCache.resolveOutput input.artifacts entry with
      | none =>
          { s with
            store := store.deleteCacheEntry entry.cacheKey
            control := .task n ids id .dispatch }
      | some output => { s with store := store }.mark id .running (.task n ids id (.cacheHit output))

/-- The `kFailed` branch up to `RecordRun`. -/
def failed (s : SchedulerState σ) (n : Nat) (ids : List Uuid) (id : Uuid)
    (error : ErrorRecord) : SchedulerState σ :=
  let s := { s with graph := s.graph.countAttempt id }
  let metadata := (s.graph.task id).metadata
  let retryable := error.recoverable && metadata.attempts < metadata.retry.maxAttempts
  (s.recordRun sched.executor.id id .failed [] (some error)).goto
    (.task n ids id (.markFailed retryable))

/-- One event of the task itself. -/
def handleEvent (s : SchedulerState σ) (n : Nat) (ids : List Uuid) (id : Uuid)
    (produced : List ArtifactRef) (missed : Nat) : WorkerEventKind → SchedulerState σ
  | .artifactProduced ref => s.goto (.task n ids id (.await (produced ++ [ref]) missed))
  | .completed =>
      { s with graph := s.graph.setOutputs id produced }.mark id .succeeded
        (.task n ids id (.storeOutput (s.graph.task id).outputs))
  | .failed code message recoverable => sched.failed s n ids id ⟨code, message, recoverable⟩
  | .cancelled =>
      { s with graph := s.graph.setOutputs id [] }.mark id .cancelled
        (.task n ids id .recordCancelled)
  | .progress _ | .log _ | .heartbeat => s.goto (.task n ids id (.await produced missed))

/-- One round of the event loop. The eleventh timeout of an attempt counts as a
worker crash; a timeout is not forgiven by later events. -/
def awaitEvent (s : SchedulerState σ) (n : Nat) (ids : List Uuid) (id : Uuid)
    (produced : List ArtifactRef) (missed : Nat) : SchedulerState σ :=
  match sched.executor.waitForEvent s.executor input.worker with
  | (none, executor) =>
      if missed + 1 > 10 then
        sched.failed { s with executor := executor } n ids id
          ⟨"WORKER_CRASHED", "worker stopped responding", true⟩
      else
        { s with executor := executor, control := .task n ids id (.await produced (missed + 1)) }
  | (some event, executor) =>
      if event.taskId = id then
        sched.handleEvent { s with executor := executor } n ids id produced missed event.kind
      else { s with executor := executor }

/-- `DispatchAndAwait`, and the rest of `TryCacheHit`. -/
def dispatchAndAwait (s : SchedulerState σ) (n : Nat) (ids : List Uuid) (id : Uuid) :
    Phase → SchedulerState σ
  | .cacheHit output =>
      { s with graph := s.graph.setOutputs id [output] }.mark id .succeeded
        (.task n ids id (.threadOutputs (s.graph.task id).outputs))
  | .dispatch =>
      if s.graph.status id = .running then s.goto (.task n ids id .submit)
      else s.mark id .running (.task n ids id .submit)
  | .submit =>
      let request := s.graph.request s.runPipelineHash id
      match sched.executor.submit s.executor input.worker request with
      | .error error => s.throw error
      | .ok executor =>
          { s with
            executor := executor
            submissions := s.submissions ++ [request]
            control := .task n ids id (.await [] 0) }
  | .await produced missed => sched.awaitEvent input s n ids id produced missed
  | .storeOutput declared =>
      let task := s.graph.task id
      match task.outputs with
      | [] => s.goto (.task n ids id (.recordSucceeded declared))
      | output :: _ =>
          { s with
            store := sched.cache.storeOutput input.artifacts s.store task output
            control := .task n ids id (.recordSucceeded declared) }
  | .recordSucceeded declared =>
      (s.recordRun sched.executor.id id .succeeded (s.graph.task id).outputs none).goto
        (.task n ids id (.threadOutputs declared))
  | .threadOutputs declared =>
      { s with
        graph := s.graph.threadOutputsToDependents id declared (s.graph.task id).outputs
        control := .ready n ids true }
  | .markFailed true => s.mark id .failed (.task n ids id .markPending)
  | .markFailed false => s.mark id .failed (.ready n ids true)
  | .markPending => s.mark id .pending (.task n ids id .dispatch)
  | .recordCancelled =>
      (s.recordRun sched.executor.id id .cancelled [] none).goto (.ready n ids true)

/-- One step of `Execute`. -/
def advance (s : SchedulerState σ) : SchedulerState σ :=
  match s.control with
  | .iterate n =>
      if n < 10000 then s.goto (.propagate n s.graph.insertionOrder false) else s.goto .returned
  | .propagate n (id :: ids) progressed =>
      if s.graph.dependencyFailed id then
        s.mark id (s.graph.task id).metadata.failure.status (.propagate n ids true)
      else s.goto (.propagate n ids progressed)
  | .propagate n [] progressed =>
      if s.graph.allTerminal then s.goto .returned
      else s.goto (.ready n s.graph.readyTasks progressed)
  | .ready n (id :: ids) _ => sched.tryCacheHit input s n ids id
  | .ready n [] progressed => if progressed then s.goto (.iterate (n + 1)) else s.throw stalled
  | .task n ids id phase => sched.dispatchAndAwait input s n ids id phase
  | .returned => s
  | .threw _ => s

/-- `Cancel`. A pending task is marked at once, a running one is left to the
worker; afterwards the loops go on where they were. -/
def cancel (s : SchedulerState σ) (call : CancelCall ι) : SchedulerState σ :=
  if s.control = .returned ∨ call.taskId ∉ s.graph.insertionOrder then s
  else match s.graph.status call.taskId with
    | .pending => s.mark call.taskId .cancelled s.control
    | .running =>
        { s with executor := sched.executor.cancel s.executor call.worker call.taskId call.reason }
    | _ => s

/-- One step: the calls of `Cancel` that have arrived, then the scheduler's own thread. -/
def step (s : SchedulerState σ) : SchedulerState σ :=
  sched.advance input (input.cancels.foldl sched.cancel s)

/-! ## Entry points -/

/-- `Run` up to `Execute`. -/
def run (store : SchedulerStateStore) (executor : σ) (g : TaskGraph)
    (externalInputs : List ArtifactRef) (pipelineHash : String) :
    Except ProjectError (SchedulerState σ) := do
  g.validate [sched.executor.profile] externalInputs
  let store ← store.saveGraph g
  return {
    graph := g
    store := store
    executor := executor
    runPipelineHash := pipelineHash
    control := .iterate 0 }

/-- What `Resume` makes of one stored task: a `running` one was interrupted by
the host and starts over. -/
def reconcile (task : TaskInstance) : TaskInstance :=
  if task.state = .running then
    { task with state := .pending, metadata := { task.metadata with attempts := 0 } }
  else task

/-- `Resume` up to `Execute`. The pipeline hash of a run is not persisted; a
fresh scheduler has the empty one. -/
def resume (store : SchedulerStateStore) (executor : σ) (jobId : Uuid) (fresh : Uuid) :
    Except ProjectError (SchedulerState σ) := do
  let g ← TaskGraph.build jobId fresh ((store.loadTasks jobId).map reconcile)
    (store.loadDependencies jobId)
  return {
    graph := g
    store := store
    executor := executor
    runPipelineHash := ""
    control := .iterate 0 }

end Scheduler

end SpatialPlatform.Engine
