import SpatialPlatform.Engine.Task.Types

/-!
# The worker boundary

`engine/workers/worker_handle.h`: what the scheduler sends, what a worker
answers, and the contract between them.
-/

namespace SpatialPlatform.Engine

open SpatialPlatform.Core

/-- `TaskRequest`. -/
structure TaskRequest where
  taskId : Uuid
  taskType : String := ""
  inputRefs : List ArtifactRef := []
  expectedOutputRefs : List ArtifactRef := []
  configJson : String := ""
  pipelineHash : String := ""
  workspace : String := ""
  deriving DecidableEq, Repr

/-- `WorkerEventType`, each with the fields of `WorkerEvent` that it fills. -/
inductive WorkerEventKind where
  | progress (percent : Int)
  | log (message : String)
  | artifactProduced (ref : ArtifactRef)
  | completed
  | failed (code message : String) (recoverable : Bool)
  | cancelled
  | heartbeat
  deriving DecidableEq, Repr

/-- The kinds after which a worker is done with a task. -/
def WorkerEventKind.isTerminal : WorkerEventKind → Bool
  | .completed | .failed .. | .cancelled => true
  | .progress _ | .log _ | .artifactProduced _ | .heartbeat => false

/-- `WorkerEvent`. -/
structure WorkerEvent where
  taskId : Uuid
  kind : WorkerEventKind
  deriving DecidableEq, Repr

/-- `WorkerExecutor`. `σ` is the state of the executor and `ι` what its
environment contributes to one call: whether a pipe is still open, which frame
arrives, how the disk answers. -/
structure WorkerExecutor (σ ι : Type) where
  profile : ResourceProfile
  id : Uuid
  /-- `Submit`, which may throw. -/
  submit : σ → ι → TaskRequest → Except ProjectError σ
  /-- `Cancel`. -/
  cancel : σ → ι → Uuid → String → σ
  /-- `WaitForEvent`; no event means that the timeout has elapsed. -/
  waitForEvent : σ → ι → Option WorkerEvent × σ

/-- A deterministic executor: what a worker answers to a request depends on the
request alone, and comes event by event. Its state is the queue of the events
not read yet. -/
def WorkerExecutor.deterministic (profile : ResourceProfile) (id : Uuid)
    (answer : TaskRequest → List WorkerEventKind) : WorkerExecutor (List WorkerEvent) Unit where
  profile := profile
  id := id
  submit events _ request := .ok (events ++ (answer request).map (⟨request.taskId, ·⟩))
  cancel events _ _ _ := events
  waitForEvent
    | [], _ => (none, [])
    | event :: events, _ => (some event, events)

end SpatialPlatform.Engine
