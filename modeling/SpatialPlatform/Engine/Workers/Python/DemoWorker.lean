import SpatialPlatform.Core.Sha256
import SpatialPlatform.Engine.Workers.Channel

/-!
# The demo worker

`engine/workers/python/demo_worker.py`: the thread that reads frames into a
queue, the main loop that takes them from the queue or times out, and the thread
that runs a task. What the worker finds in its workspace and the identifier it
generates are inputs of a step.
-/

namespace SpatialPlatform.Engine

open SpatialPlatform.Core

/-- A request on its way, with whether the host had then heard how the task
before it ended; the frame does not hold that. -/
structure SentRequest where
  request : TaskRequest
  afterReport : Bool := false
  deriving DecidableEq, Repr

/-- The frames that the worker reads. -/
inductive HostMessage where
  | taskRequest (sent : SentRequest)
  | taskCancelled (taskId : String) (reason : String)
  | shutdown
  deriving DecidableEq, Repr

/-- The request in a frame. -/
def HostMessage.sent? : HostMessage → Option SentRequest
  | .taskRequest sent => some sent
  | .taskCancelled _ _ | .shutdown => none

/-- Where `run_task` stands. A thread that returns is alive for a moment longer. -/
inductive RunTaskStep where
  | accept
  | inputs
  | progress (percent : Nat) (inputs : List String)
  | artifact (inputs : List String)
  | complete (artifact : ArtifactInfo)
  | leaving
  | dead
  deriving DecidableEq, Repr

/-- `task_thread`, with the `task_cancel` it was given. -/
structure TaskThread where
  request : TaskRequest
  cancelled : Bool := false
  step : RunTaskStep := .accept
  deriving DecidableEq, Repr

/-- What a step of `run_task` finds and generates. -/
structure DemoInputs where
  text : String → Option String := fun _ => none
  artifactId : String := ""

/-- The manifest of an output; the hashes need no escapes. -/
def demoManifest (artifactId contentHash : String) (inputs : List String) (size : Nat) : String :=
  "\x7b\"artifact_uuid\": \"" ++ artifactId ++ "\", \"content_hash\": \"" ++ contentHash ++
    "\", \"type\": \"demo_output\", \"schema_version\": 1, \"producer\": \x7b\"id\": \"demo-worker\", " ++
    "\"version\": \"0.1.0\", \"git_commit\": \"demo\"\x7d, \"input_artifact_hashes\": [" ++
    ", ".intercalate (inputs.map fun hash => "\"" ++ hash ++ "\"") ++
    "], \"configuration_hash\": null, \"creation_timestamp\": \"1970-01-01T00:00:00Z\", " ++
    "\"coordinate_frame\": \"\", \"unit\": \"meter\", \"file_size\": " ++ toString size ++
    ", \"mime_type\": \"text/plain\", \"validation_status\": \"valid\"\x7d"

/-- The output of a task. -/
def demoArtifact (request : TaskRequest) (inputs : List String) (artifactId : String) :
    ArtifactInfo :=
  let payload := "demo:" ++ formatUuid request.taskId ++ ":" ++ request.taskType ++ ":" ++
    request.configJson ++ String.join (inputs.map ("|input:" ++ ·))
  let bytes := stringBytes payload
  let contentHash := sha256Hex bytes
  { artifactId
    contentHash
    manifestJson := demoManifest artifactId contentHash request.inputRefs bytes.length
    payloadPath := joinPath request.workspace "output.txt" }

namespace TaskThread

/-- The next step of `run_task`, with the frame it writes. -/
def next (io : DemoInputs) (t : TaskThread) : Option (TaskThread × Option WorkerMessage) :=
  let taskId := formatUuid t.request.taskId
  match t.step with
  | .accept => some ({ t with step := .inputs }, some (.taskAccepted taskId))
  | .inputs =>
      let text ref := io.text (joinPath (joinPath t.request.workspace "inputs") ref)
      match t.request.inputRefs.find? fun ref => (text ref).isNone with
      | some ref =>
          some ({ t with step := .leaving }, some (.taskFailed taskId
            "INPUT_MATERIALIZED_FILE_MISSING"
            ("declared input missing from workspace: " ++ ref) false))
      | none => some ({ t with step := .progress 0 (t.request.inputRefs.filterMap text) }, none)
  | .progress percent inputs =>
      if t.cancelled then
        some ({ t with step := .leaving }, some (.taskProgress taskId percent "cancelled"))
      else
        some ({ t with
            step := if percent < 100 then .progress (percent + 10) inputs else .artifact inputs },
          some (.taskProgress taskId percent "execute"))
  | .artifact inputs =>
      let artifact := demoArtifact t.request inputs io.artifactId
      some ({ t with step := .complete artifact }, some (.taskArtifact taskId artifact))
  | .complete artifact =>
      some ({ t with step := .leaving }, some (.taskCompleted taskId [artifact]))
  | .leaving => some ({ t with step := .dead }, none)
  | .dead => none

end TaskThread

/-- Where the main loop stands: in `inbound.get`, after its time has run out, or past the loop. -/
inductive MainStep where
  | get
  | timedOut
  | stopping
  deriving DecidableEq, Repr

/-- The worker. `started` and `refused` record what became of the requests it has taken. -/
structure DemoWorker where
  inbound : List HostMessage := []
  main : MainStep := .get
  activeTask : Option TaskRequest := none
  thread : Option TaskThread := none
  started : List SentRequest := []
  refused : List SentRequest := []
  deriving DecidableEq, Repr

namespace DemoWorker

/-- What the main loop does with a frame. -/
def handle (w : DemoWorker) : HostMessage → DemoWorker
  | .taskRequest sent =>
      match w.activeTask with
      | none =>
          { w with
            activeTask := some sent.request
            thread := some { request := sent.request }
            started := w.started ++ [sent] }
      | some _ => { w with refused := w.refused ++ [sent] }
  | .taskCancelled taskId _ =>
      if w.activeTask.any (formatUuid ·.taskId = taskId) then
        { w with thread := w.thread.map ({ · with cancelled := true }) }
      else w
  | .shutdown => { w with main := .stopping }

/-- `inbound.get` returns a frame. -/
def take (w : DemoWorker) : Option DemoWorker :=
  match w.main, w.inbound with
  | .get, message :: rest => some ({ w with inbound := rest }.handle message)
  | _, _ => none

/-- `inbound.get` times out. -/
def timeOut (w : DemoWorker) : Option DemoWorker :=
  match w.main, w.inbound with
  | .get, [] => some { w with main := .timedOut }
  | _, _ => none

/-- After a timeout, a thread that is not alive is forgotten with its task. -/
def reap (w : DemoWorker) : Option DemoWorker :=
  if w.main = .timedOut then
    if w.thread.any (·.step = .dead) then
      some { w with main := .get, thread := none, activeTask := none }
    else some { w with main := .get }
  else none

/-- A step of the task thread. -/
def run (io : DemoInputs) (w : DemoWorker) : Option (DemoWorker × Option WorkerMessage) :=
  (w.thread.bind (·.next io)).map fun (thread, message) =>
    ({ w with thread := some thread }, message)

/-- An exception that ends the task thread. -/
def raise (w : DemoWorker) : Option DemoWorker :=
  (w.thread.filter (·.step ≠ .dead)).map fun thread =>
    { w with thread := some { thread with step := .dead } }

/-! ## What a step does with the requests

Most steps leave the queue and the requests alone. The exception is a request
that is taken, which is started or refused. -/

/-- The queue and what became of the requests are the same. -/
def SameRequests (w w' : DemoWorker) : Prop :=
  w'.inbound = w.inbound ∧ w'.started = w.started ∧ w'.refused = w.refused

variable {w w' : DemoWorker}

/-- What taking a request does: it is started when there is no task, and refused otherwise. -/
theorem handle_taskRequest (w : DemoWorker) (sent : SentRequest) :
    (w.activeTask = none ∧ (w.handle (.taskRequest sent)).started = w.started ++ [sent] ∧
      (w.handle (.taskRequest sent)).refused = w.refused) ∨
    (w.activeTask ≠ none ∧ (w.handle (.taskRequest sent)).started = w.started ∧
      (w.handle (.taskRequest sent)).refused = w.refused ++ [sent]) := by
  unfold handle
  cases w.activeTask with
  | none => exact .inl ⟨rfl, rfl, rfl⟩
  | some _ => exact .inr ⟨by simp, rfl, rfl⟩

theorem handle_inbound (w : DemoWorker) (message : HostMessage) :
    (w.handle message).inbound = w.inbound := by
  unfold handle
  grind

theorem sameRequests_handle (w : DemoWorker) {message : HostMessage} (h : message.sent? = none) :
    SameRequests w (w.handle message) := by
  cases message with
  | taskRequest sent => cases h
  | taskCancelled taskId reason =>
      simp only [handle]
      split <;> exact ⟨rfl, rfl, rfl⟩
  | shutdown => exact ⟨rfl, rfl, rfl⟩

theorem take_eq_some (h : w.take = some w') :
    ∃ message rest, w.main = .get ∧ w.inbound = message :: rest ∧
      w' = { w with inbound := rest }.handle message := by
  unfold take at h
  grind

theorem sameRequests_timeOut (h : w.timeOut = some w') : SameRequests w w' := by
  unfold timeOut at h
  unfold SameRequests
  grind

theorem sameRequests_reap (h : w.reap = some w') : SameRequests w w' := by
  unfold reap at h
  unfold SameRequests
  grind

theorem sameRequests_run {io : DemoInputs} {message : Option WorkerMessage}
    (h : w.run io = some (w', message)) : SameRequests w w' := by
  obtain ⟨⟨thread, _⟩, _, heq⟩ := Option.map_eq_some_iff.mp h
  cases heq
  exact ⟨rfl, rfl, rfl⟩

theorem sameRequests_raise (h : w.raise = some w') : SameRequests w w' := by
  obtain ⟨thread, _, rfl⟩ := Option.map_eq_some_iff.mp h
  exact ⟨rfl, rfl, rfl⟩

end DemoWorker

end SpatialPlatform.Engine
