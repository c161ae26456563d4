import SpatialPlatform.Engine.Workers.Handle

/-!
# The process executor

`engine/workers/process_executor.cpp`: the host's end of a worker process. A
call meets the outside world through a `ProcessCall`: how `ReadFrame` ends,
whether the pipe takes a frame, and what the disk and the artifact store answer.

The handshake only fills `profile` and `id`, so it is not modelled.
-/

namespace SpatialPlatform.Engine

open SpatialPlatform.Core

/-! ## Messages -/

/-- `ArtifactInfo`, as far as the host reads it. -/
structure ArtifactInfo where
  artifactId : String := ""
  contentHash : ArtifactRef
  manifestJson : String := ""
  payloadPath : String := ""
  deriving DecidableEq, Repr

/-- `WorkerMessage`, with the fields that the host reads. -/
inductive WorkerMessage where
  | hello
  | taskRequest (taskId : String)
  | taskAccepted (taskId : String)
  | taskProgress (taskId : String) (percent : Int) (substage : String)
  | taskLog (taskId message : String)
  | taskArtifact (taskId : String) (artifact : ArtifactInfo)
  | taskCompleted (taskId : String) (outputs : List ArtifactInfo)
  | taskFailed (taskId code message : String) (recoverable : Bool)
  | taskCancelled (taskId : String)
  | heartbeat
  | shutdown
  /-- The oneof is not set. -/
  | unknown
  deriving DecidableEq, Repr

/-- The task that a message is about. -/
def WorkerMessage.taskId : WorkerMessage → Option String
  | .taskRequest id | .taskAccepted id | .taskProgress id _ _ | .taskLog id _ | .taskArtifact id _
  | .taskCompleted id _ | .taskFailed id _ _ _ | .taskCancelled id => some id
  | .hello | .heartbeat | .shutdown | .unknown => none

/-- How `ReadFrame` and `TryParseFrame` end. -/
inductive FrameRead where
  | timedOut
  | eof
  | malformed
  | message (message : WorkerMessage)
  deriving DecidableEq, Repr

/-! ## The outside world

What disk, store and pipe answer is an input of each call. -/

abbrev Payload := List UInt8

/-- What the disk and the artifact store answer during one call. -/
structure Storage where
  /-- `CreateDirectories`: does it succeed? -/
  createDirectories : String → Bool := fun _ => true
  /-- `AtomicWrite`: does it succeed? -/
  atomicWrite : String → Bool := fun _ => true
  /-- `Exists` and `ReadFile`: no such file, or one that cannot be read, or its bytes. -/
  file : String → Option (Option Payload) := fun _ => none
  /-- `ArtifactStore::Get`: a corrupt payload, none at all, or the bytes. -/
  get : ArtifactRef → Option (Option Payload) := fun _ => some none
  /-- `ArtifactStore::Put`: does it succeed? -/
  put : Payload → Bool := fun _ => true
  /-- `FromJsonString`: the content hash in a manifest that can be parsed. -/
  manifestHash : String → Option ArtifactRef := fun _ => none
  sha256Hex : Payload → String

structure ProcessCall where
  read : FrameRead := .timedOut
  /-- Does the pipe take the `TaskCancelled`? -/
  written : Bool := true
  storage : Storage

/-- `operator/` of `std::filesystem::path`. -/
def joinPath (dir name : String) : String :=
  if name.startsWith "/" then name
  else if dir.isEmpty || dir.endsWith "/" then dir ++ name
  else dir ++ "/" ++ name

/-- `MaterializeInputs`. -/
def materializeInputs (hasStore : Bool) (storage : Storage) (request : TaskRequest) :
    Except String Unit :=
  let inputsDir := joinPath request.workspace "inputs"
  if !hasStore then
    .error "input materialization requires an artifact store (none configured)"
  else if !storage.createDirectories inputsDir then
    .error ("cannot create inputs directory: " ++ inputsDir)
  else
    request.inputRefs.forM fun ref =>
      match storage.get ref with
      | none => .error ("input corrupt in CAS: " ++ ref)
      | some none => .error ("input not in CAS: " ++ ref)
      | some (some _) =>
          let target := joinPath inputsDir ref
          if storage.atomicWrite target then .ok ()
          else .error ("cannot materialize input " ++ ref ++ ": " ++ target)

/-- `IngestArtifact`, for an executor with a store. -/
def ingestArtifact (storage : Storage) (artifact : ArtifactInfo) : Except String Unit :=
  if artifact.payloadPath.isEmpty then
    .error "worker produced an artifact without a payload_path"
  else match storage.file artifact.payloadPath with
  | none => .error ("artifact payload not found: " ++ artifact.payloadPath)
  | some none => .error ("cannot read artifact payload: " ++ artifact.payloadPath)
  | some (some bytes) =>
      if storage.sha256Hex bytes ≠ artifact.contentHash then
        .error "artifact payload SHA-256 does not match declared content_hash"
      else if artifact.manifestJson.isEmpty then
        .error "worker produced an artifact without a manifest"
      else match storage.manifestHash artifact.manifestJson with
      | none => .error "artifact manifest missing or malformed"
      | some contentHash =>
          if contentHash ≠ artifact.contentHash then
            .error "artifact manifest content_hash does not match declared hash"
          else if storage.put bytes then .ok ()
          else .error ("CAS ingest failed for artifact " ++ artifact.artifactId)

/-! ## The executor

The members that the calls change, and the calls themselves. An event is for the
task submitted last, whatever its frame says. -/

/-- The members of `ProcessExecutor` that its calls change. -/
structure ProcessExecutor where
  /-- `child_` is set. -/
  child : Bool := true
  running : Bool := false
  cancelPending : Bool := false
  taskId : String := ""
  taskUuid : Uuid := .nil
  shutdown : Bool := false
  /-- The message of the pending failure; its code is always `WORKER_INPUT_MATERIALIZE`. -/
  pendingFailure : Option String := none
  deriving DecidableEq, Repr

namespace ProcessExecutor

variable (hasStore : Bool) (s : ProcessExecutor)

/-- No task is in flight any more. -/
def release : ProcessExecutor := { s with running := false, cancelPending := false }

/-- `TerminateWorker`. -/
def terminateWorker : ProcessExecutor := { s.release with child := false }

/-- `Submit`. -/
def submit (call : ProcessCall) (request : TaskRequest) : Except ProjectError ProcessExecutor :=
  if s.shutdown || !s.child then .error ⟨.workerTerminated, "worker is shut down"⟩
  else if s.running then
    .error ⟨.workerBusy, "worker already has a task in flight (max_concurrency = 1)"⟩
  else
    let started :=
      { s with
        running := true
        taskId := formatUuid request.taskId
        taskUuid := request.taskId }
    if request.inputRefs.isEmpty then .ok { started with cancelPending := false }
    else match materializeInputs hasStore call.storage request with
    | .error error => .ok { started with pendingFailure := some error }
    | .ok () => .ok { started with cancelPending := false }

/-- `Cancel`. -/
def cancel (written : Bool) (taskId : Uuid) (_reason : String) : ProcessExecutor :=
  if !s.running || formatUuid taskId ≠ s.taskId || !s.child then s
  else if written then { s with cancelPending := true }
  else s

/-- `NextEvent`, once a frame is parsed: what it is taken for. The task id in
the frame is not looked at. -/
def nextEvent (storage : Storage) : WorkerMessage → WorkerEventKind × ProcessExecutor
  | .taskProgress _ percent substage =>
      if s.cancelPending && substage = "cancelled" then (.cancelled, s.release)
      else (.progress percent, s)
  | .taskLog _ message => (.log message, s)
  | .taskArtifact _ artifact =>
      match if hasStore then ingestArtifact storage artifact else .ok () with
      | .error error => (.failed "WORKER_INGEST_FAILED" error false, s.terminateWorker)
      | .ok () => (.artifactProduced artifact.contentHash, s)
  | .taskCompleted _ outputs =>
      (if s.cancelPending && outputs.isEmpty then .cancelled else .completed, s.release)
  | .taskFailed _ code message recoverable =>
      (.failed (if code.isEmpty then "WORKER_PROTOCOL" else code) message recoverable, s.release)
  | _ => (.heartbeat, s)

/-- `WaitForEvent`. Every event is for the task submitted last. -/
def waitForEvent (call : ProcessCall) : Option WorkerEvent × ProcessExecutor :=
  if s.shutdown || !s.child then (none, s)
  else match s.pendingFailure with
  | some error =>
      (some ⟨s.taskUuid, .failed "WORKER_INPUT_MATERIALIZE" error false⟩,
        { s.release with pendingFailure := none })
  | none =>
      match call.read with
      | .timedOut => (none, s)
      | .eof | .malformed =>
          (some ⟨s.taskUuid, .failed "WORKER_CRASHED" "worker process exited" true⟩, s.release)
      | .message message =>
          let (kind, s') := s.nextEvent hasStore call.storage message
          (some ⟨s.taskUuid, kind⟩, s')

/-- A call of `WaitForEvent` gets as far as `ReadFrame`. -/
def reads : Bool := !s.shutdown && s.child && s.pendingFailure.isNone

end ProcessExecutor

/-- `ProcessExecutor` as the scheduler sees it. -/
def processExecutor (profile : ResourceProfile) (id : Uuid) (hasStore : Bool) :
    WorkerExecutor ProcessExecutor ProcessCall where
  profile := profile
  id := id
  submit s := s.submit hasStore
  cancel s call := s.cancel call.written
  waitForEvent s := s.waitForEvent hasStore

/-! ## What the calls leave alone

The frame lemmas of the executor, by cases on the state that a call finds. -/

namespace ProcessExecutor

variable {hasStore : Bool} {s s' : ProcessExecutor}

/-- What a submission leaves: the task is in flight, unless a refusal of its inputs is pending. -/
theorem submit_eq_ok {call : ProcessCall} {request : TaskRequest}
    (h : s.submit hasStore call request = .ok s') :
    s.shutdown = false ∧ s.child = true ∧ s.running = false ∧ s'.shutdown = false ∧
      s'.child = true ∧ s'.running = true ∧ s'.taskUuid = request.taskId := by
  unfold submit at h
  split at h
  · cases h
  · next hopen =>
      obtain ⟨hshutdown, hchild⟩ : s.shutdown = false ∧ s.child = true := by simpa using hopen
      split at h
      · cases h
      · next hfree =>
          refine ⟨hshutdown, hchild, by simpa using hfree, ?_⟩
          split at h
          · cases h
            exact ⟨hshutdown, hchild, rfl, rfl⟩
          · split at h
            all_goals
              cases h
              exact ⟨hshutdown, hchild, rfl, rfl⟩

/-- `Submit` throws when the worker is gone or still has a task, and only then. -/
theorem submit_accepts (call : ProcessCall) (request : TaskRequest) (hshutdown : s.shutdown = false)
    (hchild : s.child = true) (hrunning : s.running = false) :
    ∃ s', s.submit hasStore call request = .ok s' := by
  unfold submit
  rw [if_neg (by simp [hshutdown, hchild]), if_neg (by simp [hrunning])]
  dsimp only
  split
  · exact ⟨_, rfl⟩
  · split
    all_goals exact ⟨_, rfl⟩

theorem waitForEvent_of_pending {call : ProcessCall} {error : String}
    (hshutdown : s.shutdown = false) (hchild : s.child = true)
    (hpending : s.pendingFailure = some error) :
    s.waitForEvent hasStore call =
      (some ⟨s.taskUuid, .failed "WORKER_INPUT_MATERIALIZE" error false⟩,
        { s.release with pendingFailure := none }) := by
  simp [waitForEvent, hshutdown, hchild, hpending]

theorem waitForEvent_of_reads {call : ProcessCall} (h : s.reads = true) :
    s.waitForEvent hasStore call =
      match call.read with
      | .timedOut => (none, s)
      | .eof | .malformed =>
          (some ⟨s.taskUuid, .failed "WORKER_CRASHED" "worker process exited" true⟩, s.release)
      | .message message =>
          (some ⟨s.taskUuid, (s.nextEvent hasStore call.storage message).1⟩,
            (s.nextEvent hasStore call.storage message).2) := by
  simp only [reads, Bool.and_eq_true, Bool.not_eq_eq_eq_not, Bool.not_true,
    Option.isNone_iff_eq_none] at h
  simp [waitForEvent, h]

theorem nextEvent_taskUuid (storage : Storage) (message : WorkerMessage) :
    (s.nextEvent hasStore storage message).2.taskUuid = s.taskUuid := by
  unfold nextEvent
  repeat' split
  all_goals rfl

theorem waitForEvent_taskUuid (call : ProcessCall) :
    (s.waitForEvent hasStore call).2.taskUuid = s.taskUuid := by
  unfold waitForEvent
  split
  · rfl
  · split
    · rfl
    · split
      · rfl
      · rfl
      · rfl
      · exact nextEvent_taskUuid _ _

theorem cancel_taskUuid (written : Bool) (taskId : Uuid) (reason : String) :
    (s.cancel written taskId reason).taskUuid = s.taskUuid := by
  unfold cancel
  repeat' split
  all_goals rfl

end ProcessExecutor

end SpatialPlatform.Engine
