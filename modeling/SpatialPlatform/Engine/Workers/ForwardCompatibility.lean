import SpatialPlatform.Lib.Insertion
import SpatialPlatform.Engine.Workers.ProcessExecutor

/-!
# Frames of unknown messages

`TryParseFrame` of `engine/workers/protocol_framing.cpp`, and what
`WaitForEvent` reports over a run of frames. The protocol's specification wants
messages of an unknown type ignored, and `NextEvent` has a branch for them; but
`TryParseFrame` refuses a message without a known payload, so each is a
malformed frame, and the worker is reported as crashed.

* `unknown_frames_ignored_iff` — frames of unknown messages leave the reported
  events alone exactly when all of them come after the host has stopped reading.

The parser that the build generates from `worker.proto` is a parameter.
-/

namespace SpatialPlatform.Engine

open SpatialPlatform.Core SpatialPlatform.Lib

/-! ## Parsing -/

section parse

variable (parseFromString : List UInt8 → Option WorkerMessage)

/-- `TryParseFrame`. -/
def tryParseFrame (frame : List UInt8) : Option WorkerMessage :=
  match parseFromString frame with
  | none => none
  -- no payload: malformed
  | some .unknown => none
  | some message => some message

/-- A frame with an unknown payload, or with none. -/
def UnknownFrame : Type := { frame : List UInt8 // parseFromString frame = some .unknown }

/-- How a `ReadFrame` ends. -/
inductive Reading where
  /-- No frame in time. -/
  | timedOut
  | eof
  | frame (bytes : List UInt8)
  deriving DecidableEq, Repr

/-- The frame read, once it is parsed. -/
def Reading.parsed : Reading → FrameRead
  | .timedOut => .timedOut
  | .eof => .eof
  | .frame bytes =>
      match tryParseFrame parseFromString bytes with
      | none => .malformed
      | some message => .message message

variable {parseFromString}

theorem tryParseFrame_unknown (frame : UnknownFrame parseFromString) :
    tryParseFrame parseFromString frame.val = none := by
  rw [tryParseFrame, frame.property]

end parse

/-! ## The host's end

The turns of the host, and what makes it stop reading. -/

/-- What happens next at the host's end. -/
inductive HostTurn where
  | submit (request : TaskRequest) (storage : Storage)
  | cancel (taskId : Uuid) (reason : String) (written : Bool)
  /-- The host waits until a `ReadFrame` ends. -/
  | read (reading : Reading) (storage : Storage)
  | shutdown

/-- The report of a crash. -/
def WorkerEventKind.crashed : WorkerEventKind :=
  .failed "WORKER_CRASHED" "worker process exited" true

namespace ProcessExecutor

variable (hasStore : Bool) (parseFromString : List UInt8 → Option WorkerMessage)
  (s : ProcessExecutor)

/-- The calls of `WaitForEvent` up to the one that gets as far as `ReadFrame`:
the first may have to report that the inputs of the task were refused. -/
def await (call : ProcessCall) : List WorkerEvent × ProcessExecutor :=
  let (event, s') := s.waitForEvent hasStore call
  if s.pendingFailure.isSome then
    let (event', s'') := s'.waitForEvent hasStore call
    (event.toList ++ event'.toList, s'')
  else (event.toList, s')

/-- `Shutdown`, as far as a later call can tell. -/
def shutDown : ProcessExecutor := if s.child then { s with shutdown := true, child := false } else s

/-- The events of `WaitForEvent` in one turn. A `Submit` that throws changes nothing. -/
def turn : HostTurn → List WorkerEvent × ProcessExecutor
  | .submit request storage =>
      match s.submit hasStore { storage := storage } request with
      | .ok s' => ([], s')
      | .error _ => ([], s)
  | .cancel taskId reason written => ([], s.cancel written taskId reason)
  | .read reading storage =>
      s.await hasStore { read := reading.parsed parseFromString, storage := storage }
  | .shutdown => ([], s.shutDown)

/-- The host does not read any more. -/
def deaf : Bool := s.shutdown || !s.child

end ProcessExecutor

/-- An executor with or without a store. -/
def executorRun (hasStore : Bool) (parseFromString : List UInt8 → Option WorkerMessage) :
    Transducer ProcessExecutor HostTurn WorkerEvent :=
  ⟨fun s turn => s.turn hasStore parseFromString turn⟩

/-- The store does not take the artifact that the message announces. -/
def WorkerMessage.isRefused (hasStore : Bool) (storage : Storage) : WorkerMessage → Bool
  | .taskArtifact _ artifact => hasStore && (ingestArtifact storage artifact).toOption.isNone
  | _ => false

/-- The turns after which the host does not read any more: it has shut down, or
it has terminated a worker with an artifact that the store does not take. -/
def HostTurn.endsReading (hasStore : Bool) (parseFromString : List UInt8 → Option WorkerMessage) :
    HostTurn → Bool
  | .shutdown => true
  | .read (.frame bytes) storage =>
      (tryParseFrame parseFromString bytes).any (·.isRefused hasStore storage)
  | _ => false

/-! ## One turn

The executor as a machine that may go deaf: once it has lost its worker, it
reads no more. What it reports of an unknown frame does not depend on anything
else in its state. -/

namespace ProcessExecutor

variable {hasStore : Bool} {parseFromString : List UInt8 → Option WorkerMessage}
  {s t : ProcessExecutor}

theorem reads_eq : s.reads = (!s.deaf && s.pendingFailure.isNone) := by
  simp [reads, deaf]

theorem await_of_deaf (h : s.deaf = true) (call : ProcessCall) :
    s.await hasStore call = ([], s) := by
  have hwait : s.waitForEvent hasStore call = (none, s) := by
    unfold waitForEvent
    exact if_pos h
  simp [await, hwait]

/-- Otherwise the last call reads, and an earlier one reports no crash. -/
theorem await_of_not_deaf (h : s.deaf = false) (call : ProcessCall) :
    ∃ (reported : List WorkerEvent) (s₀ : ProcessExecutor), s₀.reads = true ∧
      reported.countP (·.kind = .crashed) = 0 ∧
      s.await hasStore call =
        (reported ++ (s₀.waitForEvent hasStore call).1.toList,
          (s₀.waitForEvent hasStore call).2) := by
  have hopen : s.shutdown = false ∧ s.child = true := by simpa [deaf] using h
  cases hpending : s.pendingFailure with
  | none =>
      refine ⟨[], s, ?_, rfl, ?_⟩
      · rw [reads_eq, h, hpending]
        rfl
      · simp [await, hpending]
  | some error =>
      have hwait := @waitForEvent_of_pending hasStore s call error hopen.1 hopen.2 hpending
      let refused : WorkerEvent := ⟨s.taskUuid, .failed "WORKER_INPUT_MATERIALIZE" error false⟩
      refine ⟨[refused], { s.release with pendingFailure := none }, ?_, ?_, ?_⟩
      · simp [reads, release, hopen]
      · simp [refused, WorkerEventKind.crashed]
      · simp [await, hpending, hwait, refused]

theorem nextEvent_deaf (storage : Storage) (message : WorkerMessage) (h : s.deaf = false) :
    (s.nextEvent hasStore storage message).2.deaf = message.isRefused hasStore storage := by
  have hopen : s.shutdown = false ∧ s.child = true := by simpa [deaf] using h
  cases message with
  | taskArtifact id artifact =>
      cases hasStore with
      | false => simp [nextEvent, WorkerMessage.isRefused, deaf, hopen]
      | true =>
          cases hingest : ingestArtifact storage artifact <;>
            simp [nextEvent, WorkerMessage.isRefused, deaf, hopen, hingest, terminateWorker,
              Except.toOption]
  | taskProgress id percent substage =>
      simp only [nextEvent, WorkerMessage.isRefused]
      split <;> exact h
  | _ => exact h

/-- Whether a message is reported as a crash does not depend on the executor. -/
theorem nextEvent_crashed (storage : Storage) (message : WorkerMessage) :
    (s.nextEvent hasStore storage message).1 = .crashed ↔
      (t.nextEvent hasStore storage message).1 = .crashed := by
  cases message with
  | taskProgress id percent substage =>
      simp only [nextEvent, WorkerEventKind.crashed]
      split <;> split <;> simp
  | taskArtifact id artifact =>
      simp only [nextEvent]
      split <;> rfl
  | taskCompleted id outputs =>
      simp only [nextEvent, WorkerEventKind.crashed]
      split <;> split <;> simp
  | _ => rfl

theorem deaf_of_reads (h : s.reads = true) : s.deaf = false := by
  simpa [reads, deaf] using (Bool.and_eq_true_iff.mp h).1

theorem submit_deaf {call : ProcessCall} {request : TaskRequest}
    (h : s.submit hasStore call request = .ok t) : t.deaf = s.deaf := by
  obtain ⟨hshutdown, hchild, _, hshutdown', hchild', _⟩ := submit_eq_ok h
  simp [deaf, hshutdown, hchild, hshutdown', hchild']

theorem cancel_deaf (written : Bool) (taskId : Uuid) (reason : String) :
    (s.cancel written taskId reason).deaf = s.deaf := by
  unfold cancel
  repeat' split
  all_goals rfl

theorem shutDown_deaf : s.shutDown.deaf = true := by
  unfold shutDown
  split
  · rfl
  · next hgone => simp [deaf, hgone]

/-- The host stops reading with the turns that `endsReading` tells. -/
theorem turn_deaf (turn : HostTurn) :
    (s.turn hasStore parseFromString turn).2.deaf =
      (s.deaf || turn.endsReading hasStore parseFromString) := by
  cases turn with
  | submit request storage =>
      simp only [ProcessExecutor.turn, HostTurn.endsReading, Bool.or_false]
      split
      · next s' hsubmit => exact submit_deaf hsubmit
      · rfl
  | cancel taskId reason written =>
      exact (cancel_deaf written taskId reason).trans (Bool.or_false _).symm
  | shutdown =>
      exact shutDown_deaf.trans (Bool.or_true _).symm
  -- the only turn that listens
  | read reading storage =>
      rw [ProcessExecutor.turn]
      cases hdeaf : s.deaf with
      | true =>
          rw [await_of_deaf hdeaf, Bool.true_or]
          exact hdeaf
      | false =>
          obtain ⟨_, s₀, hreads, _, hawait⟩ := @await_of_not_deaf hasStore s hdeaf
            { read := reading.parsed parseFromString, storage := storage }
          have hdeaf₀ := deaf_of_reads hreads
          rw [hawait, Bool.false_or, waitForEvent_of_reads hreads]
          cases reading with
          | timedOut => exact hdeaf₀
          | eof => exact hdeaf₀
          | frame bytes =>
              simp only [Reading.parsed, HostTurn.endsReading]
              cases tryParseFrame parseFromString bytes with
              | none => exact hdeaf₀
              | some message => exact nextEvent_deaf storage message hdeaf₀

/-- How many crashes a turn reports depends on the executor only through whether it reads. -/
theorem turn_crashed (turn : HostTurn) (h : s.deaf = t.deaf) :
    (s.turn hasStore parseFromString turn).1.countP (·.kind = .crashed) =
      (t.turn hasStore parseFromString turn).1.countP (·.kind = .crashed) := by
  cases turn with
  | submit request storage =>
      have hsilent : ∀ s : ProcessExecutor,
          (s.turn hasStore parseFromString (.submit request storage)).1 = [] := by
        intro s
        rw [ProcessExecutor.turn]
        split <;> rfl
      rw [hsilent, hsilent]
  | cancel taskId reason written => rfl
  | shutdown => rfl
  | read reading storage =>
      rw [ProcessExecutor.turn, ProcessExecutor.turn]
      cases hdeaf : s.deaf with
      | true => rw [await_of_deaf hdeaf, await_of_deaf (h ▸ hdeaf)]
      | false =>
          obtain ⟨_, s₀, hs₀, hnone, hawait⟩ := @await_of_not_deaf hasStore s hdeaf
            { read := reading.parsed parseFromString, storage := storage }
          obtain ⟨_, t₀, ht₀, hnone', hawait'⟩ := @await_of_not_deaf hasStore t (h ▸ hdeaf)
            { read := reading.parsed parseFromString, storage := storage }
          rw [hawait, hawait', List.countP_append, List.countP_append, hnone, hnone',
            waitForEvent_of_reads hs₀, waitForEvent_of_reads ht₀]
          cases reading.parsed parseFromString with
          | message message =>
              have hsame := @nextEvent_crashed hasStore s₀ t₀ storage message
              simp [hsame]
          | _ => simp [WorkerEventKind.crashed]

/-- A frame of an unknown message is reported as a crash, if it is read. -/
theorem unknown_crashed (frame : UnknownFrame parseFromString) (storage : Storage)
    (h : s.deaf = false) :
    0 < (s.turn hasStore parseFromString (.read (.frame frame.val) storage)).1.countP
      (·.kind = .crashed) := by
  rw [ProcessExecutor.turn]
  have hparsed : (Reading.frame frame.val).parsed parseFromString = .malformed := by
    rw [Reading.parsed, tryParseFrame_unknown]
  obtain ⟨_, s₀, hs₀, _, hawait⟩ := @await_of_not_deaf hasStore s h
    { read := (Reading.frame frame.val).parsed parseFromString, storage := storage }
  rw [hawait, List.countP_append, waitForEvent_of_reads hs₀, hparsed]
  simp [WorkerEventKind.crashed]

end ProcessExecutor

/-! ## Runs -/

/-- A frame of an unknown message, put into a run. -/
def insertUnknown {parseFromString : List UInt8 → Option WorkerMessage}
    (inserted : UnknownFrame parseFromString × Storage) : HostTurn :=
  .read (.frame inserted.1.val) inserted.2

/-- The host is disturbed by each frame of an unknown message that it reads. -/
def unknownIntrusive (hasStore : Bool) (parseFromString : List UInt8 → Option WorkerMessage) :
    Intrusive (executorRun hasStore parseFromString) (@insertUnknown parseFromString)
      (·.kind ≠ .heartbeat) where
  deaf := ProcessExecutor.deaf
  ends := HostTurn.endsReading hasStore parseFromString
  marked event := event.kind = .crashed
  keep_of_marked := by
    intro event hmarked
    have hkind : event.kind = .crashed := of_decide_eq_true hmarked
    simp [hkind, WorkerEventKind.crashed]
  deaf_own s turn := s.turn_deaf turn
  deaf_insert s inserted := by
    refine (s.turn_deaf _).trans ?_
    rw [insertUnknown, HostTurn.endsReading, tryParseFrame_unknown]
    exact Bool.or_false _
  step_deaf s inserted hdeaf := ProcessExecutor.await_of_deaf hdeaf _
  marked_insert s inserted hdeaf := ProcessExecutor.unknown_crashed inserted.1 inserted.2 hdeaf
  marked_own s t turn hdeaf := ProcessExecutor.turn_crashed turn hdeaf

/-- The events that `WaitForEvent` returns over a run, without the heartbeats. -/
def reportedEvents (hasStore : Bool) (parseFromString : List UInt8 → Option WorkerMessage)
    (s : ProcessExecutor) (turns : List HostTurn) : List WorkerEvent :=
  ((executorRun hasStore parseFromString).outputs s turns).filter (·.kind ≠ .heartbeat)

/-- Frames of unknown messages that are put into a run anywhere leave the events
other than heartbeats as they are exactly when each of them comes after the host
has stopped reading. -/
theorem unknown_frames_ignored_iff (hasStore : Bool)
    (parseFromString : List UInt8 → Option WorkerMessage) (s : ProcessExecutor)
    (script : List (HostTurn ⊕ UnknownFrame parseFromString × Storage)) :
    reportedEvents hasStore parseFromString s (padded insertUnknown script) =
        reportedEvents hasStore parseFromString s (original script) ↔
      Unheard (HostTurn.endsReading hasStore parseFromString) s.deaf script :=
  (unknownIntrusive hasStore parseFromString).outputs_padded_iff s script

/-! ## A message of a later version -/

/-- A few messages on the wire: an empty completion, a message with field 12
only, which `worker.proto` does not have, and the empty message. -/
private def fewMessages : List UInt8 → Option WorkerMessage
  | [0x3a, 0x00] => some (.taskCompleted "" [])
  | [0x62, 0x00] => some .unknown
  | [] => some .unknown
  | _ => none

/-- The worker sends a message of a type that the host does not know, and
completes its task. The host reports a crash first. -/
theorem unknown_frame_crashes :
    ¬ ∀ (hasStore : Bool) (parseFromString : List UInt8 → Option WorkerMessage)
      (s : ProcessExecutor)
      (script : List (HostTurn ⊕ UnknownFrame parseFromString × Storage)),
      reportedEvents hasStore parseFromString s (padded insertUnknown script) =
        reportedEvents hasStore parseFromString s (original script) := by
  intro h
  let storage : Storage := { sha256Hex := fun _ => "" }
  have hcrash := h false fewMessages { running := true }
    [.inr (⟨[0x62, 0x00], rfl⟩, storage), .inl (.read (.frame [0x3a, 0x00]) storage)]
  simp [reportedEvents, executorRun, Transducer.outputs, insertUnknown, ProcessExecutor.turn,
    Reading.parsed, tryParseFrame, fewMessages, ProcessExecutor.await,
    ProcessExecutor.waitForEvent, ProcessExecutor.nextEvent] at hcrash

end SpatialPlatform.Engine
