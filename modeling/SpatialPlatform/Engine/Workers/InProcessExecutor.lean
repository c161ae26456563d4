import SpatialPlatform.Engine.Workers.Handle

/-!
# The in-process executor

`engine/workers/in_process_executor.cpp`: the task body runs on a thread of the
engine. What that thread does shows only through the mutex, so a call is given
the steps that the thread has taken since the last one; the runner itself may do
anything.
-/

namespace SpatialPlatform.Engine

open SpatialPlatform.Core

/-- How the runner ends: it returns, or throws. -/
inductive RunnerEnd where
  | returned
  /-- A `ProjectError`, with its `StableErrorCode`. -/
  | projectError (code message : String) (recoverable : Bool)
  | exception (what : String)
  | unknown
  deriving DecidableEq, Repr

/-- One critical section of `RunTask`. -/
inductive RunnerStep where
  | emit (event : WorkerEvent)
  | finish (result : RunnerEnd)
  deriving DecidableEq, Repr

/-- The event that `RunTask` emits for an exception of the runner. -/
def RunnerEnd.event (taskId : Uuid) : RunnerEnd → Option WorkerEvent
  | .returned => none
  | .projectError code message recoverable => some ⟨taskId, .failed code message recoverable⟩
  | .exception what =>
      some ⟨taskId, .failed "WORKER_CRASHED" ("in-process runner threw: " ++ what) true⟩
  | .unknown =>
      some ⟨taskId, .failed "WORKER_CRASHED" "in-process runner threw unknown exception" true⟩

/-- The members of `InProcessExecutor`, with the local variable `terminal` of `RunTask`. -/
structure InProcessExecutor where
  events : List WorkerEvent := []
  busy : Bool := false
  runningTask : Uuid := .nil
  cancelled : Bool := false
  cancelReason : String := ""
  shutdown : Bool := false
  terminal : Option WorkerEvent := none
  deriving DecidableEq, Repr

namespace InProcessExecutor

variable (s : InProcessExecutor)

/-- The `emit` that `RunTask` hands to the runner: a terminal event is kept back. -/
def emit (event : WorkerEvent) : InProcessExecutor :=
  if event.kind.isTerminal then { s with terminal := some event }
  else { s with events := s.events ++ [event] }

/-- The end of `RunTask`: the terminal event is published with `busy_` cleared. -/
def publish : InProcessExecutor :=
  { s with
    busy := false
    runningTask := .nil
    events := s.events ++ s.terminal.toList
    terminal := none }

/-- One step of `RunTask`; without a task there is no thread to take it. -/
def runTask (s : InProcessExecutor) (step : RunnerStep) : InProcessExecutor :=
  if s.busy then
    match step with
    | .emit event => s.emit event
    | .finish result =>
        match result.event s.runningTask with
        | none => s.publish
        | some event => (s.emit event).publish
  else s

/-- What the thread has done since the last call. -/
def catchUp (steps : List RunnerStep) : InProcessExecutor := steps.foldl runTask s

/-- `Submit`. -/
def submit (steps : List RunnerStep) (request : TaskRequest) :
    Except ProjectError InProcessExecutor :=
  let s := s.catchUp steps
  if s.shutdown then .error ⟨.workerTerminated, "in-process worker is shut down"⟩
  else if s.busy then
    .error ⟨.workerBusy, "in-process worker is busy (max_concurrency = 1)"⟩
  else
    .ok
      { s with
        busy := true
        runningTask := request.taskId
        cancelled := false
        cancelReason := ""
        terminal := none }

/-- `Cancel`. -/
def cancel (steps : List RunnerStep) (taskId : Uuid) (reason : String) : InProcessExecutor :=
  let s := s.catchUp steps
  if s.busy && s.runningTask = taskId then { s with cancelled := true, cancelReason := reason }
  else s

/-- `WaitForEvent`. -/
def waitForEvent (steps : List RunnerStep) : Option WorkerEvent × InProcessExecutor :=
  let s := s.catchUp steps
  match s.events with
  | [] => (none, s)
  | event :: events => (some event, { s with events := events })

end InProcessExecutor

/-- `InProcessExecutor` as the scheduler sees it. -/
def inProcessExecutor (profile : ResourceProfile) (id : Uuid) :
    WorkerExecutor InProcessExecutor (List RunnerStep) where
  profile := profile
  id := id
  submit s := s.submit
  cancel s := s.cancel
  waitForEvent s := s.waitForEvent

/-! ## Terminal events

The queue is filled by the thread of the runner and emptied by the scheduler.
The invariant is that the terminal event of a task is the last one in it. -/

/-- The terminal event of a task is the last one in the queue, and in it only
once the runner has returned. -/
structure InProcessExecutor.TerminalLast (s : InProcessExecutor) : Prop where
  busy : s.busy = true → ∀ event ∈ s.events, event.kind.isTerminal = false
  last : ∀ event ∈ s.events.dropLast, event.kind.isTerminal = false

namespace InProcessExecutor

variable {s : InProcessExecutor}

theorem TerminalLast.of_open (h : ∀ event ∈ s.events, event.kind.isTerminal = false) :
    s.TerminalLast :=
  ⟨fun _ => h, fun event hmem => h event (List.dropLast_subset _ hmem)⟩

theorem TerminalLast.emit (h : s.TerminalLast) (hbusy : s.busy = true) (event : WorkerEvent) :
    (s.emit event).TerminalLast := by
  unfold InProcessExecutor.emit
  split
  · exact ⟨h.busy, h.last⟩
  · next hopen =>
      apply TerminalLast.of_open
      intro other hmem
      rcases List.mem_append.mp hmem with hmem | hmem
      · exact h.busy hbusy other hmem
      · rw [List.mem_singleton.mp hmem]
        simpa using hopen

theorem TerminalLast.publish (h : s.TerminalLast) (hbusy : s.busy = true) :
    s.publish.TerminalLast := by
  refine ⟨fun hstill => absurd hstill Bool.false_ne_true, fun event hmem => ?_⟩
  apply h.busy hbusy
  unfold InProcessExecutor.publish at hmem
  cases hterminal : s.terminal with
  | none =>
      rw [hterminal, Option.toList_none, List.append_nil] at hmem
      exact List.dropLast_subset _ hmem
  | some last => simpa [hterminal] using hmem

@[simp] theorem emit_busy (event : WorkerEvent) : (s.emit event).busy = s.busy := by
  unfold emit
  split <;> rfl

theorem TerminalLast.runTask (h : s.TerminalLast) (step : RunnerStep) :
    (s.runTask step).TerminalLast := by
  unfold InProcessExecutor.runTask
  split
  · next hbusy =>
      split
      · exact h.emit hbusy _
      · split
        · exact h.publish hbusy
        · exact (h.emit hbusy _).publish (by rw [emit_busy, hbusy])
  · exact h

theorem TerminalLast.catchUp (h : s.TerminalLast) (steps : List RunnerStep) :
    (s.catchUp steps).TerminalLast := by
  induction steps generalizing s with
  | nil => exact h
  | cons step steps ih => exact ih (h.runTask step)

/-- Without a task the thread does nothing. -/
theorem catchUp_of_idle (hidle : s.busy = false) (steps : List RunnerStep) :
    s.catchUp steps = s := by
  induction steps with
  | nil => rfl
  | cons step steps ih =>
      show (s.runTask step).catchUp steps = s
      rw [show s.runTask step = s from if_neg (by simp [hidle]), ih]

/-- An accepted submission starts a task; what was left in the queue stays there. -/
theorem submit_eq_ok {s' : InProcessExecutor} {steps : List RunnerStep} {request : TaskRequest}
    (h : s.submit steps request = .ok s') :
    s'.shutdown = false ∧ s'.events = (s.catchUp steps).events := by
  simp only [submit] at h
  split at h
  · cases h
  · next hopen =>
      split at h
      · cases h
      · cases h
        exact ⟨by simpa using hopen, rfl⟩

/-- `Submit` throws when the executor is shut down or its runner is at work, and only then. -/
theorem submit_accepts {steps : List RunnerStep} (request : TaskRequest)
    (hopen : (s.catchUp steps).shutdown = false) (hidle : (s.catchUp steps).busy = false) :
    ∃ s', s.submit steps request = .ok s' := by
  simp [submit, hopen, hidle]

theorem waitForEvent_of_nil {steps : List RunnerStep} (h : (s.catchUp steps).events = []) :
    s.waitForEvent steps = (none, s.catchUp steps) := by
  simp only [waitForEvent, h]

theorem waitForEvent_of_cons {steps : List RunnerStep} {event : WorkerEvent}
    {events : List WorkerEvent} (h : (s.catchUp steps).events = event :: events) :
    s.waitForEvent steps = (some event, { s.catchUp steps with events := events }) := by
  simp only [waitForEvent, h]

/-- Reading keeps the order; a terminal event read was the last, of a runner that has returned. -/
theorem TerminalLast.tail (h : s.TerminalLast) {event : WorkerEvent} {events : List WorkerEvent}
    (hevents : s.events = event :: events) :
    TerminalLast { s with events := events } ∧
      (event.kind.isTerminal = true → s.busy = false ∧ events = []) := by
  obtain ⟨hbusy, hlast⟩ := h
  rw [hevents] at hbusy hlast
  refine ⟨⟨fun hb other hmem => hbusy hb other (List.mem_cons_of_mem _ hmem), ?_⟩, fun hterm => ?_⟩
  · intro other hmem
    apply hlast
    cases events with
    | nil => cases hmem
    | cons second rest => exact List.mem_cons_of_mem _ hmem
  · constructor
    · cases hb : s.busy with
      | false => rfl
      | true =>
          have hopen := hbusy hb event List.mem_cons_self
          simp [hterm] at hopen
    · cases events with
      | nil => rfl
      | cons second rest =>
          have hopen := hlast event (by simp)
          simp [hterm] at hopen

/-- A runner that has returned is no longer at work. -/
theorem runTask_finish (result : RunnerEnd) : (s.runTask (.finish result)).busy = false := by
  unfold runTask
  split
  · dsimp only
    split <;> rfl
  · next hidle => simpa using hidle

theorem runTask_shutdown (step : RunnerStep) : (s.runTask step).shutdown = s.shutdown := by
  unfold runTask emit publish
  repeat' split
  all_goals rfl

theorem catchUp_shutdown (steps : List RunnerStep) : (s.catchUp steps).shutdown = s.shutdown := by
  induction steps generalizing s with
  | nil => rfl
  | cons step steps ih => exact (@ih (s.runTask step)).trans (runTask_shutdown step)

theorem waitForEvent_shutdown (steps : List RunnerStep) :
    (s.waitForEvent steps).2.shutdown = s.shutdown := by
  cases hevents : (s.catchUp steps).events with
  | nil =>
      rw [waitForEvent_of_nil hevents]
      exact catchUp_shutdown steps
  | cons event events =>
      rw [waitForEvent_of_cons hevents]
      exact catchUp_shutdown steps

end InProcessExecutor

end SpatialPlatform.Engine
