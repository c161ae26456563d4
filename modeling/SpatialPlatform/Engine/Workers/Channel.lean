import SpatialPlatform.Lib.Machine
import SpatialPlatform.Engine.Workers.ProcessExecutor

/-!
# One worker channel

The process executor, the frames that the worker has sent and the host has not
read, and every order in which submissions, cancellations, waits, frames and the
worker's exit can come. The worker may send anything.

`NextEvent` gives each event the task submitted last, so what matters is whether
a frame of another task can be read.

* `events_attributed` — if no frame of one task is unread when another is
  submitted, or sent afterwards, each event was decoded from a frame of its own
  task.
* `stale_completion_misattributed` — the frame that follows a `cancelled` report
  completes the next task.
-/

namespace SpatialPlatform.Engine

open SpatialPlatform.Core SpatialPlatform.Lib

/-! ## The channel

Host and worker with the frames between them. Either side takes a step at a
time, in any order. -/

inductive Frame where
  | message (message : WorkerMessage)
  | malformed
  deriving DecidableEq, Repr

structure Channel where
  executor : ProcessExecutor := {}
  /-- Sent and not read. -/
  frames : List Frame := []
  /-- The worker has closed its end. -/
  exited : Bool := false
  deriving DecidableEq, Repr

inductive ChannelAction where
  | submit (request : TaskRequest) (storage : Storage)
  | cancel (taskId : Uuid) (reason : String) (written : Bool)
  /-- `WaitForEvent`; if `late`, the time runs out before the next frame is there. -/
  | wait (late : Bool) (storage : Storage)
  /-- The worker sends a frame. -/
  | send (frame : Frame)
  | exit
  | shutdown

namespace Channel

variable (hasStore : Bool) (c : Channel)

/-- How `ReadFrame` ends. -/
def read (late : Bool) : FrameRead :=
  if late then .timedOut
  else match c.frames with
  | [] => if c.exited then .eof else .timedOut
  | .malformed :: _ => .malformed
  | .message message :: _ => .message message

/-- What a call of `WaitForEvent` hears from the worker, if it listens. -/
def heard (late : Bool) : Option FrameRead := if c.executor.reads then some (c.read late) else none

/-- A call of `WaitForEvent`. -/
def wait (late : Bool) (storage : Storage) : Option WorkerEvent × ProcessExecutor :=
  c.executor.waitForEvent hasStore { read := c.read late, storage := storage }

/-- One step of either side. A `Submit` that throws changes nothing. -/
def step : ChannelAction → Channel → Option Channel
  | .submit request storage, c =>
      match c.executor.submit hasStore { storage := storage } request with
      | .ok executor => some { c with executor := executor }
      | .error _ => some c
  | .cancel taskId reason written, c =>
      some { c with executor := c.executor.cancel written taskId reason }
  | .wait late storage, c =>
      some
        { c with
          executor := (c.wait hasStore late storage).2
          frames := if c.executor.reads && !late then c.frames.tail else c.frames }
  | .send frame, c => if c.exited then none else some { c with frames := c.frames ++ [frame] }
  | .exit, c => some { c with exited := true }
  | .shutdown, c =>
      if c.executor.child then
        some { c with executor := { c.executor with shutdown := true, child := false }, frames := [] }
      else some c

/-- The channel of an executor with or without a store. -/
def system : Actions Channel ChannelAction := ⟨step hasStore⟩

end Channel

/-! ## Attribution

An event is decoded from one frame, so it can be about another task only if such
a frame is unread when the task is submitted, or is sent later. `OwnFrames` is
the invariant that excludes both. -/

/-- Where an event for a task may come from: a frame of that task, a frame about
no task, which is a sign of life, or the host itself, when the worker is gone or
was never asked. -/
inductive DecodedFor (taskId : Uuid) : Option FrameRead → WorkerEventKind → Prop where
  | own {message : WorkerMessage} {kind : WorkerEventKind}
      (h : message.taskId = some (formatUuid taskId)) : DecodedFor taskId (some (.message message)) kind
  | alive {message : WorkerMessage} (h : message.taskId = none) :
      DecodedFor taskId (some (.message message)) .heartbeat
  | crashed {read : FrameRead} (h : read = .eof ∨ read = .malformed) :
      DecodedFor taskId (some read) (.failed "WORKER_CRASHED" "worker process exited" true)
  | unsent (error : String) :
      DecodedFor taskId none (.failed "WORKER_INPUT_MATERIALIZE" error false)

/-- The step returns no event that was decoded from the frame of another task,
and such a frame changes nothing for the awaited one. -/
def Attributed (hasStore : Bool) (a : ChannelAction) (c : Channel) : Prop :=
  ∀ late storage, a = .wait late storage →
    (∀ event, (c.wait hasStore late storage).1 = some event →
      DecodedFor event.taskId (c.heard late) event.kind) ∧
    ∀ message owner, c.heard late = some (.message message) → message.taskId = some owner →
      owner ≠ formatUuid c.executor.taskUuid → c.wait hasStore late storage = (none, c.executor)

/-- When a task is submitted, no frame of another is unread, and the worker does
not send one afterwards. -/
def NoStaleFrame (hasStore : Bool) (a : ChannelAction) (c : Channel) : Prop :=
  (∀ request storage executor, a = .submit request storage →
    c.executor.submit hasStore { storage := storage } request = .ok executor →
      ∀ message owner, .message message ∈ c.frames → message.taskId = some owner →
        owner = formatUuid request.taskId) ∧
  ∀ message owner, a = .send (.message message) → message.taskId = some owner →
    owner = formatUuid c.executor.taskUuid

/-- Every unread frame that is about a task is about the one submitted last. -/
def OwnFrames (c : Channel) : Prop :=
  ∀ message owner, .message message ∈ c.frames → message.taskId = some owner →
    owner = formatUuid c.executor.taskUuid

namespace Channel

variable {hasStore : Bool} {c c' : Channel}

/-- What is heard is the first unread frame. -/
theorem mem_of_heard {late : Bool} {message : WorkerMessage}
    (h : c.heard late = some (.message message)) : .message message ∈ c.frames := by
  have hread : c.read late = .message message := by
    simp only [heard, Option.ite_none_right_eq_some, Option.some.injEq] at h
    exact h.2
  unfold read at hread
  split at hread
  · cases hread
  · split at hread
    · split at hread <;> cases hread
    · cases hread
    · next hframes =>
        cases hread
        rw [hframes]
        exact List.mem_cons_self

/-- What an event is decoded from, when the frame heard is not about another task. -/
theorem decodedFor_of_own {late : Bool} {storage : Storage} {event : WorkerEvent}
    (hown : ∀ message owner, c.heard late = some (.message message) →
      message.taskId = some owner → owner = formatUuid c.executor.taskUuid)
    (hevent : (c.wait hasStore late storage).1 = some event) :
    DecodedFor event.taskId (c.heard late) event.kind := by
  unfold wait ProcessExecutor.waitForEvent at hevent
  split at hevent
  · cases hevent
  · next hopen =>
      split at hevent
      · next error hpending =>
          have hheard : c.heard late = none := by simp [heard, ProcessExecutor.reads, hpending]
          cases hevent
          rw [hheard]
          exact .unsent error
      · next hpending =>
          have hheard : c.heard late = some (c.read late) := by
            simp only [Bool.or_eq_true, Bool.not_eq_eq_eq_not, Bool.not_true, not_or,
              Bool.not_eq_true, Bool.not_eq_false] at hopen
            simp [heard, ProcessExecutor.reads, hpending, hopen]
          rw [hheard]
          split at hevent
          · cases hevent
          · next hread =>
              cases hevent
              exact .crashed (.inl hread)
          · next hread =>
              cases hevent
              exact .crashed (.inr hread)
          · next message hread =>
              have hread : c.read late = .message message := hread
              rw [hread] at hheard ⊢
              cases howner : message.taskId with
              | some owner =>
                  cases hevent
                  exact .own (by rw [howner, hown message owner hheard howner])
              | none =>
                  -- only signs of life name no task
                  cases message <;> cases hevent <;> first | exact .alive rfl | cases howner

end Channel

section invariant

variable {hasStore : Bool} {c c' : Channel}

theorem OwnFrames.attributed (h : OwnFrames c) (a : ChannelAction) : Attributed hasStore a c := by
  intro late storage _
  have hown : ∀ message owner, c.heard late = some (.message message) →
      message.taskId = some owner → owner = formatUuid c.executor.taskUuid := by
    intro message owner hheard howner
    exact h message owner (Channel.mem_of_heard hheard) howner
  constructor
  · intro event hevent
    exact Channel.decodedFor_of_own hown hevent
  · intro message owner hheard howner hne
    exact absurd (hown message owner hheard howner) hne

/-- Reading, and anything that leaves the task as it is, keeps the unread frames its own. -/
theorem OwnFrames.mono (h : OwnFrames c) (hframes : c'.frames ⊆ c.frames)
    (htask : c'.executor.taskUuid = c.executor.taskUuid) : OwnFrames c' := by
  intro message owner hmem howner
  rw [htask]
  exact h message owner (hframes hmem) howner

theorem OwnFrames.step {a : ChannelAction} (h : OwnFrames c) (hok : NoStaleFrame hasStore a c)
    (hstep : (Channel.system hasStore).step a c = some c') : OwnFrames c' := by
  have hstep : Channel.step hasStore a c = some c' := hstep
  cases a with
  | submit request storage =>
      simp only [Channel.step] at hstep
      split at hstep
      · next executor hsubmit =>
          cases hstep
          intro message owner hmem howner
          obtain ⟨_, _, _, _, _, _, htask⟩ := ProcessExecutor.submit_eq_ok hsubmit
          show owner = formatUuid executor.taskUuid
          rw [htask]
          -- the task changes here, and what is still in the pipe has to be about the new one
          exact hok.1 request storage executor rfl hsubmit message owner hmem howner
      · cases hstep
        exact h
  | cancel taskId reason written =>
      cases hstep
      apply h.mono
      · exact List.Subset.refl _
      · exact ProcessExecutor.cancel_taskUuid written taskId reason
  | wait late storage =>
      cases hstep
      apply h.mono
      · show (if _ then c.frames.tail else c.frames) ⊆ c.frames
        split
        · exact fun _ hmem => List.mem_of_mem_tail hmem
        · exact List.Subset.refl _
      · exact ProcessExecutor.waitForEvent_taskUuid _
  | send frame =>
      simp only [Channel.step, Option.ite_none_left_eq_some, Option.some.injEq] at hstep
      obtain ⟨-, rfl⟩ := hstep
      intro message owner hmem howner
      rcases List.mem_append.mp hmem with hmem | hmem
      · exact h message owner hmem howner
      · -- and the worker has to speak of the task that it was given
        obtain rfl := List.mem_singleton.mp hmem
        exact hok.2 message owner rfl howner
  | exit =>
      cases hstep
      exact h
  | shutdown =>
      simp only [Channel.step] at hstep
      split at hstep
      · cases hstep
        exact h.mono (List.nil_subset _) rfl
      · cases hstep
        exact h

end invariant

/-! ## Runs of the channel -/

/-- In every interleaving in which no frame of one task is unread when another
is submitted, or sent afterwards, each event returned was decoded from a frame
of its own task. -/
theorem events_attributed (hasStore : Bool) (as : List ChannelAction)
    (hok : (Channel.system hasStore).Along (NoStaleFrame hasStore) as {}) :
    (Channel.system hasStore).Along (Attributed hasStore) as {} :=
  Actions.along_of_invariant (fun _ _ _ (h : OwnFrames _) => h.step) (fun a _ h _ => h.attributed a)
    (fun _ _ hmem => absurd hmem List.not_mem_nil) hok

/-- Whatever frame of another task is read, it is passed on as an event of the awaited one. -/
theorem stale_frame_misattributed {hasStore : Bool} {c : Channel} {late : Bool} {storage : Storage}
    {message : WorkerMessage} {owner : String}
    (hheard : c.heard late = some (.message message)) (howner : message.taskId = some owner)
    (hstale : owner ≠ formatUuid c.executor.taskUuid) :
    ¬ Attributed hasStore (.wait late storage) c := by
  intro h
  have hquiet : c.wait hasStore late storage = (none, c.executor) :=
    (h late storage rfl).2 message owner hheard howner hstale
  simp only [Channel.heard, Option.ite_none_right_eq_some, Option.some.injEq] at hheard
  obtain ⟨hreads, hread⟩ := hheard
  simp only [ProcessExecutor.reads, Bool.and_eq_true, Bool.not_eq_eq_eq_not, Bool.not_true,
    Option.isNone_iff_eq_none] at hreads
  obtain ⟨⟨hshutdown, hchild⟩, hpending⟩ := hreads
  simp [Channel.wait, ProcessExecutor.waitForEvent, hshutdown, hchild, hpending, hread] at hquiet

/-! ## The cancelled exit of the COLMAP worker

A cancelled task reports twice. The second report is a frame of the old task
when the next one is submitted too early. -/

/-- What `WorkerRunTask` sends for a task that was cancelled. -/
def cancelledReport (taskId : String) : List Frame :=
  [.message (.taskProgress taskId 100 "cancelled"), .message (.taskCompleted taskId [])]

private def noStorage : Storage := { sha256Hex := fun _ => "" }

/-- The host waits until the cancelled task has sent both frames. -/
theorem events_attributed_in_turn :
    let first := formatUuid ⟨1⟩
    let as : List ChannelAction :=
      [.submit { taskId := ⟨1⟩ } noStorage, .cancel ⟨1⟩ "" true] ++
        (cancelledReport first).map .send ++
        [.wait false noStorage, .wait false noStorage, .submit { taskId := ⟨2⟩ } noStorage,
          .send (.message (.taskCompleted (formatUuid ⟨2⟩) [])), .wait false noStorage]
    (Channel.system false).Along (NoStaleFrame false) as {} ∧
      (Channel.system false).Along (Attributed false) as {} := by
  intro first as
  have hok : (Channel.system false).Along (NoStaleFrame false) as {} := by
    simp [as, first, cancelledReport, Actions.Along, NoStaleFrame, Channel.system, Channel.step,
      Channel.wait, Channel.read, ProcessExecutor.submit, ProcessExecutor.cancel,
      ProcessExecutor.waitForEvent, ProcessExecutor.nextEvent, ProcessExecutor.release,
      ProcessExecutor.reads]
    refine ⟨?_, ?_, ?_⟩
    all_goals
      rintro _ _ rfl ⟨⟩
      rfl
  exact ⟨hok, events_attributed false as hok⟩

/-- The next task is submitted after the `cancelled` report, while the empty
completion that follows it is still unread; it is returned as the completion of
the next task. -/
theorem stale_completion_misattributed :
    ¬ ∀ (hasStore : Bool) (as : List ChannelAction),
      (Channel.system hasStore).Along (Attributed hasStore) as {} := by
  intro h
  let before : List ChannelAction :=
    [.submit { taskId := ⟨1⟩ } noStorage, .cancel ⟨1⟩ "" true] ++
      (cancelledReport (formatUuid ⟨1⟩)).map .send ++
      [.wait false noStorage, .submit { taskId := ⟨2⟩ } noStorage]
  let second : ProcessExecutor := { running := true, taskId := formatUuid ⟨2⟩, taskUuid := ⟨2⟩ }
  have hrun : (Channel.system false).run before {} =
      some ⟨second, [.message (.taskCompleted (formatUuid ⟨1⟩) [])], false⟩ := by
    decide +kernel
  have hlast : Attributed false (.wait false noStorage)
      ⟨second, [.message (.taskCompleted (formatUuid ⟨1⟩) [])], false⟩ :=
    ((h false (before ++ [.wait false noStorage])).append hrun).1
  apply stale_frame_misattributed _ _ _ hlast
  · exact .taskCompleted (formatUuid ⟨1⟩) []
  · exact formatUuid ⟨1⟩
  · rfl
  · rfl
  · decide +kernel

end SpatialPlatform.Engine
