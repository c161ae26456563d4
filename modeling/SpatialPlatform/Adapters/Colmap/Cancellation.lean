import SpatialPlatform.Lib.Machine

/-!
# Cancellation in the COLMAP worker

`ReaderLoop` and the main loop of `adapters/colmap/colmap_worker_main.cpp`, and
the cancel checks of `ColmapAdapter::Execute`. The two threads share what
`SharedState` guards with its mutex, so every critical section is one step; the
main thread takes a request out of `incoming` in one of them and makes it active
in the next.

`Ticket.cancelRequested` is bookkeeping that the worker does not have: a
`TaskCancelled` for this request was received after it.

* `cancellation_kept` — a `TaskCancelled` that arrives outside the hand-over of
  its request has set the token when the next stage check looks at it.
* `cancellation_lost` — one that arrives while the request waits in `incoming`.
-/

namespace SpatialPlatform.Adapters.Colmap

open SpatialPlatform.Lib

/-- The frames the reader tells apart. -/
inductive HostFrame where
  | taskRequest (taskId : String)
  | taskCancelled (taskId : String)
  | shutdown
  | other
  deriving DecidableEq, Repr

/-- A request on its way through the worker. -/
structure Ticket where
  taskId : String
  cancelRequested : Bool := false
  deriving DecidableEq, Repr

/-- Where the main thread stands. -/
inductive MainPhase where
  /-- At the head of its loop. -/
  | idle
  /-- In `wait_for`. -/
  | waiting
  /-- The request is taken out of `incoming`; the task is not active yet. -/
  | taken (ticket : Ticket)
  /-- Active, before the cancel check of the next of `stages` stages; with none
  left, before the terminal frame. -/
  | boundary (ticket : Ticket) (stages : Nat)
  /-- Inside a stage, with so many stages after it. -/
  | stage (ticket : Ticket) (stages : Nat)
  /-- The terminal frame is sent; the task is still active. -/
  | finished (ticket : Ticket)
  deriving DecidableEq, Repr

/-- `SharedState`, the cancel token of the current task, and the main thread. -/
structure WorkerState where
  incoming : Option Ticket := none
  activeTaskId : Option String := none
  token : Bool := false
  shutdown : Bool := false
  main : MainPhase := .idle
  deriving DecidableEq, Repr

/-- How a stage ends: `RunSubprocess` sees the token, a tool fails, or the stage completes. -/
inductive StageEnd where
  | completed
  | failed
  | cancelled
  deriving DecidableEq, Repr

inductive WorkerAction where
  /-- The reader receives a frame. -/
  | receive (frame : HostFrame)
  /-- The main thread looks at `shutdown` and waits for a request. -/
  | await
  /-- The wait is over: the main thread takes the request, if there is one. -/
  | take
  /-- The main thread makes the task active; its plan has so many stages, or it
  fails before the first of them. -/
  | activate (plan : Option Nat)
  /-- The check before a stage. -/
  | check
  | endStage (result : StageEnd)
  /-- The last stage is through: the artifacts and the terminal frame are sent. -/
  | complete
  /-- The task is no longer active. -/
  | clear
  deriving DecidableEq, Repr

/-- The ticket remembers a cancellation of its task. -/
def Ticket.note (target : String) (ticket : Ticket) : Ticket :=
  if ticket.taskId = target then { ticket with cancelRequested := true } else ticket

/-- Every request that has no terminal frame yet remembers the cancellation. -/
def MainPhase.note (target : String) : MainPhase → MainPhase
  | .taken ticket => .taken (ticket.note target)
  | .boundary ticket stages => .boundary (ticket.note target) stages
  | .stage ticket stages => .stage (ticket.note target) stages
  | phase => phase

/-- One turn of `ReaderLoop`. -/
def receive (frame : HostFrame) (s : WorkerState) : WorkerState :=
  match frame with
  | .taskRequest taskId => { s with incoming := some { taskId := taskId } }
  | .taskCancelled target =>
      { s with
        token := s.token || s.activeTaskId = some target
        incoming := s.incoming.map (Ticket.note target)
        main := s.main.note target }
  | .shutdown => { s with shutdown := true }
  | .other => s

/-- One step of either thread; `none` when it cannot be taken. -/
def workerStep : WorkerAction → WorkerState → Option WorkerState
  | .receive frame, s => if s.shutdown then none else some (receive frame s)
  | .await, s =>
      match s.main with
      | .idle => if s.shutdown then none else some { s with main := .waiting }
      | _ => none
  | .take, s =>
      match s.main with
      | .waiting =>
          match s.incoming with
          | some ticket => some { s with incoming := none, main := .taken ticket }
          | none => some { s with main := .idle }
      | _ => none
  | .activate plan, s =>
      match s.main with
      | .taken ticket =>
          some
            { s with
              activeTaskId := some ticket.taskId
              token := false
              main := match plan with
                | some stages => .boundary ticket stages
                | none => .finished ticket }
      | _ => none
  | .check, s =>
      match s.main with
      | .boundary ticket (stages + 1) =>
          some { s with main := if s.token then .finished ticket else .stage ticket stages }
      | _ => none
  | .endStage result, s =>
      match s.main with
      | .stage ticket stages =>
          match result with
          | .completed => some { s with main := .boundary ticket stages }
          | .failed => some { s with main := .finished ticket }
          | .cancelled => if s.token then some { s with main := .finished ticket } else none
      | _ => none
  | .complete, s =>
      match s.main with
      | .boundary ticket 0 => some { s with main := .finished ticket }
      | _ => none
  | .clear, s =>
      match s.main with
      | .finished _ => some { s with activeTaskId := none, main := .idle }
      | _ => none

/-- The worker, as the two threads interleave. -/
def worker : Actions WorkerState WorkerAction := ⟨workerStep⟩

/-- No cancellation is lost at this step: a stage check for a task that was
cancelled after its request sees the token set. -/
def ChecksCancellation (a : WorkerAction) (s : WorkerState) : Prop :=
  ∀ ticket stages, a = .check → s.main = .boundary ticket (stages + 1) →
    ticket.cancelRequested = true → s.token = true

/-- A `TaskCancelled` does not find its request in `incoming` or between the two
critical sections. -/
def NotInHandOver (a : WorkerAction) (s : WorkerState) : Prop :=
  ∀ target, a = .receive (.taskCancelled target) →
    (∀ ticket ∈ s.incoming, ticket.taskId ≠ target) ∧
      ∀ ticket, s.main = .taken ticket → ticket.taskId ≠ target

/-- What the hand-over keeps: requests that are not active have not been
cancelled, and the token of the active one is set if it has. -/
structure TokenInv (s : WorkerState) : Prop where
  incoming : ∀ ticket ∈ s.incoming, ticket.cancelRequested = false
  taken : ∀ ticket, s.main = .taken ticket → ticket.cancelRequested = false
  active : ∀ ticket stages, s.main = .boundary ticket stages ∨ s.main = .stage ticket stages →
    s.activeTaskId = some ticket.taskId ∧ (ticket.cancelRequested = true → s.token = true)

/-! ## The hand-over keeps the cancellations

The invariant is about the ticket that the main thread holds: if its task was
cancelled after the request came in, the token is set or will be at the next
check. One lemma for each kind of step keeps it; the step that could break it is
a cancellation between the two critical sections, which the condition on the run
excludes. -/

theorem Ticket.note_of_ne {target : String} {ticket : Ticket} (h : ticket.taskId ≠ target) :
    ticket.note target = ticket := if_neg h

@[simp] theorem Ticket.note_taskId (target : String) (ticket : Ticket) :
    (ticket.note target).taskId = ticket.taskId := by
  unfold Ticket.note
  split <;> rfl

/-- A ticket remembers what it did before, and the cancellation of its own task. -/
theorem Ticket.note_cancelRequested {target : String} {ticket : Ticket}
    (h : (ticket.note target).cancelRequested = true) :
    ticket.cancelRequested = true ∨ ticket.taskId = target := by
  by_cases heq : ticket.taskId = target
  · exact .inr heq
  · rw [Ticket.note_of_ne heq] at h
    exact .inl h

theorem MainPhase.note_eq_taken {target : String} {phase : MainPhase} {noted : Ticket}
    (h : phase.note target = .taken noted) :
    ∃ ticket, phase = .taken ticket ∧ noted = ticket.note target := by
  cases phase with
  | taken ticket => exact ⟨ticket, rfl, (MainPhase.taken.inj h).symm⟩
  | _ => cases h

/-- The cancellation leaves the main thread where it is. -/
theorem MainPhase.note_active {target : String} {phase : MainPhase} {noted : Ticket} {stages : Nat}
    (h : phase.note target = .boundary noted stages ∨ phase.note target = .stage noted stages) :
    ∃ ticket, (phase = .boundary ticket stages ∨ phase = .stage ticket stages) ∧
      noted = ticket.note target := by
  cases phase with
  | boundary ticket n =>
      simp only [MainPhase.note, MainPhase.boundary.injEq, reduceCtorEq, or_false] at h
      exact ⟨ticket, .inl (by rw [h.2]), h.1.symm⟩
  | stage ticket n =>
      simp only [MainPhase.note, MainPhase.stage.injEq, reduceCtorEq, false_or] at h
      exact ⟨ticket, .inr (by rw [h.2]), h.1.symm⟩
  | _ => simp [MainPhase.note] at h

theorem tokenInv_initial : TokenInv {} :=
  ⟨by simp, by simp, by simp⟩

/-- A cancellation outside the hand-over reaches the active task. -/
theorem TokenInv.cancelled {s : WorkerState} (h : TokenInv s) {target : String}
    (hok : NotInHandOver (.receive (.taskCancelled target)) s) :
    TokenInv (receive (.taskCancelled target) s) := by
  obtain ⟨hincoming, htaken⟩ := hok target rfl
  refine ⟨?_, ?_, ?_⟩
  · rintro _ hticket
    obtain ⟨ticket, hmem, rfl⟩ := Option.map_eq_some_iff.mp hticket
    rw [Ticket.note_of_ne (hincoming ticket hmem)]
    exact h.incoming ticket hmem
  · rintro _ hmain
    obtain ⟨ticket, hphase, rfl⟩ := MainPhase.note_eq_taken hmain
    rw [Ticket.note_of_ne (htaken ticket hphase)]
    exact h.taken ticket hphase
  · rintro _ stages hmain
    obtain ⟨ticket, hphase, rfl⟩ := MainPhase.note_active hmain
    obtain ⟨hactive, htoken⟩ := h.active ticket stages hphase
    refine ⟨by simpa [receive] using hactive, fun hreq => ?_⟩
    rcases Ticket.note_cancelRequested hreq with hbefore | rfl
    · simp [receive, htoken hbefore]
    · simp [receive, hactive]

theorem TokenInv.received {s : WorkerState} (h : TokenInv s) {frame : HostFrame}
    (hok : NotInHandOver (.receive frame) s) : TokenInv (receive frame s) := by
  cases frame with
  | taskRequest taskId =>
      -- a request that still waits is overwritten
      refine ⟨?_, h.taken, h.active⟩
      rintro _ ⟨⟩
      rfl
  | taskCancelled target => exact h.cancelled hok
  | shutdown => exact ⟨h.incoming, h.taken, h.active⟩
  | other => exact h

/-- Outside the phases with a ticket there is nothing to keep for the active task. -/
theorem TokenInv.leave {s : WorkerState} (h : TokenInv s) {main : MainPhase}
    (activeTaskId : Option String)
    (hmain : main = .idle ∨ main = .waiting ∨ ∃ ticket, main = .finished ticket) :
    TokenInv { s with activeTaskId, main } := by
  refine ⟨h.incoming, ?_, ?_⟩
  · rintro ticket rfl
    simp at hmain
  · rintro ticket stages (rfl | rfl) <;> simp at hmain

/-- From one boundary of the active task to the next, nothing is forgotten. -/
theorem TokenInv.proceed {s : WorkerState} (h : TokenInv s) {ticket : Ticket} {n m : Nat}
    {main : MainPhase} (hs : s.main = .boundary ticket n ∨ s.main = .stage ticket n)
    (hmain : main = .boundary ticket m ∨ main = .stage ticket m) :
    TokenInv { s with main } := by
  refine ⟨h.incoming, ?_, ?_⟩
  · rintro _ rfl
    simp at hmain
  · rintro other stages hphase
    have hother : other = ticket := by
      rcases hmain with rfl | rfl <;> simp at hphase <;> exact hphase.1.symm
    rw [hother]
    exact h.active ticket n hs

theorem TokenInv.step {a : WorkerAction} {s s' : WorkerState} (h : TokenInv s)
    (hok : NotInHandOver a s) (hstep : worker.step a s = some s') : TokenInv s' := by
  have hstep : workerStep a s = some s' := hstep
  cases a with
  | receive frame =>
      simp only [workerStep, Option.ite_none_left_eq_some, Option.some.injEq] at hstep
      obtain ⟨-, rfl⟩ := hstep
      -- a cancellation in the hand-over is what `hok` leaves out
      exact h.received hok
  | await =>
      simp only [workerStep] at hstep
      split at hstep
      · split at hstep
        · cases hstep
        · cases hstep
          exact h.leave _ (.inr (.inl rfl))
      · cases hstep
  | take =>
      simp only [workerStep] at hstep
      split at hstep
      · split at hstep
        · rename_i ticket hticket
          cases hstep
          refine ⟨by simp, ?_, by simp⟩
          rintro _ ⟨⟩
          exact h.incoming ticket hticket
        · cases hstep
          exact h.leave _ (.inl rfl)
      · cases hstep
  | activate plan =>
      simp only [workerStep] at hstep
      split at hstep
      · rename_i ticket hmain
        cases hstep
        -- the token starts unset, as the ticket has not been cancelled
        have hfresh : ticket.cancelRequested = false := h.taken ticket hmain
        refine ⟨h.incoming, ?_, ?_⟩
        · cases plan <;> simp
        · cases plan <;> simp +contextual [hfresh]
      · cases hstep
  | check =>
      simp only [workerStep] at hstep
      split at hstep
      · rename_i ticket stages hmain
        cases hstep
        -- a set token ends the task at this boundary
        by_cases htoken : s.token = true
        · rw [if_pos htoken]
          exact h.leave _ (.inr (.inr ⟨ticket, rfl⟩))
        · rw [if_neg htoken]
          exact h.proceed (.inl hmain) (.inr rfl)
      · cases hstep
  | endStage result =>
      simp only [workerStep] at hstep
      split at hstep
      · rename_i ticket stages hmain
        cases result with
        | completed =>
            cases hstep
            exact h.proceed (.inr hmain) (.inl rfl)
        | failed =>
            cases hstep
            exact h.leave _ (.inr (.inr ⟨ticket, rfl⟩))
        | cancelled =>
            simp only [Option.ite_none_right_eq_some, Option.some.injEq] at hstep
            obtain ⟨-, rfl⟩ := hstep
            exact h.leave _ (.inr (.inr ⟨ticket, rfl⟩))
      · cases hstep
  | complete =>
      simp only [workerStep] at hstep
      split at hstep
      · rename_i ticket hmain
        cases hstep
        exact h.leave _ (.inr (.inr ⟨ticket, rfl⟩))
      · cases hstep
  | clear =>
      simp only [workerStep] at hstep
      split at hstep
      · cases hstep
        exact h.leave _ (.inl rfl)
      · cases hstep

theorem TokenInv.checks {a : WorkerAction} {s : WorkerState} (h : TokenInv s) :
    ChecksCancellation a s := by
  intro ticket stages _ hmain
  exact (h.active ticket (stages + 1) (.inl hmain)).2

/-! ## No cancellation is lost outside the hand-over -/

/-- In every interleaving of the two threads in which no `TaskCancelled` falls
into the hand-over of its request, each stage check sees the token of a task
that was cancelled after it was requested. -/
theorem cancellation_kept (as : List WorkerAction) (hok : worker.Along NotInHandOver as {}) :
    worker.Along ChecksCancellation as {} :=
  Actions.along_of_invariant (fun _ _ _ h => h.step) (fun _ _ h _ => h.checks) tokenInv_initial hok

/-- A cancellation during the second stage, and the check before the third. -/
theorem cancellation_kept_running :
    worker.Along NotInHandOver
        [.receive (.taskRequest "t"), .await, .take, .activate (some 3), .check,
          .endStage .completed, .check, .receive (.taskCancelled "t"), .endStage .completed, .check]
        {} ∧
      worker.Along ChecksCancellation
        [.receive (.taskRequest "t"), .await, .take, .activate (some 3), .check,
          .endStage .completed, .check, .receive (.taskCancelled "t"), .endStage .completed, .check]
        {} := by
  have hok : worker.Along NotInHandOver
      [.receive (.taskRequest "t"), .await, .take, .activate (some 3), .check,
        .endStage .completed, .check, .receive (.taskCancelled "t"), .endStage .completed, .check]
      {} := by
    simp [Actions.Along, NotInHandOver, worker, workerStep, receive, MainPhase.note, Ticket.note]
  exact ⟨hok, cancellation_kept _ hok⟩

/-! ## The hand-over loses them -/

/-- Between the two critical sections every cancellation is lost: the first
stage of the task still starts. -/
theorem starts_after_hand_over (s : WorkerState) (ticket : Ticket) (stages : Nat)
    (hmain : s.main = .taken ticket) (hlive : s.shutdown = false) :
    (worker.run [.receive (.taskCancelled ticket.taskId), .activate (some (stages + 1)), .check]
        s).map (fun s' => s'.main) =
      some (.stage { ticket with cancelRequested := true } stages) := by
  simp [Actions.run, worker, workerStep, receive, MainPhase.note, Ticket.note, hmain, hlive]

/-- A request and its cancellation arrive before the main thread wakes up. -/
theorem cancellation_lost :
    ¬ ∀ as : List WorkerAction, worker.Along ChecksCancellation as {} := by
  intro h
  have hrun := h [.receive (.taskRequest "t"), .receive (.taskCancelled "t"), .await, .take,
    .activate (some 1), .check]
  simp [Actions.Along, ChecksCancellation, worker, workerStep, receive, MainPhase.note,
    Ticket.note] at hrun

end SpatialPlatform.Adapters.Colmap
