import SpatialPlatform.Engine.Scheduler.Progress

/-!
# A run as a sequence of dispatches

Between two dispatches the scheduler only looks at the graph. `rounds` is the
scheduler with each dispatch done at once, when a function `work` says how each
task ends on given inputs. A run follows `rounds` as long as what its tasks end
with, executed or replayed, is what `work` says, whatever the worker does in
between and however often it is asked (`FollowsRounds.move`). The attempts of a
task, which the rounds do not look at, are left out.
-/

namespace SpatialPlatform.Engine

open SpatialPlatform.Core

/-- How the dispatch of a task ends. -/
inductive Ending where
  | succeeded (outputs : List ArtifactRef)
  | failed
  | cancelled
  deriving DecidableEq, Repr

def Ending.status : Ending → TaskStatus
  | .succeeded _ => .succeeded
  | .failed => .failed
  | .cancelled => .cancelled

def Ending.outputs : Ending → List ArtifactRef
  | .succeeded outputs => outputs
  | .failed | .cancelled => []

/-- How a task ends when it is executed on given inputs. -/
abbrev Work := Uuid → List ArtifactRef → Ending

namespace TaskGraph

theorem ext_task {g g' : TaskGraph} (hshape : g.toTaskShape = g'.toTaskShape)
    (htask : ∀ x, g.task x = g'.task x) : g = g' := by
  obtain ⟨shape, task, hid⟩ := g
  obtain ⟨shape', task', hid'⟩ := g'
  obtain rfl : shape = shape' := hshape
  obtain rfl : task = task' := funext htask
  rfl

/-! ## A graph without its attempts

The rounds of the semantics know no attempts. Each operation on the graph
commutes with forgetting them. -/

/-- The graph with no attempt counted. -/
def unattempted (g : TaskGraph) : TaskGraph :=
  { g with
    task := fun x => { g.task x with metadata := { (g.task x).metadata with attempts := 0 } }
    id_task := fun x => g.id_task x }

variable (g : TaskGraph) (id : Uuid)

@[simp] theorem toTaskShape_unattempted : g.unattempted.toTaskShape = g.toTaskShape := rfl

@[simp] theorem status_unattempted (x : Uuid) : g.unattempted.status x = g.status x := rfl

@[simp] theorem inputs_unattempted (x : Uuid) :
    (g.unattempted.task x).inputs = (g.task x).inputs := rfl

@[simp] theorem outputs_unattempted (x : Uuid) :
    (g.unattempted.task x).outputs = (g.task x).outputs := rfl

@[simp] theorem failure_unattempted (x : Uuid) :
    (g.unattempted.task x).metadata.failure = (g.task x).metadata.failure := rfl

@[simp] theorem dependencyFailed_unattempted :
    g.unattempted.dependencyFailed id = g.dependencyFailed id := rfl

@[simp] theorem allTerminal_unattempted : g.unattempted.allTerminal = g.allTerminal := rfl

@[simp] theorem readyTasks_unattempted : g.unattempted.readyTasks = g.readyTasks := rfl

theorem task_unattempted (x : Uuid) : g.unattempted.task x =
    { g.task x with metadata := { (g.task x).metadata with attempts := 0 } } := rfl

theorem unattempted_setState (state : TaskStatus) :
    (g.setState id state).unattempted = g.unattempted.setState id state := by
  apply ext_task
  · rfl
  · intro x
    simp only [task_unattempted, task_setState]
    split <;> rfl

theorem unattempted_setOutputs (outputs : List ArtifactRef) :
    (g.setOutputs id outputs).unattempted = g.unattempted.setOutputs id outputs := by
  apply ext_task
  · rfl
  · intro x
    simp only [task_unattempted, task_setOutputs]
    split <;> rfl

theorem unattempted_countAttempt : (g.countAttempt id).unattempted = g.unattempted := by
  apply ext_task
  · rfl
  · intro x
    simp only [task_unattempted, task_countAttempt]
    split
    · next h => rw [h]
    · rfl

theorem unattempted_threadOutputsToDependents (declared produced : List ArtifactRef) :
    (g.threadOutputsToDependents id declared produced).unattempted =
      g.unattempted.threadOutputsToDependents id declared produced := by
  apply ext_task
  · simp
  · intro x
    rw [task_threadOutputsToDependents, task_unattempted, task_threadOutputsToDependents,
      task_unattempted, toTaskShape_unattempted]
    split <;> rfl

/-- A status written twice. -/
theorem setState_setState (state state' : TaskStatus) :
    (g.setState id state).setState id state' = g.setState id state' := by
  apply ext_task
  · rfl
  · intro x
    simp only [task_setState, if_true]
    split <;> rfl

theorem setOutputs_setState (state : TaskStatus) (outputs : List ArtifactRef) :
    (g.setState id state).setOutputs id outputs = (g.setOutputs id outputs).setState id state := by
  apply ext_task
  · rfl
  · intro x
    simp only [task_setState, task_setOutputs, if_true]
    split <;> rfl

variable {g id} in
/-- The status a task has already. -/
theorem setState_status {state : TaskStatus} (h : g.status id = state) : g.setState id state = g := by
  apply ext_task
  · rfl
  · intro x
    rw [task_setState]
    split
    · next hx =>
        rw [hx, ← h]
        rfl
    · rfl

/-! ## Dispatches at once

The loops of `Execute` with a dispatch as one step, for outcomes that are known. -/

/-- The graph after a dispatch has ended. -/
def finish : Ending → TaskGraph
  | .succeeded outputs =>
      ((g.setOutputs id outputs).setState id .succeeded).threadOutputsToDependents id
        (g.task id).outputs outputs
  | .failed => g.setState id .failed
  | .cancelled => (g.setOutputs id []).setState id .cancelled

theorem status_finish (ending : Ending) : (g.finish id ending).status id = ending.status := by
  cases ending <;> simp [finish, Ending.status]

theorem outputs_finish (outputs : List ArtifactRef) :
    ((g.finish id (.succeeded outputs)).task id).outputs = outputs := by
  simp only [finish, task_threadOutputsToDependents]
  split <;> simp [task_setState, task_setOutputs]

/-- A dispatch changes status and outputs of its own task alone. -/
theorem finish_of_ne {x : Uuid} (hne : x ≠ id) (ending : Ending) :
    (g.finish id ending).status x = g.status x ∧
      ((g.finish id ending).task x).outputs = (g.task x).outputs := by
  cases ending with
  | succeeded outputs =>
      simp only [finish, status_threadOutputsToDependents, task_threadOutputsToDependents]
      constructor
      · simp [hne]
      · split <;> simp [task_setState, task_setOutputs, hne]
  | failed => simp [finish, task_setState, hne]
  | cancelled => simp [finish, task_setState, task_setOutputs, hne]

end TaskGraph

/-- One step of `Execute` in which a dispatch is done at once. -/
def rounds (work : Work) : TaskGraph × Control → TaskGraph × Control
  | (g, .iterate n) =>
      if n < 10000 then (g, .propagate n g.insertionOrder false) else (g, .returned)
  | (g, .propagate n (id :: ids) progressed) =>
      if g.dependencyFailed id then
        (g.setState id (g.task id).metadata.failure.status, .propagate n ids true)
      else (g, .propagate n ids progressed)
  | (g, .propagate n [] progressed) =>
      if g.allTerminal then (g, .returned) else (g, .ready n g.readyTasks progressed)
  | (g, .ready n (id :: ids) _) =>
      (g.finish id (work id (g.task id).inputs), .ready n ids true)
  | (g, .ready n [] progressed) =>
      (g, if progressed then .iterate (n + 1) else .threw stalled)
  | (g, .task n ids id phase) => (g, .task n ids id phase)
  | (g, .returned) => (g, .returned)
  | (g, .threw error) => (g, .threw error)

/-! ## Ended tasks

A task that has ended is not dispatched again, so later rounds leave it alone. -/

/-- The task has ended and is not dispatched again. -/
def Ended (x : Uuid) (at_ : TaskGraph × Control) : Prop :=
  (at_.1.status x).isTerminal = true ∧ ∀ n ids p, at_.2 = .ready n ids p → x ∉ ids

/-- An ended task keeps its status and its outputs. -/
theorem Ended.step {work : Work} {x : Uuid} {at_ : TaskGraph × Control} (h : Ended x at_) :
    Ended x (rounds work at_) ∧ (rounds work at_).1.status x = at_.1.status x ∧
      ((rounds work at_).1.task x).outputs = (at_.1.task x).outputs := by
  obtain ⟨g, c⟩ := at_
  obtain ⟨hterm, hqueue⟩ := h
  cases c with
  | iterate n =>
      simp only [rounds]
      split <;> exact ⟨⟨hterm, by simp⟩, rfl, rfl⟩
  | propagate n ids p =>
      cases ids with
      | nil =>
          simp only [rounds]
          split
          · exact ⟨⟨hterm, by simp⟩, rfl, rfl⟩
          · refine ⟨⟨hterm, ?_⟩, rfl, rfl⟩
            rintro _ _ _ ⟨⟩ hready
            -- a queue of pending tasks
            have hpending := (TaskGraph.mem_readyTasks.mp hready).2.1
            simp [hpending] at hterm
      | cons id ids =>
          simp only [rounds]
          split
          · next hfailed =>
              have hne : x ≠ id := by
                rintro rfl
                simp [(TaskGraph.dependencyFailed_iff.mp hfailed).1] at hterm
              refine ⟨⟨?_, by simp⟩, ?_, ?_⟩ <;> simp [TaskGraph.task_setState, hne, hterm]
          · exact ⟨⟨hterm, by simp⟩, rfl, rfl⟩
  | ready n ids p =>
      cases ids with
      | nil => cases p <;> exact ⟨⟨hterm, by simp [rounds]⟩, rfl, rfl⟩
      | cons id ids =>
          -- another task is dispatched
          have hnot := hqueue n (id :: ids) p rfl
          have hne := List.ne_of_not_mem_cons hnot
          obtain ⟨hstatus, houtputs⟩ :=
            g.finish_of_ne id hne (work id (g.task id).inputs)
          refine ⟨⟨?_, ?_⟩, hstatus, houtputs⟩
          · exact (congrArg TaskStatus.isTerminal hstatus).trans hterm
          · rintro _ _ _ ⟨⟩
            exact List.not_mem_of_not_mem_cons hnot
  | task n ids id phase => exact ⟨⟨hterm, hqueue⟩, rfl, rfl⟩
  | returned => exact ⟨⟨hterm, hqueue⟩, rfl, rfl⟩
  | threw error => exact ⟨⟨hterm, hqueue⟩, rfl, rfl⟩

theorem Ended.iterate {x : Uuid} {at_ : TaskGraph × Control} (h : Ended x at_) (work : Work)
    (m : Nat) : Ended x ((rounds work)^[m] at_) ∧
      ((rounds work)^[m] at_).1.status x = at_.1.status x ∧
      (((rounds work)^[m] at_).1.task x).outputs = (at_.1.task x).outputs := by
  induction m with
  | zero => exact ⟨h, rfl, rfl⟩
  | succ m ih =>
      obtain ⟨hended, hstatus, houtputs⟩ := ih
      rw [Function.iterate_succ_apply']
      obtain ⟨hended', hstatus', houtputs'⟩ := hended.step
      exact ⟨hended', hstatus'.trans hstatus, houtputs'.trans houtputs⟩

/-! ## What the tasks of a run end with

A run of the thread follows the rounds of the semantics: between dispatches it
stands where the rounds have come to, within a dispatch it is on its way through
the next one. The simulation is proved move by move; two runs with the same work
then end in the same graph. -/

/-- An executed task ends as `work` says. -/
def Control.Executes (work : Work) (g : TaskGraph) : Control → Prop
  | .task _ _ id (.storeOutput _) => work id (g.task id).inputs = .succeeded (g.task id).outputs
  | .task _ _ id (.markFailed false) => work id (g.task id).inputs = .failed
  | .task _ _ id .recordCancelled => work id (g.task id).inputs = .cancelled
  | _ => True

instance (work : Work) (g : TaskGraph) (c : Control) : Decidable (c.Executes work g) := by
  unfold Control.Executes
  split <;> infer_instance

/-- What is replayed for a task is what executing it produces. -/
def Control.Replays (work : Work) (g : TaskGraph) : Control → Prop
  | .task _ _ id (.cacheHit output) => work id (g.task id).inputs = .succeeded [output]
  | _ => True

/-- What a phase has made of the graph that the dispatch of its task began with. -/
def Phase.During (work : Work) (start : TaskGraph) (id : Uuid) (g : TaskGraph) : Phase → Prop
  | .dispatch => g.unattempted = start
  | .cacheHit _ | .submit | .await _ _ | .markFailed _ =>
      g.unattempted = start.setState id .running
  | .markPending => g.unattempted = start.setState id .failed
  | .storeOutput declared | .recordSucceeded declared | .threadOutputs declared =>
      declared = (start.task id).outputs ∧ ∃ outputs,
        work id (start.task id).inputs = .succeeded outputs ∧
          g.unattempted = (start.setOutputs id outputs).setState id .succeeded
  | .recordCancelled => work id (start.task id).inputs = .cancelled ∧
      g.unattempted = (start.setOutputs id []).setState id .cancelled

/-- The rounds come to a graph and a position. -/
def Reaches (work : Work) (g₀ : TaskGraph) (at_ : TaskGraph × Control) : Prop :=
  ∃ m, (rounds work)^[m] (g₀.unattempted, .iterate 0) = at_

/-- A run stands where the rounds have come, or in a dispatch that they do next. -/
def FollowsRounds (work : Work) (g₀ g : TaskGraph) : Control → Prop
  | .task n ids id phase => ∃ start p, Reaches work g₀ (start, .ready n (id :: ids) p) ∧
      start.status id = .pending ∧ phase.During work start id g
  | .threw _ => True
  | .iterate n => Reaches work g₀ (g.unattempted, .iterate n)
  | .propagate n ids p => Reaches work g₀ (g.unattempted, .propagate n ids p)
  | .ready n ids p => Reaches work g₀ (g.unattempted, .ready n ids p)
  | .returned => Reaches work g₀ (g.unattempted, .returned)

section follow

variable {work : Work} {g₀ g g' : TaskGraph} {c c' : Control} {label : Option Uuid}

theorem Reaches.step {at_ at' : TaskGraph × Control} (h : Reaches work g₀ at_)
    (hstep : rounds work at_ = at') : Reaches work g₀ at' := by
  obtain ⟨m, rfl⟩ := h
  refine ⟨m + 1, ?_⟩
  rw [Function.iterate_succ_apply', hstep]

theorem rounds_returned (m : Nat) : (rounds work)^[m] (g, .returned) = (g, .returned) :=
  Function.iterate_fixed rfl m

/-- The rounds go on from where they come to where they end. -/
theorem Reaches.until {at_ : TaskGraph × Control} (h : Reaches work g₀ at_)
    (hend : Reaches work g₀ (g, .returned)) : ∃ m, (rounds work)^[m] at_ = (g, .returned) := by
  obtain ⟨i, rfl⟩ := h
  obtain ⟨j, hj⟩ := hend
  rcases Nat.le_total i j with hij | hji
  · refine ⟨j - i, ?_⟩
    rw [← Function.iterate_add_apply, Nat.sub_add_cancel hij, hj]
  · refine ⟨0, ?_⟩
    rw [← Nat.sub_add_cancel hji, Function.iterate_add_apply, hj, rounds_returned]
    rfl

/-- The rounds end in one graph. -/
theorem Reaches.returned_unique (h : Reaches work g₀ (g, .returned))
    (h' : Reaches work g₀ (g', .returned)) : g = g' := by
  obtain ⟨m, hm⟩ := h.until h'
  rw [rounds_returned] at hm
  exact congrArg Prod.fst hm

/-- A dispatch that has ended. -/
theorem Reaches.finish {start : TaskGraph} {n : Nat} {id : Uuid} {ids : List Uuid} {p : Bool}
    (h : Reaches work g₀ (start, .ready n (id :: ids) p)) {ending : Ending}
    (hwork : work id (start.task id).inputs = ending) (hg : g.unattempted = start.finish id ending) :
    Reaches work g₀ (g.unattempted, .ready n ids true) := by
  apply h.step
  simp only [rounds]
  rw [hwork, hg]

/-- Inputs and outputs of the task that is being dispatched. -/
theorem TaskGraph.task_of_unattempted {start : TaskGraph} {id : Uuid} {state : TaskStatus}
    (h : g.unattempted = start.setState id state) :
    (g.task id).inputs = (start.task id).inputs ∧ (g.task id).outputs = (start.task id).outputs := by
  rw [← g.inputs_unattempted, ← g.outputs_unattempted, h, task_setState, if_pos rfl]
  exact ⟨rfl, rfl⟩

/-- The graph in which the task has been given outputs and a status. -/
theorem TaskGraph.unattempted_ended {start : TaskGraph} {id : Uuid}
    (h : g.unattempted = start.setState id .running) (outputs : List ArtifactRef)
    (state : TaskStatus) : ((g.setOutputs id outputs).setState id state).unattempted =
      (start.setOutputs id outputs).setState id state := by
  rw [unattempted_setState, unattempted_setOutputs, h, setOutputs_setState, setState_setState]

/-- One move of a run whose tasks end as `work` says. -/
theorem FollowsRounds.move (hm : Move g c g' c' label) (hu : Uncancelled g c)
    (h : FollowsRounds work g₀ g c) (hexec : c.Executes work g) (hexec' : c'.Executes work g')
    (hreplay : c.Replays work g) : FollowsRounds work g₀ g' c' := by
  cases hm with
  | enter hn => exact h.step (by simp [rounds, hn])
  | exhaust hn => exact h.step (by simp [rounds, hn])
  | propagate hfailed =>
      apply h.step
      simp [rounds, hfailed, TaskGraph.unattempted_setState]
  | pass hpass => exact h.step (by simp [rounds, hpass])
  | finish hall => exact h.step (by simp [rounds, hall])
  | snapshot hall => exact h.step (by simp [rounds, hall])
  | again => exact h.step (by simp [rounds])
  | stall | hitCancelled _ | dispatchCancelled _ | refuse _ => trivial
  | @miss n id ids p => exact ⟨_, p, h, hu id List.mem_cons_self, rfl⟩
  | @hit n id ids p output hpending =>
      exact ⟨_, p, h, hpending, g.unattempted_setState id .running⟩
  | @replay n id ids output _ =>
      obtain ⟨start, p, hreach, hpending, hg⟩ := h
      obtain ⟨hinputs, houtputs⟩ := TaskGraph.task_of_unattempted hg
      refine ⟨start, p, hreach, hpending, houtputs, [output], ?_, ?_⟩
      · rw [← hinputs]
        exact hreplay
      · exact TaskGraph.unattempted_ended hg [output] .succeeded
  | @dispatch n id ids _ =>
      obtain ⟨start, p, hreach, hpending, rfl⟩ := h
      exact ⟨_, p, hreach, hpending, g.unattempted_setState id .running⟩
  | submit _ => exact h
  | wait _ _ => exact h
  | @complete n id ids produced missed _ =>
      obtain ⟨start, p, hreach, hpending, hg⟩ := h
      obtain ⟨hinputs, houtputs⟩ := TaskGraph.task_of_unattempted hg
      refine ⟨start, p, hreach, hpending, houtputs, produced, ?_, ?_⟩
      · rw [← hinputs]
        simpa [Control.Executes, TaskGraph.task_setState, TaskGraph.task_setOutputs] using hexec'
      · exact TaskGraph.unattempted_ended hg produced .succeeded
  | @fail n id ids produced missed recoverable =>
      obtain ⟨start, p, hreach, hpending, hg⟩ := h
      refine ⟨start, p, hreach, hpending, ?_⟩
      exact (g.unattempted_countAttempt id).trans hg
  | @abandon n id ids produced missed _ =>
      obtain ⟨start, p, hreach, hpending, hg⟩ := h
      obtain ⟨hinputs, _⟩ := TaskGraph.task_of_unattempted hg
      refine ⟨start, p, hreach, hpending, ?_, ?_⟩
      · rw [← hinputs]
        simpa [Control.Executes, TaskGraph.task_setState, TaskGraph.task_setOutputs] using hexec'
      · exact TaskGraph.unattempted_ended hg [] .cancelled
  | stored | recorded => exact h
  | @thread n id ids declared =>
      obtain ⟨start, p, hreach, _, rfl, outputs, hwork, hg⟩ := h
      -- the round goes on once the task has threaded its outputs
      apply hreach.finish hwork
      have houtputs : (g.task id).outputs = outputs := by
        rw [← g.outputs_unattempted, hg, TaskGraph.task_setState, if_pos rfl,
          TaskGraph.task_setOutputs, if_pos rfl]
      rw [TaskGraph.unattempted_threadOutputsToDependents, hg, houtputs]
      rfl
  | @markFailed n id ids _ =>
      obtain ⟨start, p, hreach, hpending, hg⟩ := h
      refine ⟨start, p, hreach, hpending, ?_⟩
      show (g.setState id .failed).unattempted = _
      rw [TaskGraph.unattempted_setState, hg, TaskGraph.setState_setState]
  | @giveUp n id ids _ =>
      obtain ⟨start, p, hreach, _, hg⟩ := h
      obtain ⟨hinputs, _⟩ := TaskGraph.task_of_unattempted hg
      have hwork : work id (start.task id).inputs = .failed := by
        rw [← hinputs]
        exact hexec
      apply hreach.finish hwork
      rw [TaskGraph.unattempted_setState, hg, TaskGraph.setState_setState]
      rfl
  | @retry n id ids _ =>
      obtain ⟨start, p, hreach, hpending, hg⟩ := h
      refine ⟨start, p, hreach, hpending, ?_⟩
      show (g.setState id .pending).unattempted = _
      -- a retry gives back the graph that the task began in
      rw [TaskGraph.unattempted_setState, hg, TaskGraph.setState_setState,
        TaskGraph.setState_status hpending]
  | @recordedCancelled n id ids =>
      obtain ⟨start, p, hreach, _, hwork, hg⟩ := h
      exact hreach.finish hwork hg
  | idle _ => exact h

end follow

end SpatialPlatform.Engine
