import SpatialPlatform.Engine.Task.Graph
import SpatialPlatform.Engine.Workers.Handle

/-!
# What the scheduler reads off a graph and writes to it

The helpers of `engine/scheduler/scheduler.cpp` that work on the graph alone.
None of the writes touches the shape of the graph, and only `setState` touches a
status.
-/

namespace SpatialPlatform.Engine

open SpatialPlatform.Core

namespace TaskGraph

/-! ## What the loops read -/

/-- The status of a task. -/
def status (g : TaskGraph) (id : Uuid) : TaskStatus := (g.task id).state

/-- The test of `PropagateFailures`: a pending task with a dependency that ended
otherwise than succeeded. -/
def dependencyFailed (g : TaskGraph) (id : Uuid) : Bool :=
  g.status id = .pending &&
    (g.dependencies id).any fun dep => (g.status dep).isTerminal && g.status dep ≠ .succeeded

/-- The test of `ReadyTasks`. -/
def isReady (g : TaskGraph) (id : Uuid) : Bool :=
  g.status id = .pending && (g.dependencies id).all fun dep => g.status dep = .succeeded

/-- `ReadyTasks`. -/
def readyTasks (g : TaskGraph) : List Uuid := g.insertionOrder.filter g.isReady

/-- `AllTerminal`. -/
def allTerminal (g : TaskGraph) : Bool := g.insertionOrder.all fun id => (g.status id).isTerminal

/-- The request `DispatchAndAwait` builds for a task. -/
def request (g : TaskGraph) (pipelineHash : String) (id : Uuid) : TaskRequest where
  taskId := id
  taskType := (g.task id).definition.type
  inputRefs := (g.task id).inputs
  expectedOutputRefs := (g.task id).outputs
  configJson := (g.task id).configJson
  pipelineHash := pipelineHash
  workspace := "temp/" ++ formatUuid g.jobId ++ "/" ++ formatUuid id

/-! ## What the loops write

The four writes of the scheduler to a graph. The threading of outputs goes
through the dependents in the order of the map. -/

/-- `task.state = to`. -/
def setState (g : TaskGraph) (id : Uuid) (state : TaskStatus) : TaskGraph :=
  g.setTask { g.task id with state := state }

/-- `task.outputs = ...`. -/
def setOutputs (g : TaskGraph) (id : Uuid) (outputs : List ArtifactRef) : TaskGraph :=
  g.setTask { g.task id with outputs := outputs }

/-- `++t.metadata.attempts`. -/
def countAttempt (g : TaskGraph) (id : Uuid) : TaskGraph :=
  let metadata := (g.task id).metadata
  g.setTask { g.task id with metadata := { metadata with attempts := metadata.attempts + 1 } }

/-- `ThreadOutputsToDependents` for one dependent: declared refs give way to
produced ones position by position, then the produced refs still missing are
appended. -/
def threadInputs (declared produced inputs : List ArtifactRef) : List ArtifactRef :=
  let replaced := (declared.zip produced).foldl
    (fun refs pair => refs.map fun ref => if ref = pair.1 then pair.2 else ref) inputs
  produced.foldl (fun refs ref => if ref ∈ refs then refs else refs ++ [ref]) replaced

/-- `ThreadOutputsToDependents`. -/
def threadOutputsToDependents (g : TaskGraph) (id : Uuid) (declared produced : List ArtifactRef) :
    TaskGraph :=
  if produced.isEmpty then g
  else (g.dependents id).foldl
    (fun g dep => g.setTask
      { g.task dep with inputs := threadInputs declared produced (g.task dep).inputs }) g

section reads

variable {g : TaskGraph} {id : Uuid}

theorem dependencyFailed_iff : g.dependencyFailed id = true ↔ g.status id = .pending ∧
    ∃ d ∈ g.dependencies id, (g.status d).isTerminal = true ∧ g.status d ≠ .succeeded := by
  simp [dependencyFailed]

theorem mem_readyTasks : id ∈ g.readyTasks ↔ id ∈ g.insertionOrder ∧ g.status id = .pending ∧
    ∀ d ∈ g.dependencies id, g.status d = .succeeded := by
  simp [readyTasks, isReady]

theorem nodup_readyTasks (g : TaskGraph) : g.readyTasks.Nodup := g.nodup_order.filter _

theorem allTerminal_iff :
    g.allTerminal = true ↔ ∀ id ∈ g.insertionOrder, (g.status id).isTerminal = true := by
  simp [allTerminal]

end reads

/-! ## What the writes leave alone

One equation for each write and each part of a task. The threading of outputs is
a loop over the dependents, and an induction over them. -/

variable (g : TaskGraph) (id : Uuid)

@[simp] theorem toTaskShape_setState (state : TaskStatus) :
    (g.setState id state).toTaskShape = g.toTaskShape := rfl

@[simp] theorem toTaskShape_setOutputs (outputs : List ArtifactRef) :
    (g.setOutputs id outputs).toTaskShape = g.toTaskShape := rfl

@[simp] theorem toTaskShape_countAttempt : (g.countAttempt id).toTaskShape = g.toTaskShape := rfl

theorem task_setState (state : TaskStatus) (x : Uuid) :
    (g.setState id state).task x =
      if x = id then { g.task id with state := state } else g.task x := by
  rw [setState, setTask_task]
  simp only [id_task]

theorem task_setOutputs (outputs : List ArtifactRef) (x : Uuid) :
    (g.setOutputs id outputs).task x =
      if x = id then { g.task id with outputs := outputs } else g.task x := by
  rw [setOutputs, setTask_task]
  simp only [id_task]

theorem task_countAttempt (x : Uuid) :
    (g.countAttempt id).task x =
      if x = id then
        { g.task id with metadata := { (g.task id).metadata with
            attempts := (g.task id).metadata.attempts + 1 } }
      else g.task x := by
  rw [countAttempt, setTask_task]
  simp only [id_task]

@[simp] theorem status_setState (state : TaskStatus) (x : Uuid) :
    (g.setState id state).status x = if x = id then state else g.status x := by
  rw [status, task_setState]
  split <;> rfl

@[simp] theorem metadata_setState (state : TaskStatus) (x : Uuid) :
    ((g.setState id state).task x).metadata = (g.task x).metadata := by
  rw [task_setState]
  split
  · next h => rw [h]
  · rfl

@[simp] theorem status_setOutputs (outputs : List ArtifactRef) (x : Uuid) :
    (g.setOutputs id outputs).status x = g.status x := by
  rw [status, task_setOutputs]
  split
  · next h => rw [h]; rfl
  · rfl

@[simp] theorem metadata_setOutputs (outputs : List ArtifactRef) (x : Uuid) :
    ((g.setOutputs id outputs).task x).metadata = (g.task x).metadata := by
  rw [task_setOutputs]
  split
  · next h => rw [h]
  · rfl

@[simp] theorem status_countAttempt (x : Uuid) : (g.countAttempt id).status x = g.status x := by
  rw [status, task_countAttempt]
  split
  · next h => rw [h]; rfl
  · rfl

/-- One dependent after another has its inputs rewritten; each is met once. -/
theorem foldl_threadInputs (declared produced : List ArtifactRef) (l : List Uuid) (hl : l.Nodup)
    (g : TaskGraph) :
    let g' := l.foldl (fun g dep => g.setTask
      { g.task dep with inputs := threadInputs declared produced (g.task dep).inputs }) g
    g'.toTaskShape = g.toTaskShape ∧ ∀ x, g'.task x =
      if x ∈ l then { g.task x with inputs := threadInputs declared produced (g.task x).inputs }
      else g.task x := by
  induction l generalizing g with
  | nil => simp
  | cons a l ih =>
      obtain ⟨hal, hnd⟩ := List.nodup_cons.mp hl
      obtain ⟨hshape, htask⟩ := ih hnd (g.setTask
        { g.task a with inputs := threadInputs declared produced (g.task a).inputs })
      refine ⟨hshape, fun x => ?_⟩
      rw [List.foldl_cons, htask x, setTask_task]
      simp only [id_task]
      rcases eq_or_ne x a with rfl | hxa
      · simp [hal]
      · simp [hxa]

@[simp] theorem toTaskShape_threadOutputsToDependents (declared produced : List ArtifactRef) :
    (g.threadOutputsToDependents id declared produced).toTaskShape = g.toTaskShape := by
  unfold threadOutputsToDependents
  split
  · rfl
  · exact (foldl_threadInputs declared produced _ (g.nodup_dependents id) g).1

/-- Only the inputs of the dependents change, and only when something was produced. -/
theorem task_threadOutputsToDependents (declared produced : List ArtifactRef) (x : Uuid) :
    (g.threadOutputsToDependents id declared produced).task x =
      if produced ≠ [] ∧ id ∈ g.dependencies x then
        { g.task x with inputs := threadInputs declared produced (g.task x).inputs }
      else g.task x := by
  unfold threadOutputsToDependents
  split
  · next h => simp [List.isEmpty_iff.mp h]
  · next h =>
      have hne : produced ≠ [] := fun hnil => h (List.isEmpty_iff.mpr hnil)
      rw [(foldl_threadInputs declared produced _ (g.nodup_dependents id) g).2 x]
      simp only [g.mem_dependents, hne, ne_eq, not_false_eq_true, true_and]

@[simp] theorem status_threadOutputsToDependents (declared produced : List ArtifactRef)
    (x : Uuid) : (g.threadOutputsToDependents id declared produced).status x = g.status x := by
  rw [status, task_threadOutputsToDependents]
  split <;> rfl

@[simp] theorem metadata_threadOutputsToDependents (declared produced : List ArtifactRef)
    (x : Uuid) :
    ((g.threadOutputsToDependents id declared produced).task x).metadata =
      (g.task x).metadata := by
  rw [task_threadOutputsToDependents]
  split <;> rfl

end TaskGraph

end SpatialPlatform.Engine
