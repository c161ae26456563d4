import Mathlib.Logic.Function.Basic
import Mathlib.Data.List.Nodup
import SpatialPlatform.Engine.Task.Types

/-!
# The task graph

`engine/task/task_graph.{h,cpp}`. A `TaskShape` carries what the two builders,
`addTask` and `addDependency`, maintain: every edge joins two tasks of the
graph, the two adjacency maps are inverse to each other, and nothing is listed
twice. A `TaskGraph` adds the tasks; the scheduler only ever rewrites those in
place (`setTask`), which leaves the shape alone.

The C++ maps are functions here; a task is present exactly when its id is in
`insertionOrder`.
-/

namespace SpatialPlatform.Engine

open SpatialPlatform.Core

/-- Job, tasks by id and edges: the part of a graph that stays fixed while its tasks run. -/
structure TaskShape where
  jobId : Uuid
  dependencies : Uuid → List Uuid
  dependents : Uuid → List Uuid
  insertionOrder : List Uuid
  nodup_order : insertionOrder.Nodup
  mem_of_dependency : ∀ t d, d ∈ dependencies t → t ∈ insertionOrder ∧ d ∈ insertionOrder
  mem_dependents : ∀ t d, t ∈ dependents d ↔ d ∈ dependencies t
  nodup_dependencies : ∀ t, (dependencies t).Nodup
  nodup_dependents : ∀ d, (dependents d).Nodup

structure TaskGraph extends TaskShape where
  task : Uuid → TaskInstance
  id_task : ∀ id, (task id).id = id

namespace TaskGraph

attribute [simp] id_task

/-- The constructor: an empty graph of the given job. -/
def empty (jobId : Uuid) : TaskGraph where
  jobId := jobId
  task id := { id := id, definition := { type := "" } }
  dependencies _ := []
  dependents _ := []
  insertionOrder := []
  id_task _ := rfl
  nodup_order := List.nodup_nil
  mem_of_dependency _ _ h := absurd h List.not_mem_nil
  mem_dependents _ _ := by simp
  nodup_dependencies _ := List.nodup_nil
  nodup_dependents _ := List.nodup_nil

/-- The error of `Require`, `MutableTask` and their callers. -/
def unknownTask (id : Uuid) : ProjectError :=
  ⟨.schedTaskUnknown, "unknown task " ++ formatUuid id⟩

/-- `GetTask`. -/
def getTask (g : TaskGraph) (id : Uuid) : Except ProjectError TaskInstance :=
  if id ∈ g.insertionOrder then .ok (g.task id) else .error (unknownTask id)

/-- Write a task back under its own id: what a caller of `MutableTask` does through the reference. -/
def setTask (g : TaskGraph) (t : TaskInstance) : TaskGraph :=
  { g with
    task := Function.update g.task t.id t
    id_task := by
      intro id
      by_cases h : id = t.id
      · subst h; simp
      · simp [Function.update_of_ne h] }

section setTask

variable (g : TaskGraph) (t : TaskInstance)

@[simp] theorem setTask_toTaskShape : (g.setTask t).toTaskShape = g.toTaskShape := rfl

theorem setTask_task (id : Uuid) :
    (g.setTask t).task id = if id = t.id then t else g.task id := by
  simp only [setTask, Function.update_apply]

@[simp] theorem setTask_task_self : (g.setTask t).task t.id = t := by simp [setTask_task]

end setTask

/-! ## Building a graph

A graph is built by calls that check their arguments, and so has no other edges
than those between its tasks. -/

/-- `AddTask`. `fresh` is what `GenerateUuid` returns when the task has no id yet. -/
def addTask (g : TaskGraph) (fresh : Uuid) (task : TaskInstance) :
    Except ProjectError (TaskGraph × Uuid) :=
  let t := if task.id.isNil then { task with id := fresh } else task
  if h : t.id ∈ g.insertionOrder then
    .error ⟨.schedTaskUnknown, "duplicate task id in graph: " ++ formatUuid t.id⟩
  else
    .ok ({ g.setTask t with
        insertionOrder := g.insertionOrder ++ [t.id]
        nodup_order := by
          exact List.Nodup.append g.nodup_order (List.nodup_singleton _)
            (List.disjoint_singleton.mpr h)
        mem_of_dependency := by
          intro a d hd
          have := g.mem_of_dependency a d hd
          exact ⟨List.mem_append_left _ this.1, List.mem_append_left _ this.2⟩ }, t.id)

/-- `AddDependency`: an edge `dependencyId → taskId`; adding it twice changes nothing. -/
def addDependency (g : TaskGraph) (taskId dependencyId : Uuid) : Except ProjectError TaskGraph :=
  if ht : taskId ∈ g.insertionOrder then
    if hd : dependencyId ∈ g.insertionOrder then
      if hin : dependencyId ∈ g.dependencies taskId then .ok g
      else .ok
        { g with
          dependencies := Function.update g.dependencies taskId
            (g.dependencies taskId ++ [dependencyId])
          dependents := Function.update g.dependents dependencyId
            (g.dependents dependencyId ++ [taskId])
          mem_of_dependency := by
            intro t d h
            by_cases hta : t = taskId
            · subst hta
              simp only [Function.update_self, List.mem_append, List.mem_singleton] at h
              rcases h with h | rfl
              · exact g.mem_of_dependency t d h
              · exact ⟨ht, hd⟩
            · rw [Function.update_of_ne hta] at h
              exact g.mem_of_dependency t d h
          mem_dependents := by
            intro t d
            have := g.mem_dependents t d
            by_cases hta : t = taskId <;> by_cases hda : d = dependencyId <;> simp_all
          nodup_dependencies := by
            intro t
            by_cases hta : t = taskId
            · subst hta
              rw [Function.update_self]
              exact List.Nodup.append (g.nodup_dependencies t) (List.nodup_singleton _)
                (List.disjoint_singleton.mpr hin)
            · rw [Function.update_of_ne hta]
              exact g.nodup_dependencies t
          nodup_dependents := by
            intro d
            by_cases hda : d = dependencyId
            · subst hda
              rw [Function.update_self]
              exact List.Nodup.append (g.nodup_dependents d) (List.nodup_singleton _)
                (List.disjoint_singleton.mpr (mt (g.mem_dependents taskId d).mp hin))
            · rw [Function.update_of_ne hda]
              exact g.nodup_dependents d }
    else .error (unknownTask dependencyId)
  else .error (unknownTask taskId)

/-- Add tasks, then edges `(task, dependency)`, the way a graph is put together. -/
def build (jobId fresh : Uuid) (tasks : List TaskInstance) (edges : List (Uuid × Uuid)) :
    Except ProjectError TaskGraph := do
  let g ← tasks.foldlM (fun g task => Prod.fst <$> g.addTask fresh task) (empty jobId)
  edges.foldlM (fun g edge => g.addDependency edge.1 edge.2) g

end TaskGraph

/-! ## Topological order -/

namespace TaskShape

/-- One dependent of the task just taken from the queue: its in-degree falls,
and at zero it is queued. -/
def visitDependent (st : (Uuid → Int) × List Uuid) (dependent : Uuid) : (Uuid → Int) × List Uuid :=
  let degree := st.1 dependent - 1
  (Function.update st.1 dependent degree, if degree = 0 then st.2 ++ [dependent] else st.2)

/-- The `while` loop of `TopologicalOrder`. Every round moves one task from
`ready` to `order`, so as many rounds as the graph has tasks are enough. -/
def topologicalLoop (g : TaskShape) :
    Nat → (Uuid → Int) → List Uuid → List Uuid → List Uuid
  | 0, _, _, order => order
  | _ + 1, _, [], order => order
  | rounds + 1, inDegree, id :: ready, order =>
      let st := (g.dependents id).foldl visitDependent (inDegree, ready)
      topologicalLoop g rounds st.1 st.2 (order ++ [id])

/-- The in-degree map `TopologicalOrder` starts from. -/
def inDegree (g : TaskShape) (id : Uuid) : Int := (g.dependencies id).length

/-- `TopologicalOrder` (Kahn). -/
def topologicalOrder (g : TaskShape) : Except ProjectError (List Uuid) :=
  let ready := g.insertionOrder.filter fun id => g.inDegree id = 0
  let order := g.topologicalLoop g.insertionOrder.length g.inDegree ready []
  if order.length = g.insertionOrder.length then .ok order
  else .error ⟨.schedDagCycle, "task graph contains a cycle"⟩

end TaskShape

/-! ## Validation -/

namespace TaskGraph

/-- How many declared outputs among the dependencies of `id` are `ref`. -/
def producers (g : TaskGraph) (id : Uuid) (ref : ArtifactRef) : Nat :=
  ((g.dependencies id).map fun dep => (g.task dep).outputs.count ref).sum

/-- The type-match rule for one input of one task. -/
def checkInput (g : TaskGraph) (externalInputs : List ArtifactRef) (id : Uuid)
    (ref : ArtifactRef) : Except ProjectError Unit :=
  let count := g.producers id ref
  if 1 < count then
    .error ⟨.schedDagTypeMismatch, "input " ++ ref ++ " of task " ++ formatUuid id ++
      " is produced by " ++ toString count ++ " dependencies (exactly one required)"⟩
  else if count = 0 ∧ ref ∉ externalInputs then
    .error ⟨.schedDagTypeMismatch, "input " ++ ref ++ " of task " ++ formatUuid id ++
      " is not produced by any dependency and is not a declared external input"⟩
  else .ok ()

/-- The feasibility rule: some worker profile has room for the task. -/
def checkResources (g : TaskGraph) (workerPool : List ResourceProfile) (id : Uuid) :
    Except ProjectError Unit :=
  let definition := (g.task id).definition
  if workerPool.any fun profile => fits definition.requirements profile.capacity then .ok ()
  else .error ⟨.schedDagResourceInfeasible,
    "task " ++ formatUuid id ++ " (" ++ definition.type ++ ") requirements fit no worker profile"⟩

/-- `Validate`. -/
def validate (g : TaskGraph) (workerPool : List ResourceProfile)
    (externalInputs : List ArtifactRef) : Except ProjectError Unit := do
  let _ ← g.topologicalOrder
  forM g.insertionOrder fun id => forM (g.task id).inputs (g.checkInput externalInputs id)
  forM g.insertionOrder (g.checkResources workerPool)

end TaskGraph

end SpatialPlatform.Engine
