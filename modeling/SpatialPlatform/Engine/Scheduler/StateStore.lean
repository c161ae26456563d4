import SpatialPlatform.Engine.Task.Graph

/-!
# The persisted scheduler state

The tables of `schemas/database/migrations/0003_scheduler.sql` that
`engine/scheduler/scheduler_state_store.cpp` writes, and
`engine/execution/execution_record.h`. A row of `tasks` keeps the whole instance
(its `spec_json`), so loading a row gives back what was last written
(`findTask_upsertTask`). Rows stand in the order of their insertion.

Every operation here is one SQLite transaction, hence atomic with respect to a
crash. The failures of SQLite itself are outside the model, except for the one
that a caller can provoke: inserting a task whose id is already present.
-/

namespace SpatialPlatform.Engine

open SpatialPlatform.Core

/-- `ErrorRecord`. -/
structure ErrorRecord where
  code : String
  message : String
  recoverable : Bool
  deriving DecidableEq, Repr

/-- `ExecutionRecord`: one row of `task_runs`. -/
structure ExecutionRecord where
  taskId : Uuid
  attempt : Int
  workerId : Option Uuid
  inputs : List ArtifactRef
  outputs : List ArtifactRef
  terminalState : TaskStatus
  error : Option ErrorRecord
  deriving DecidableEq, Repr

/-- `CacheEntryRecord`: one row of `cache_entries`. -/
structure CacheEntryRecord where
  cacheKey : String
  artifactId : Uuid
  taskType : String
  producerVersion : String
  gitCommit : String
  configHash : String
  deriving DecidableEq, Repr

/-- One row of `tasks`. -/
structure TaskRow where
  jobId : Uuid
  task : TaskInstance
  deriving DecidableEq, Repr

structure SchedulerStateStore where
  tasks : List TaskRow := []
  dependencies : List (Uuid × Uuid) := []
  runs : List ExecutionRecord := []
  cacheEntries : String → Option CacheEntryRecord := fun _ => none

namespace SchedulerStateStore

/-- A row with this primary key exists. -/
def containsTask (store : SchedulerStateStore) (id : Uuid) : Bool :=
  store.tasks.any fun row => row.task.id = id

/-- `SaveGraph`: all tasks and edges, or nothing. -/
def saveGraph (store : SchedulerStateStore) (g : TaskGraph) :
    Except ProjectError SchedulerStateStore :=
  if g.insertionOrder.any store.containsTask then
    .error ⟨.schedPersistence,
      "cannot insert task row: UNIQUE constraint failed: tasks.task_id"⟩
  else
    .ok { store with
      tasks := store.tasks ++ g.insertionOrder.map fun id => ⟨g.jobId, g.task id⟩
      dependencies := store.dependencies ++
        g.insertionOrder.flatMap fun id => (g.dependencies id).map fun dep => (id, dep) }

/-- `UpsertTask`: insert, or overwrite the row of the same id (its job stays as it is). -/
def upsertTask (store : SchedulerStateStore) (jobId : Uuid) (t : TaskInstance) :
    SchedulerStateStore :=
  if store.containsTask t.id then
    { store with
      tasks := store.tasks.map fun row => if row.task.id = t.id then { row with task := t } else row }
  else { store with tasks := store.tasks ++ [⟨jobId, t⟩] }

/-- `RecordRun`. -/
def recordRun (store : SchedulerStateStore) (record : ExecutionRecord) : SchedulerStateStore :=
  { store with runs := store.runs ++ [record] }

/-- `UpsertCacheEntry`. -/
def upsertCacheEntry (store : SchedulerStateStore) (entry : CacheEntryRecord) :
    SchedulerStateStore :=
  { store with cacheEntries := Function.update store.cacheEntries entry.cacheKey (some entry) }

/-- `DeleteCacheEntry`. -/
def deleteCacheEntry (store : SchedulerStateStore) (cacheKey : String) : SchedulerStateStore :=
  { store with cacheEntries := Function.update store.cacheEntries cacheKey none }

/-- `LoadTasks`. -/
def loadTasks (store : SchedulerStateStore) (jobId : Uuid) : List TaskInstance :=
  (store.tasks.filter fun row => row.jobId = jobId).map TaskRow.task

/-- `LoadDependencies`: pairs of a task of the job and one of its dependencies. -/
def loadDependencies (store : SchedulerStateStore) (jobId : Uuid) : List (Uuid × Uuid) :=
  store.dependencies.filter fun edge =>
    store.tasks.any fun row => row.task.id = edge.1 && row.jobId = jobId

/-- `FindTask`. -/
def findTask (store : SchedulerStateStore) (id : Uuid) : Option TaskInstance :=
  (store.tasks.find? fun row => row.task.id = id).map TaskRow.task

/-- A task that is looked up is the one that was written last under its id. -/
theorem findTask_upsertTask (store : SchedulerStateStore) (jobId : Uuid) (t : TaskInstance) (id : Uuid) :
    (store.upsertTask jobId t).findTask id = if id = t.id then some t else store.findTask id := by
  unfold upsertTask findTask
  split
  · next hcontains =>
      -- the ids of the rows stay as they are
      have hids : ((fun row : TaskRow => decide (row.task.id = id)) ∘ fun row =>
          if row.task.id = t.id then { row with task := t } else row) =
            fun row => decide (row.task.id = id) := by
        funext row
        by_cases hrow : row.task.id = t.id <;> simp [hrow]
      rw [List.find?_map, hids]
      cases hfind : store.tasks.find? fun row => row.task.id = id with
      | none =>
          obtain ⟨row, hmem, hrow⟩ := List.any_eq_true.mp hcontains
          have hne := List.find?_eq_none.mp hfind row hmem
          rw [if_neg]
          · rfl
          · rintro rfl
            exact hne hrow
      | some row =>
          have hrow : row.task.id = id := by simpa using List.find?_some hfind
          by_cases hid : id = t.id <;> simp [hrow, hid]
  · next hnew =>
      by_cases hid : id = t.id
      · subst hid
        have hnone : store.tasks.find? (fun row => decide (row.task.id = t.id)) = none :=
          List.find?_eq_none.mpr fun row hmem hrow => hnew (List.any_eq_true.mpr ⟨row, hmem, hrow⟩)
        simp [List.find?_append, hnone]
      · simp [List.find?_append, hid, Ne.symm hid]

@[simp] theorem recordRun_tasks (store : SchedulerStateStore) (record : ExecutionRecord) :
    (store.recordRun record).tasks = store.tasks := rfl

@[simp] theorem upsertCacheEntry_tasks (store : SchedulerStateStore) (entry : CacheEntryRecord) :
    (store.upsertCacheEntry entry).tasks = store.tasks := rfl

@[simp] theorem deleteCacheEntry_tasks (store : SchedulerStateStore) (key : String) :
    (store.deleteCacheEntry key).tasks = store.tasks := rfl

end SchedulerStateStore

end SpatialPlatform.Engine
