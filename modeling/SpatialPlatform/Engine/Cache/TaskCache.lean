import Mathlib.Data.List.Sort
import Mathlib.Data.String.Basic
import SpatialPlatform.Engine.Scheduler.StateStore

/-!
# The task cache

`engine/cache/task_cache.{h,cpp}`. The cache entries live in the scheduler's
tables; of the artifact store the cache reads the manifests and the index by
content hash, which other writers change meanwhile, so both come in as an
`ArtifactIndex`. SHA-256 is a parameter of the cache.
-/

namespace SpatialPlatform.Engine

open SpatialPlatform.Core

/-- What the cache sees of the artifact store: the content hash in the manifest
of an artifact (`HasManifest`, `ReadManifest`), and the artifact registered for
a content hash (`FindArtifactByHash`). -/
structure ArtifactIndex where
  manifestHash : Uuid → Option ArtifactRef := fun _ => none
  artifactByHash : ArtifactRef → Option Uuid := fun _ => none

structure TaskCache where
  sha256Hex : String → String
  producerVersion : String
  engineGitCommit : String

namespace TaskCache

/-- The bytes `ComputeKey` hashes: type, sorted inputs, configuration hash,
producer version and commit, each part but the last followed by a newline. -/
def keyPreimage (taskType : String) (inputs : List ArtifactRef) (configHash producerVersion
    engineGitCommit : String) : String :=
  let sorted := inputs.insertionSort (· ≤ ·)
  let joined := String.join (sorted.map (· ++ "\n"))
  taskType ++ "\n" ++ joined ++ configHash ++ "\n" ++ producerVersion ++ "\n" ++ engineGitCommit

variable (cache : TaskCache)

/-- `ComputeKey`. -/
def computeKey (taskType : String) (inputs : List ArtifactRef) (configHash : String) : String :=
  cache.sha256Hex
    (keyPreimage taskType inputs configHash cache.producerVersion cache.engineGitCommit)

/-- `ConfigHash`. -/
def configHash (task : TaskInstance) : String := cache.sha256Hex task.configJson

/-- The key of a task, as `Lookup` and `Store` form it. -/
def taskKey (task : TaskInstance) : String :=
  cache.computeKey task.definition.type task.inputs (cache.configHash task)

/-- `IsCacheable`. -/
def isCacheable (task : TaskInstance) : Bool :=
  task.metadata.deterministic && task.metadata.cache = .cacheable

/-- `Lookup`. An entry whose manifest is gone is a miss, and is dropped. -/
def lookup (artifacts : ArtifactIndex) (store : SchedulerStateStore) (task : TaskInstance) :
    Option CacheEntryRecord × SchedulerStateStore :=
  if isCacheable task then
    match store.cacheEntries (cache.taskKey task) with
    | none => (none, store)
    | some entry =>
        if (artifacts.manifestHash entry.artifactId).isSome then (some entry, store)
        else (none, store.deleteCacheEntry (cache.taskKey task))
  else (none, store)

/-- `ResolveOutput`. -/
def resolveOutput (artifacts : ArtifactIndex) (entry : CacheEntryRecord) : Option ArtifactRef :=
  artifacts.manifestHash entry.artifactId

/-- `Store`. -/
def store (stateStore : SchedulerStateStore) (task : TaskInstance) (artifactId : Uuid) :
    SchedulerStateStore :=
  if isCacheable task then
    stateStore.upsertCacheEntry
      { cacheKey := cache.taskKey task
        artifactId := artifactId
        taskType := task.definition.type
        producerVersion := cache.producerVersion
        gitCommit := cache.engineGitCommit
        configHash := cache.configHash task }
  else stateStore

/-- `StoreOutput`: outputs that were never registered in the artifact store are not cached. -/
def storeOutput (artifacts : ArtifactIndex) (stateStore : SchedulerStateStore)
    (task : TaskInstance) (outputRef : ArtifactRef) : SchedulerStateStore :=
  if isCacheable task then
    match artifacts.artifactByHash outputRef with
    | none => stateStore
    | some artifactId => cache.store stateStore task artifactId
  else stateStore

/-! ## What the cache leaves alone

The cache has a table of its own. -/

variable (artifacts : ArtifactIndex) (stateStore : SchedulerStateStore) (task : TaskInstance)

@[simp] theorem lookup_tasks : (cache.lookup artifacts stateStore task).2.tasks =
    stateStore.tasks := by
  unfold lookup
  split
  · split
    · rfl
    · split <;> rfl
  · rfl

@[simp] theorem store_tasks (artifactId : Uuid) :
    (cache.store stateStore task artifactId).tasks = stateStore.tasks := by
  unfold store
  split <;> rfl

@[simp] theorem storeOutput_tasks (outputRef : ArtifactRef) :
    (cache.storeOutput artifacts stateStore task outputRef).tasks = stateStore.tasks := by
  unfold storeOutput
  split
  · split
    · rfl
    · next artifactId _ => exact cache.store_tasks stateStore task artifactId
  · rfl

@[simp] theorem lookup_runs : (cache.lookup artifacts stateStore task).2.runs =
    stateStore.runs := by
  unfold lookup
  split
  · split
    · rfl
    · split <;> rfl
  · rfl

@[simp] theorem storeOutput_runs (outputRef : ArtifactRef) :
    (cache.storeOutput artifacts stateStore task outputRef).runs = stateStore.runs := by
  unfold storeOutput store
  split
  · split
    · rfl
    · rfl
  · rfl

/-- A task that is not cacheable is never served. -/
theorem lookup_of_not_cacheable (h : isCacheable task = false) :
    cache.lookup artifacts stateStore task = (none, stateStore) := by
  simp [lookup, h]

end TaskCache

end SpatialPlatform.Engine
