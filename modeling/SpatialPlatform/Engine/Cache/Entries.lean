import SpatialPlatform.Engine.Cache.TaskCache
import SpatialPlatform.Engine.Scheduler.Rounds

/-!
# Where cache entries come from

A completed task puts its first output into the cache (`StoreOutput`), and
`TryCacheHit` replays what it finds there. Over every run that starts with an
empty cache, an entry is the first output of an execution with its key
(`states_stocked`), and so is what is about to be replayed. What an execution
has produced beyond its first output is not in the cache.
-/

namespace SpatialPlatform.Engine

open SpatialPlatform.Core

/-! ## What stays as it is in a task

The scheduler writes the state, the inputs, the outputs and the attempts of a
task; the rest stays, and with the inputs it determines the key. -/

/-- The task without what the scheduler writes. -/
def TaskInstance.spec (t : TaskInstance) : TaskInstance :=
  { t with
    state := .pending
    inputs := []
    outputs := []
    metadata := { t.metadata with attempts := 0 } }

namespace TaskGraph

variable (g : TaskGraph) (id x : Uuid)

@[simp] theorem spec_setState (state : TaskStatus) :
    ((g.setState id state).task x).spec = (g.task x).spec := by
  rw [task_setState]
  split
  · next h => rw [h]; rfl
  · rfl

@[simp] theorem spec_setOutputs (outputs : List ArtifactRef) :
    ((g.setOutputs id outputs).task x).spec = (g.task x).spec := by
  rw [task_setOutputs]
  split
  · next h => rw [h]; rfl
  · rfl

@[simp] theorem spec_countAttempt : ((g.countAttempt id).task x).spec = (g.task x).spec := by
  rw [task_countAttempt]
  split
  · next h => rw [h]; rfl
  · rfl

@[simp] theorem spec_threadOutputsToDependents (declared produced : List ArtifactRef) :
    ((g.threadOutputsToDependents id declared produced).task x).spec = (g.task x).spec := by
  rw [task_threadOutputsToDependents]
  split <;> rfl

end TaskGraph

theorem Move.spec {g g' : TaskGraph} {c c' : Control} {submitted : Option Uuid}
    (h : Move g c g' c' submitted) (x : Uuid) : (g'.task x).spec = (g.task x).spec := by
  cases h <;> simp

/-- The task as it is given to the worker with these inputs. -/
def TaskGraph.given (g : TaskGraph) (x : Uuid) (inputs : List ArtifactRef) : TaskInstance :=
  { g.task x with inputs := inputs }

namespace TaskCache

variable {cache : TaskCache} {t t' : TaskInstance}

theorem isCacheable_of_spec (h : t.spec = t'.spec) : isCacheable t = isCacheable t' := by
  have hdeterministic : t.metadata.deterministic = t'.metadata.deterministic :=
    congrArg (·.metadata.deterministic) h
  have hcache : t.metadata.cache = t'.metadata.cache := congrArg (·.metadata.cache) h
  rw [isCacheable, isCacheable, hdeterministic, hcache]

theorem taskKey_of_spec (h : t.spec = t'.spec) (hinputs : t.inputs = t'.inputs) :
    cache.taskKey t = cache.taskKey t' := by
  have htype : t.definition.type = t'.definition.type := congrArg (·.definition.type) h
  have hconfig : t.configJson = t'.configJson := congrArg (·.configJson) h
  rw [taskKey, taskKey, configHash, configHash, htype, hconfig, hinputs]

/-- A cacheable task ends alike wherever its key is the same. -/
def Determines (cache : TaskCache) (g : TaskGraph) (work : Work) : Prop :=
  ∀ x ∈ g.insertionOrder, ∀ x' ∈ g.insertionOrder, ∀ inputs inputs',
    isCacheable (g.task x) → isCacheable (g.task x') →
      cache.taskKey (g.given x inputs) = cache.taskKey (g.given x' inputs') →
        work x inputs = work x' inputs'

/-- An execution of a cacheable task with this key produces `output` first. -/
def Produces (cache : TaskCache) (g : TaskGraph) (work : Work) (key : String)
    (output : ArtifactRef) : Prop :=
  ∃ x ∈ g.insertionOrder, ∃ inputs rest, isCacheable (g.task x) ∧
    cache.taskKey (g.given x inputs) = key ∧ work x inputs = .succeeded (output :: rest)

end TaskCache

/-- The artifact store knows each artifact by the content hash that it has been registered with. -/
structure ArtifactIndex.Names (artifacts : ArtifactIndex) (hashOf : Uuid → ArtifactRef) :
    Prop where
  manifest : ∀ {artifactId hash}, artifacts.manifestHash artifactId = some hash →
    hashOf artifactId = hash
  index : ∀ {hash artifactId}, artifacts.artifactByHash hash = some artifactId →
    hashOf artifactId = hash

/-! ## What a step does with the cache

Each function of the scheduler and what it adds to the cache: only `StoreOutput`
adds an entry, under the key that the task has by then. -/

namespace SchedulerStateStore

@[simp] theorem cacheEntries_upsertTask (store : SchedulerStateStore) (jobId : Uuid)
    (t : TaskInstance) : (store.upsertTask jobId t).cacheEntries = store.cacheEntries := by
  unfold upsertTask
  split <;> rfl

theorem cacheEntries_of_saveGraph {store store' : SchedulerStateStore} {g : TaskGraph}
    (h : store.saveGraph g = .ok store') : store'.cacheEntries = store.cacheEntries := by
  unfold saveGraph at h
  split at h
  · cases h
  · cases h
    rfl

theorem mem_of_deleteCacheEntry {store : SchedulerStateStore} {dropped key : String}
    {entry : CacheEntryRecord} (h : (store.deleteCacheEntry dropped).cacheEntries key = some entry) :
    store.cacheEntries key = some entry := by
  simp only [deleteCacheEntry, Function.update_apply] at h
  split at h
  · cases h
  · exact h

end SchedulerStateStore

namespace TaskCache

variable {cache : TaskCache} {artifacts : ArtifactIndex} {stateStore : SchedulerStateStore}
  {task : TaskInstance} {key : String} {entry : CacheEntryRecord}

theorem mem_of_lookup
    (h : (cache.lookup artifacts stateStore task).2.cacheEntries key = some entry) :
    stateStore.cacheEntries key = some entry := by
  unfold lookup at h
  split at h
  · split at h
    · exact h
    · split at h
      · exact h
      · exact SchedulerStateStore.mem_of_deleteCacheEntry h
  · exact h

/-- A hit is an entry with the key of the task. -/
theorem lookup_hit {stateStore' : SchedulerStateStore}
    (h : cache.lookup artifacts stateStore task = (some entry, stateStore')) :
    isCacheable task ∧ stateStore.cacheEntries (cache.taskKey task) = some entry := by
  unfold lookup at h
  split at h
  next hcacheable =>
    split at h
    · cases h
    · next found hfound =>
        split at h
        · cases h
          exact ⟨hcacheable, hfound⟩
        · cases h
  next => cases h

/-- The entry of an output is added under the key of its task. -/
theorem mem_of_storeOutput {output : ArtifactRef}
    (h : (cache.storeOutput artifacts stateStore task output).cacheEntries key = some entry) :
    stateStore.cacheEntries key = some entry ∨
      isCacheable task ∧ cache.taskKey task = key ∧
        artifacts.artifactByHash output = some entry.artifactId := by
  unfold storeOutput at h
  split at h
  next hcacheable =>
    split at h
    · exact .inl h
    · next artifactId hindex =>
        simp only [store, hcacheable, if_true, SchedulerStateStore.upsertCacheEntry,
          Function.update_apply] at h
        split at h
        · next hkey =>
            obtain rfl := Option.some.inj h
            exact .inr ⟨hcacheable, hkey.symm, hindex⟩
        · exact .inl h
  next => exact .inl h

end TaskCache

theorem SchedulerState.mark_cacheEntries {σ : Type} (s : SchedulerState σ) (id : Uuid)
    (target : TaskStatus) (next : Control) :
    (s.mark id target next).store.cacheEntries = s.store.cacheEntries := by
  unfold mark
  split
  · rfl
  · exact SchedulerStateStore.cacheEntries_upsertTask _ _ _

theorem SchedulerState.mark_inputs {σ : Type} (s : SchedulerState σ) (id : Uuid)
    (target : TaskStatus) (next : Control) (x : Uuid) :
    ((s.mark id target next).graph.task x).inputs = (s.graph.task x).inputs := by
  unfold mark
  split
  · rfl
  · show ((s.graph.setState id _).task x).inputs = _
    rw [TaskGraph.task_setState]
    split
    · next h => rw [h]
    · rfl

/-- A `Mark` that does not throw goes on as told. -/
theorem SchedulerState.eq_of_mark_control {σ : Type} {s : SchedulerState σ} {id : Uuid}
    {target : TaskStatus} {next : Control} {n : Nat} {ids : List Uuid} {x : Uuid} {phase : Phase}
    (h : (s.mark id target next).control = .task n ids x phase) : next = .task n ids x phase := by
  rcases s.mark_control id target next with hnext | ⟨error, hthrew⟩
  · exact hnext.symm.trans h
  · exact (nomatch hthrew.symm.trans h)

namespace Scheduler

variable {σ ι : Type} {sched : Scheduler σ ι} {input : StepInput ι} {s : SchedulerState σ}

theorem awaitEvent_cacheEntries {n : Nat} {ids : List Uuid} {id : Uuid}
    {produced : List ArtifactRef} {missed : Nat} :
    (sched.awaitEvent input s n ids id produced missed).store.cacheEntries =
      s.store.cacheEntries := by
  unfold awaitEvent
  split
  · split <;> rfl
  · next event executor _ =>
      split
      · cases event.kind with
        | completed => exact SchedulerState.mark_cacheEntries _ _ _ _
        | cancelled => exact SchedulerState.mark_cacheEntries _ _ _ _
        | artifactProduced _ | failed _ _ _ | progress _ | log _ | heartbeat => rfl
      · rfl

theorem tryCacheHit_cacheEntries {n : Nat} {ids : List Uuid} {id : Uuid} {key : String}
    {entry : CacheEntryRecord}
    (h : (sched.tryCacheHit input s n ids id).store.cacheEntries key = some entry) :
    s.store.cacheEntries key = some entry := by
  suffices hfound : (sched.cache.lookup input.artifacts s.store
      (s.graph.task id)).2.cacheEntries key = some entry from TaskCache.mem_of_lookup hfound
  unfold tryCacheHit at h
  split at h
  · next store hlookup => rwa [hlookup]
  · next found store hlookup =>
      rw [hlookup]
      split at h
      · exact SchedulerStateStore.mem_of_deleteCacheEntry h
      · rwa [SchedulerState.mark_cacheEntries] at h

/-- Only `StoreOutput` adds an entry. -/
theorem advance_cacheEntries {key : String} {entry : CacheEntryRecord}
    (h : (sched.advance input s).store.cacheEntries key = some entry) :
    s.store.cacheEntries key = some entry ∨
      ∃ n ids x declared output rest, s.control = .task n ids x (.storeOutput declared) ∧
        (s.graph.task x).outputs = output :: rest ∧ TaskCache.isCacheable (s.graph.task x) ∧
          sched.cache.taskKey (s.graph.task x) = key ∧
            input.artifacts.artifactByHash output = some entry.artifactId := by
  unfold advance at h
  split at h
  · left
    split at h <;> exact h
  · left
    split at h
    · rwa [SchedulerState.mark_cacheEntries] at h
    · exact h
  · left
    split at h <;> exact h
  · exact .inl (tryCacheHit_cacheEntries h)
  · left
    split at h <;> exact h
  · next n ids id phase hcontrol =>
      cases phase with
      | storeOutput declared =>
          simp only [dispatchAndAwait] at h
          split at h
          · exact .inl h
          · next output rest houtputs =>
              -- the one phase that writes an entry
              refine (TaskCache.mem_of_storeOutput h).imp_right ?_
              rintro ⟨hcacheable, hkey, hindex⟩
              exact ⟨n, ids, id, declared, output, rest, hcontrol, houtputs, hcacheable, hkey,
                hindex⟩
      | await produced missed =>
          left
          rwa [dispatchAndAwait, awaitEvent_cacheEntries] at h
      | submit =>
          left
          simp only [dispatchAndAwait] at h
          split at h <;> exact h
      | dispatch =>
          left
          simp only [dispatchAndAwait] at h
          split at h
          · exact h
          · rwa [SchedulerState.mark_cacheEntries] at h
      | markFailed retryable =>
          left
          cases retryable <;>
            rwa [dispatchAndAwait, SchedulerState.mark_cacheEntries] at h
      | cacheHit _ | markPending =>
          left
          rwa [dispatchAndAwait, SchedulerState.mark_cacheEntries] at h
      | recordSucceeded _ | threadOutputs _ | recordCancelled => exact .inl h
  · exact .inl h
  · exact .inl h

theorem tryCacheHit_inputs {n : Nat} {ids : List Uuid} {id : Uuid} (x : Uuid) :
    ((sched.tryCacheHit input s n ids id).graph.task x).inputs = (s.graph.task x).inputs := by
  unfold tryCacheHit
  split
  · rfl
  · split
    · rfl
    · exact SchedulerState.mark_inputs _ _ _ _ _

theorem tryCacheHit_cacheHit {n m : Nat} {ids rest : List Uuid} {id x : Uuid} {output : ArtifactRef}
    (h : (sched.tryCacheHit input s n ids id).control = .task m rest x (.cacheHit output)) :
    ∃ entry, TaskCache.isCacheable (s.graph.task x) ∧
      s.store.cacheEntries (sched.cache.taskKey (s.graph.task x)) = some entry ∧
        input.artifacts.manifestHash entry.artifactId = some output := by
  unfold tryCacheHit at h
  split at h
  · cases h
  · next entry store hlookup =>
      obtain ⟨hcacheable, hentry⟩ := TaskCache.lookup_hit hlookup
      split at h
      · cases h
      · next found hmanifest =>
          cases SchedulerState.eq_of_mark_control h
          exact ⟨entry, hcacheable, hentry, hmanifest⟩

/-- What is about to be replayed has been found in the cache. -/
theorem advance_cacheHit {n : Nat} {ids : List Uuid} {x : Uuid} {output : ArtifactRef}
    (h : (sched.advance input s).control = .task n ids x (.cacheHit output)) :
    ∃ entry, TaskCache.isCacheable (s.graph.task x) ∧
      s.store.cacheEntries (sched.cache.taskKey (s.graph.task x)) = some entry ∧
        input.artifacts.manifestHash entry.artifactId = some output ∧
          ((sched.advance input s).graph.task x).inputs = (s.graph.task x).inputs := by
  unfold advance at h ⊢
  split at h
  · split at h <;> cases h
  · split at h
    · cases SchedulerState.eq_of_mark_control h
    · cases h
  · split at h <;> cases h
  · next m id rest p hcontrol =>
      -- the lookup is the only way to a replay
      obtain ⟨entry, hcacheable, hentry, hmanifest⟩ := tryCacheHit_cacheHit h
      exact ⟨entry, hcacheable, hentry, hmanifest, tryCacheHit_inputs x⟩
  · split at h <;> cases h
  · next m rest id phase hcontrol =>
      -- a dispatch goes on with an attempt or with the next task
      exfalso
      cases phase with
      | storeOutput declared =>
          simp only [dispatchAndAwait] at h
          split at h <;> cases h
      | await produced missed =>
          simp only [dispatchAndAwait, awaitEvent] at h
          split at h
          · split at h <;> cases h
          · next event executor _ =>
              split at h
              · cases hkind : event.kind with
                | completed | cancelled =>
                    rw [hkind] at h
                    cases SchedulerState.eq_of_mark_control h
                | artifactProduced _ | failed _ _ _ | progress _ | log _ | heartbeat =>
                    rw [hkind] at h
                    cases h
              · rw [show s.control = _ from hcontrol] at h
                cases h
      | submit =>
          simp only [dispatchAndAwait] at h
          split at h <;> cases h
      | dispatch =>
          simp only [dispatchAndAwait] at h
          split at h
          · cases h
          · cases SchedulerState.eq_of_mark_control h
      | markFailed retryable =>
          cases retryable <;> cases SchedulerState.eq_of_mark_control h
      | cacheHit _ | markPending => cases SchedulerState.eq_of_mark_control h
      | recordSucceeded _ | threadOutputs _ | recordCancelled => cases h
  · next hcontrol => rw [hcontrol] at h; cases h
  · next hcontrol => rw [hcontrol] at h; cases h

/-! ## Runs

`Stocked` is kept by every step, hence it holds in every state: induction over
the steps. -/

/-- Every entry is the first output of an execution with its key, and so is what
is about to be replayed; the tasks are those of `g₀`. -/
structure Stocked (cache : TaskCache) (hashOf : Uuid → ArtifactRef) (g₀ : TaskGraph) (work : Work)
    (s : SchedulerState σ) : Prop where
  shape : s.graph.toTaskShape = g₀.toTaskShape
  spec : ∀ x, (s.graph.task x).spec = (g₀.task x).spec
  entries : ∀ {key entry}, s.store.cacheEntries key = some entry →
    cache.Produces g₀ work key (hashOf entry.artifactId)
  served : ∀ {n ids x output}, s.control = .task n ids x (.cacheHit output) →
    x ∈ g₀.insertionOrder ∧ TaskCache.isCacheable (g₀.task x) ∧
      cache.Produces g₀ work (cache.taskKey (g₀.given x (s.graph.task x).inputs)) output

variable {hashOf : Uuid → ArtifactRef} {g₀ : TaskGraph} {work : Work}

theorem Stocked.start {store : SchedulerStateStore} {executor : σ} {g : TaskGraph}
    {externalInputs : List ArtifactRef} {pipelineHash : String}
    (hrun : sched.run store executor g externalInputs pipelineHash = .ok s)
    (hentries : ∀ {key entry}, store.cacheEntries key = some entry →
      sched.cache.Produces g work key (hashOf entry.artifactId)) :
    Stocked sched.cache hashOf g work s := by
  obtain ⟨_, store', hstore, rfl⟩ := run_start hrun
  constructor
  · rfl
  · exact fun _ => rfl
  · intro key entry hentry
    rw [SchedulerStateStore.cacheEntries_of_saveGraph hstore] at hentry
    exact hentries hentry
  · intro n ids x output hcontrol
    exact (nomatch hcontrol)

theorem Stocked.advance (h : Stocked sched.cache hashOf g₀ work s)
    (hc : Coherent s.graph s.control) (hnames : input.artifacts.Names hashOf)
    (hexec : s.control.Executes work s.graph) :
    Stocked sched.cache hashOf g₀ work (sched.advance input s) := by
  have hkey : ∀ x, sched.cache.taskKey (s.graph.task x) =
      sched.cache.taskKey (g₀.given x (s.graph.task x).inputs) := fun x =>
    TaskCache.taskKey_of_spec (h.spec x) rfl
  obtain ⟨_, hmove, _⟩ := sched.advance_moves input hc
  constructor
  · exact hmove.toTaskShape.trans h.shape
  · exact fun x => (hmove.spec x).trans (h.spec x)
  · intro key entry hentry
    rcases advance_cacheEntries hentry with hold |
      ⟨n, ids, x, declared, output, rest, hcontrol, houtputs, hcacheable, rfl, hindex⟩
    · exact h.entries hold
    · rw [hcontrol] at hexec hc
      refine ⟨x, h.shape ▸ hc.2.2.1.1, (s.graph.task x).inputs, rest, ?_, (hkey x).symm, ?_⟩
      · rwa [← TaskCache.isCacheable_of_spec (h.spec x)]
      · rw [hnames.index hindex, ← houtputs]
        exact hexec
  · intro n ids x output hcontrol
    obtain ⟨entry, hcacheable, hentry, hmanifest, hinputs⟩ := advance_cacheHit hcontrol
    have hc' := hmove.coherent hc
    rw [hcontrol] at hc'
    rw [hinputs]
    refine ⟨(hmove.toTaskShape.trans h.shape) ▸ hc'.2.2.1.1, by rwa [← TaskCache.isCacheable_of_spec (h.spec x)], ?_⟩
    have hproduced := h.entries hentry
    rwa [hkey, hnames.manifest hmanifest] at hproduced

theorem states_stocked {inputs : Nat → StepInput ι} {s₀ : SchedulerState σ}
    (hquiet : Quiet inputs) (hc : Coherent s₀.graph s₀.control)
    (hnames : ∀ k, (inputs k).artifacts.Names hashOf)
    (hexec : ∀ k, (sched.states inputs s₀ k).control.Executes work (sched.states inputs s₀ k).graph)
    (h₀ : Stocked sched.cache hashOf g₀ work s₀) (k : Nat) :
    Stocked sched.cache hashOf g₀ work (sched.states inputs s₀ k) := by
  induction k with
  | zero => exact h₀
  | succ k ih =>
      rw [states_succ_of_quiet hquiet]
      exact ih.advance (states_coherent hc k) (hnames k) (hexec k)

/-- What is about to be replayed is the first output of the task. -/
theorem Stocked.replayed {n : Nat} {ids : List Uuid} {x : Uuid} {output : ArtifactRef}
    (h : Stocked sched.cache hashOf g₀ work s) (hdetermines : sched.cache.Determines g₀ work)
    (hcontrol : s.control = .task n ids x (.cacheHit output)) :
    ∃ rest, work x (s.graph.task x).inputs = .succeeded (output :: rest) := by
  obtain ⟨hx, hcacheable, x', hx', inputs', rest, hcacheable', hkey, hwork⟩ := h.served hcontrol
  exact ⟨rest, (hdetermines x hx x' hx' _ _ hcacheable hcacheable' hkey.symm).trans hwork⟩

end Scheduler

end SpatialPlatform.Engine
