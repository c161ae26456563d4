import SpatialPlatform.Core.Artifacts.StoreState
import SpatialPlatform.Engine.Cache.TaskCache
import SpatialPlatform.Lib.Machine

/-!
# What backs a cache entry

The task cache and the artifact store as they evolve side by side. `Lookup` asks
the store for the manifest of the artifact an entry names, not for its payload.
Next to the two, a `Backing` keeps the payload files that were corrupted on disk
and not written again since.

* `hits_backed_iff` — over every sequence of operations, every hit can be read
  exactly when no hit names a damaged payload.
-/

namespace SpatialPlatform.Engine

open SpatialPlatform.Core SpatialPlatform.Lib

/-- What the task cache sees of the store. -/
def artifactIndex (store : StoreState) : ArtifactIndex where
  manifestHash uuid := (store.readManifest uuid).map (·.contentHash)
  artifactByHash hash := (store.artifacts.findByHash hash).map (·.artifactId)

/-- `Lookup` asks `HasManifest`. -/
theorem isSome_manifestHash (store : StoreState) (artifactId : Uuid) :
    ((artifactIndex store).manifestHash artifactId).isSome = store.hasManifest artifactId :=
  Option.isSome_map

/-- The store and the cache entries, with the damaged payload files. -/
structure Backing where
  store : StoreState
  entries : SchedulerStateStore := {}
  damaged : List String := []

/-- An operation on the store or on the cache. -/
inductive BackingOp where
  | artifacts (op : StoreOp)
  | lookup (task : TaskInstance)
  | store (task : TaskInstance) (artifactId : Uuid)

namespace Backing

/-- The damaged files after an operation on the store: `Put` writes a file that is not there. -/
def damagedAfter (backing : Backing) : StoreOp → List String
  | .put payload _ _ =>
      if backing.store.isReferenced (sha256Hex payload) ∨
          (backing.store.payloads.lookup (sha256Hex payload)).isSome then backing.damaged
      else backing.damaged.filter (· ≠ sha256Hex payload)
  | .corrupt contentHash _ => contentHash :: backing.damaged
  | _ => backing.damaged

variable (cache : TaskCache)

/-- The operations of an engine on its project. -/
def operations : Actions Backing BackingOp where
  step
    | .artifacts op, backing =>
        (op.step backing.store).map fun store =>
          { backing with store, damaged := backing.damagedAfter op }
    | .lookup task, backing =>
        some { backing with
          entries := (cache.lookup (artifactIndex backing.store) backing.entries task).2 }
    | .store task artifactId, backing =>
        some { backing with entries := cache.store backing.entries task artifactId }

/-- The store and the cache of a new project. -/
def fresh (readOnly : Bool) : Backing := { store := { readOnly } }

/-- `Get` succeeds on the payload of an artifact. -/
def Readable (store : StoreState) (artifactId : Uuid) : Prop :=
  ∃ manifest bytes, store.readManifest artifactId = some manifest ∧
    (store.get manifest.contentHash).1 = .ok (some bytes)

/-- A hit can be read. -/
def HitReadable : BackingOp → Backing → Prop
  | .lookup task, backing =>
      ∀ entry, (cache.lookup (artifactIndex backing.store) backing.entries task).1 = some entry →
        Readable backing.store entry.artifactId
  | _, _ => True

/-- The entry of a cacheable task does not name an artifact whose payload file is damaged. -/
def HitUndamaged : BackingOp → Backing → Prop
  | .lookup task, backing =>
      TaskCache.isCacheable task →
      ∀ entry ∈ backing.entries.cacheEntries (cache.taskKey task),
      ∀ manifest ∈ backing.store.readManifest entry.artifactId,
        manifest.contentHash ∉ backing.damaged
  | _, _ => True

/-- The payload file of a hash is there, under its digest. -/
def Intact (store : StoreState) (hash : String) : Prop :=
  ∃ bytes, store.payloads.lookup hash = some bytes ∧ sha256Hex bytes = hash

/-- What the operations keep: the damaged files are those that cannot be read,
and every manifest has its payload file unless that is damaged. -/
structure Invariant (store : StoreState) (damaged : List String) : Prop where
  lost : ∀ hash ∈ damaged, ¬ Intact store hash
  present : ∀ hash bytes, store.payloads.lookup hash = some bytes → hash ∉ damaged →
    sha256Hex bytes = hash
  backed : ∀ uuid manifest, store.manifests.lookup uuid = some manifest →
    manifest.contentHash ∉ damaged → (store.payloads.lookup manifest.contentHash).isSome

theorem readable_iff {store : StoreState} {damaged : List String} (h : Invariant store damaged)
    {artifactId : Uuid} {manifest : ArtifactManifest}
    (hmanifest : store.readManifest artifactId = some manifest) :
    Readable store artifactId ↔ manifest.contentHash ∉ damaged := by
  constructor
  · intro ⟨found, bytes, hfound, hget⟩ hdamaged
    obtain rfl : manifest = found := Option.some.inj (hmanifest.symm.trans hfound)
    exact h.lost _ hdamaged ⟨bytes, StoreState.get_eq_ok_some.mp hget⟩
  · intro hundamaged
    obtain ⟨bytes, hbytes⟩ :=
      Option.isSome_iff_exists.mp (h.backed artifactId manifest hmanifest hundamaged)
    refine ⟨manifest, bytes, hmanifest, StoreState.get_eq_ok_some.mpr ⟨hbytes, ?_⟩⟩
    exact h.present _ _ hbytes hundamaged

theorem lookup_hit_iff (artifacts : ArtifactIndex) (entries : SchedulerStateStore)
    (task : TaskInstance) (entry : CacheEntryRecord) :
    (cache.lookup artifacts entries task).1 = some entry ↔
      TaskCache.isCacheable task ∧ entries.cacheEntries (cache.taskKey task) = some entry ∧
        (artifacts.manifestHash entry.artifactId).isSome := by
  unfold TaskCache.lookup
  split
  next hcacheable =>
    cases hentry : entries.cacheEntries (cache.taskKey task) with
    | none => simp
    | some found =>
        by_cases hbacked : (artifacts.manifestHash found.artifactId).isSome = true
        · simp only [hbacked, if_true, hcacheable, true_and, Option.some.injEq]
          constructor
          · intro heq
            exact ⟨heq, heq ▸ hbacked⟩
          · exact And.left
        · simp only [hbacked, hcacheable, true_and, Option.some.injEq]
          constructor
          · intro hnone
            exact (nomatch hnone)
          · intro ⟨heq, hsome⟩
            exact absurd (heq ▸ hsome) hbacked
  next hnot => simp [hnot]

/-- A hit can be read exactly when the payload it names is not damaged. -/
theorem hitReadable_iff {backing : Backing} (h : Invariant backing.store backing.damaged) (op : BackingOp) :
    HitReadable cache op backing ↔ HitUndamaged cache op backing := by
  cases op with
  | artifacts op => exact Iff.rfl
  | store task artifactId => exact Iff.rfl
  | lookup task =>
      constructor
      · intro hreadable hcacheable entry hentry manifest hmanifest
        refine (readable_iff h hmanifest).mp (hreadable entry ?_)
        rw [lookup_hit_iff]
        refine ⟨hcacheable, hentry, ?_⟩
        rw [isSome_manifestHash]
        exact Option.isSome_of_eq_some hmanifest
      · intro hundamaged entry hhit
        obtain ⟨hcacheable, hentry, hbacked⟩ := (lookup_hit_iff cache _ _ _ _).mp hhit
        rw [isSome_manifestHash] at hbacked
        obtain ⟨manifest, hmanifest⟩ := Option.isSome_iff_exists.mp hbacked
        exact (readable_iff h hmanifest).mpr (hundamaged hcacheable entry hentry manifest hmanifest)

/-! ## The operations keep the invariant

Operation by operation: a write repairs the file of its payload, a corruption
damages one, and quarantine and collection take files away. From the empty
project the invariant then holds along every run, so each `Lookup` is decided by
the state that it finds. -/

section Steps

variable {store : StoreState} {damaged : List String}

/-- A payload that is written is intact from then on. -/
theorem Invariant.withPayload (h : Invariant store damaged) (payload : List UInt8) :
    Invariant (store.withPayload payload)
      (if (store.payloads.lookup (sha256Hex payload)).isSome then damaged
        else damaged.filter (· ≠ sha256Hex payload)) := by
  unfold StoreState.withPayload
  split
  · exact h
  · next hnew =>
    have hother : ∀ hash, hash ≠ sha256Hex payload →
        (store.payloads.insert (sha256Hex payload) payload).lookup hash =
          store.payloads.lookup hash := fun _ hne => AList.lookup_insert_ne hne
    have hself : (store.payloads.insert (sha256Hex payload) payload).lookup (sha256Hex payload) =
        some payload := AList.lookup_insert _
    constructor
    · intro hash hdamaged ⟨bytes, hbytes, hdigest⟩
      obtain ⟨hdamaged, hne⟩ := List.mem_filter.mp hdamaged
      rw [show _ = store.payloads.lookup hash from hother hash (by simpa using hne)] at hbytes
      exact h.lost hash hdamaged ⟨bytes, hbytes, hdigest⟩
    · intro hash bytes hbytes hundamaged
      by_cases hne : hash = sha256Hex payload
      · subst hne
        rw [show _ = some payload from hself] at hbytes
        rw [Option.some.inj hbytes]
      · rw [show _ = store.payloads.lookup hash from hother hash hne] at hbytes
        exact h.present hash bytes hbytes fun hdamaged =>
          hundamaged (List.mem_filter.mpr ⟨hdamaged, by simpa using hne⟩)
    · intro uuid manifest hmanifest hundamaged
      by_cases hne : manifest.contentHash = sha256Hex payload
      · rw [hne, show _ = some payload from hself]
        rfl
      · rw [show _ = store.payloads.lookup _ from hother _ hne]
        exact h.backed uuid manifest hmanifest fun hdamaged =>
          hundamaged (List.mem_filter.mpr ⟨hdamaged, by simpa using hne⟩)

/-- A manifest for a payload file that is there. -/
theorem Invariant.withManifest (h : Invariant store damaged) {store' : StoreState} {uuid : Uuid}
    {manifest : ArtifactManifest} (hpayloads : store'.payloads = store.payloads)
    (hmanifests : store'.manifests = store.manifests.insert uuid manifest)
    (hpresent : (store.payloads.lookup manifest.contentHash).isSome) :
    Invariant store' damaged where
  lost := by
    intro hash hdamaged ⟨bytes, hbytes, hdigest⟩
    rw [hpayloads] at hbytes
    exact h.lost hash hdamaged ⟨bytes, hbytes, hdigest⟩
  present := by
    rw [hpayloads]
    exact h.present
  backed := by
    intro uuid' manifest' hmanifest' hundamaged
    rw [hpayloads]
    rw [hmanifests] at hmanifest'
    by_cases hne : uuid' = uuid
    · subst hne
      rw [AList.lookup_insert] at hmanifest'
      rw [← Option.some.inj hmanifest']
      exact hpresent
    · rw [AList.lookup_insert_ne hne] at hmanifest'
      exact h.backed uuid' manifest' hmanifest' hundamaged

theorem isSome_lookup_withPayload (store : StoreState) (payload : List UInt8) :
    ((store.withPayload payload).payloads.lookup (sha256Hex payload)).isSome := by
  unfold StoreState.withPayload
  split
  · assumption
  · simp

/-- The quarantine takes a damaged file. -/
theorem Invariant.quarantinePayload (h : Invariant store damaged) {hash : String}
    {bytes : List UInt8} (hbytes : store.payloads.lookup hash = some bytes)
    (hdigest : sha256Hex bytes ≠ hash) :
    Invariant ((store.quarantinePayload hash bytes).degrade hash) damaged := by
  -- the file has another digest than its name, so it was damaged
  have hdamaged : hash ∈ damaged := by
    by_contra hundamaged
    exact hdigest (h.present hash bytes hbytes hundamaged)
  have hother : ∀ other, other ≠ hash →
      ((store.quarantinePayload hash bytes).degrade hash).payloads.lookup other =
        store.payloads.lookup other := by
    intro other hne
    rw [StoreState.degrade_payloads]
    exact StoreState.lookup_quarantinePayload_ne store bytes hne
  -- the name has lost its file
  have hself : ¬ Intact ((store.quarantinePayload hash bytes).degrade hash) hash := by
    intro ⟨found, hfound, hfoundDigest⟩
    rw [StoreState.degrade_payloads, StoreState.quarantinePayload] at hfound
    split at hfound
    · rw [hbytes] at hfound
      exact hdigest (Option.some.inj hfound ▸ hfoundDigest)
    · rw [show _ = none from AList.lookup_erase hash store.payloads] at hfound
      exact (nomatch hfound)
  constructor
  · intro other hother' hintact
    by_cases hne : other = hash
    · exact hself (hne ▸ hintact)
    · obtain ⟨found, hfound, hfoundDigest⟩ := hintact
      rw [hother other hne] at hfound
      exact h.lost other hother' ⟨found, hfound, hfoundDigest⟩
  · intro other found hfound hundamaged
    have hne : other ≠ hash := fun heq => hundamaged (heq ▸ hdamaged)
    rw [hother other hne] at hfound
    exact h.present other found hfound hundamaged
  · intro uuid manifest hmanifest hundamaged
    have hne : manifest.contentHash ≠ hash := fun heq => hundamaged (heq ▸ hdamaged)
    rw [hother _ hne]
    rw [StoreState.degrade_manifests, StoreState.quarantinePayload_manifests] at hmanifest
    exact h.backed uuid manifest hmanifest hundamaged

/-- A collection takes a payload file only with the manifests that name it. -/
theorem Invariant.garbageCollect (h : Invariant store damaged) :
    Invariant (store.garbageCollect false).2 damaged := by
  constructor
  · intro hash hdamaged ⟨bytes, hbytes, hdigest⟩
    rw [StoreState.lookup_payloads_collected] at hbytes
    split at hbytes
    · exact h.lost hash hdamaged ⟨bytes, hbytes, hdigest⟩
    · exact (nomatch hbytes)
  · intro hash bytes hbytes hundamaged
    rw [StoreState.lookup_payloads_collected] at hbytes
    split at hbytes
    · exact h.present hash bytes hbytes hundamaged
    · exact (nomatch hbytes)
  · intro uuid manifest hmanifest hundamaged
    rw [StoreState.lookup_manifests_collected] at hmanifest
    obtain ⟨hmanifest, href⟩ := Option.filter_eq_some_iff.mp hmanifest
    rw [StoreState.lookup_payloads_collected, if_pos href]
    exact h.backed uuid manifest hmanifest hundamaged

/-- A corrupted file is damaged. -/
theorem Invariant.corrupt (h : Invariant store damaged) {hash : String} {bytes : List UInt8}
    (hdigest : sha256Hex bytes ≠ hash) :
    Invariant { store with payloads := store.payloads.insert hash bytes } (hash :: damaged) := by
  have hother : ∀ other, other ≠ hash →
      (store.payloads.insert hash bytes).lookup other = store.payloads.lookup other :=
    fun _ hne => AList.lookup_insert_ne hne
  constructor
  · intro other hother' ⟨found, hfound, hfoundDigest⟩
    by_cases hne : other = hash
    · subst hne
      rw [show _ = some bytes from AList.lookup_insert store.payloads] at hfound
      exact hdigest (Option.some.inj hfound ▸ hfoundDigest)
    · rw [show _ = store.payloads.lookup other from hother other hne] at hfound
      exact h.lost other (List.mem_of_ne_of_mem hne hother') ⟨found, hfound, hfoundDigest⟩
  · intro other found hfound hundamaged
    have hne := List.ne_of_not_mem_cons hundamaged
    have hundamaged := List.not_mem_of_not_mem_cons hundamaged
    rw [show _ = store.payloads.lookup other from hother other hne] at hfound
    exact h.present other found hfound hundamaged
  · intro uuid manifest hmanifest hundamaged
    have hne := List.ne_of_not_mem_cons hundamaged
    have hundamaged := List.not_mem_of_not_mem_cons hundamaged
    rw [show _ = store.payloads.lookup _ from hother _ hne]
    exact h.backed uuid manifest hmanifest hundamaged

/-- The operations on the store. -/
theorem Invariant.storeStep {backing : Backing} (h : Invariant backing.store backing.damaged)
    {op : StoreOp} {store' : StoreState} (hstep : op.step backing.store = some store') :
    Invariant store' (backing.damagedAfter op) := by
  cases op with
  | put payload manifest generated =>
      cases hstep
      -- the payload is written before the row and the manifest, so it backs both
      have hwritten := h.withPayload payload
      rcases backing.store.put_cases payload manifest generated with
        ⟨existing, hfind, hput⟩ | ⟨hfind, _, e, store', hput, hpayloads, _, hmanifests⟩ |
        ⟨hfind, _, rows, hput⟩
      · simp only [hput, damagedAfter, StoreState.isReferenced, hfind, Option.isSome_some, true_or,
          if_true]
        exact h
      · simp only [hput, damagedAfter, StoreState.isReferenced, hfind, Option.isSome_none,
          Bool.false_eq_true, false_or]
        rw [← StoreState.withPayload_manifests backing.store payload] at hmanifests
        exact hwritten.withManifest hpayloads hmanifests
          (isSome_lookup_withPayload backing.store payload)
      · simp only [hput, damagedAfter, StoreState.isReferenced, hfind, Option.isSome_none,
          Bool.false_eq_true, false_or]
        exact hwritten.withManifest rfl rfl (isSome_lookup_withPayload backing.store payload)
  | putInstance hash manifest generated =>
      cases hstep
      rcases backing.store.putInstance_cases hash manifest generated with
        ⟨_, e, hput⟩ | ⟨_, bytes, e, hbytes, hput⟩ | ⟨_, bytes, rows, hbytes, hput⟩ <;> rw [hput]
      · exact h
      · refine h.withManifest rfl rfl ?_
        show (backing.store.payloads.lookup hash).isSome = true
        rw [hbytes]
        rfl
      · refine h.withManifest rfl rfl ?_
        show (backing.store.payloads.lookup hash).isSome = true
        rw [hbytes]
        rfl
  | get hash =>
      cases hstep
      rcases backing.store.get_cases hash with
        ⟨_, hget⟩ | ⟨_, _, _, hget⟩ | ⟨bytes, hbytes, hdigest, e, hget⟩ <;> rw [hget]
      · exact h
      · exact h
      · -- `get` quarantines what does not have its hash
        exact h.quarantinePayload hbytes hdigest
  | garbageCollect dryRun =>
      cases hstep
      cases dryRun with
      | true => exact h
      | false => exact h.garbageCollect
  | corrupt hash bytes =>
      simp only [StoreOp.step] at hstep
      split at hstep
      next hcorrupt =>
        cases hstep
        exact h.corrupt hcorrupt.2
      next => exact (nomatch hstep)

end Steps

theorem invariant_fresh (readOnly : Bool) :
    Invariant (fresh readOnly).store (fresh readOnly).damaged := by
  constructor
  · intro hash hdamaged
    cases hdamaged
  · intro hash bytes hbytes
    exact (nomatch hbytes)
  · intro uuid manifest hmanifest
    exact (nomatch hmanifest)

/-- The invariant is kept by every operation, so that along a run each hit is
decided by what its `Lookup` finds. -/
theorem along_hitReadable_iff {backing : Backing} (h : Invariant backing.store backing.damaged)
    (ops : List BackingOp) :
    (operations cache).Along (HitReadable cache) ops backing ↔
      (operations cache).Along (HitUndamaged cache) ops backing := by
  have hstep : ∀ op (backing backing' : Backing), Invariant backing.store backing.damaged →
      HitUndamaged cache op backing → (operations cache).step op backing = some backing' →
      Invariant backing'.store backing'.damaged := by
    intro op backing backing' h _ hstep
    cases op with
    | artifacts op =>
        obtain ⟨store', hstore', rfl⟩ := Option.map_eq_some_iff.mp hstep
        exact h.storeStep hstore'
    | lookup task => cases hstep; exact h
    | store task artifactId => cases hstep; exact h
  apply Actions.along_iff_of_invariant hstep _ h
  intro op backing h
  exact hitReadable_iff cache h op

/-- Over every sequence of operations on the store and the cache of a project,
`Get` succeeds on the artifact of every entry that `Lookup` returns, if and only
if no `Lookup` of a cacheable task finds an entry for an artifact whose payload
was corrupted and not written again. -/
theorem hits_backed_iff (readOnly : Bool) (ops : List BackingOp) :
    (operations cache).Along (HitReadable cache) ops (fresh readOnly) ↔
      (operations cache).Along (HitUndamaged cache) ops (fresh readOnly) :=
  along_hitReadable_iff cache (invariant_fresh readOnly) ops

/-- A cache, and a task whose output it keeps. -/
def sampleCache : TaskCache := ⟨sha256HexString, "engine", ""⟩

def sampleTask : TaskInstance where
  id := ⟨5⟩
  definition := { type := "features" }
  metadata := { deterministic := true }

/-- A payload that was corrupted is still a hit, by the manifest of its artifact. -/
theorem corrupt_hit :
    ¬ (operations sampleCache).Along (HitReadable sampleCache)
      [.artifacts (.put [] {} ⟨1⟩), .store sampleTask ⟨1⟩,
        .artifacts (.corrupt (sha256Hex []) [0]), .lookup sampleTask]
      (fresh false) := by
  rw [along_hitReadable_iff sampleCache (invariant_fresh false)]
  simp [Actions.Along, operations, StoreOp.step, damagedAfter, fresh, HitUndamaged,
    StoreState.isReferenced, StoreState.put, StoreState.completed, StoreState.registration,
    StoreState.indexRow, StoreState.commit, StoreState.performAll, StoreState.perform,
    StoreState.readManifest, ArtifactTable.findByHash, ArtifactTable.empty, ArtifactTable.upsert,
    ArtifactTable.withoutKeysOf, sha256Hex_zero_ne_empty, sampleTask, TaskCache.store,
    TaskCache.isCacheable, SchedulerStateStore.upsertCacheEntry]

end Backing

end SpatialPlatform.Engine
