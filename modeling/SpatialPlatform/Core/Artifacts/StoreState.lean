import Mathlib.Data.List.AList
import Mathlib.Data.List.Sort
import Mathlib.Data.String.Basic
import SpatialPlatform.Core.ArtifactStore

/-!
# The artifact store on disk

`core/artifacts/artifact_store.cpp` with the files and rows it keeps in step:
payload files under their hash, a manifest for each artifact, the index of
`MetadataDb` with its two unique keys, and the quarantine. A write is a list of
persistent writes made in order; the first that fails ends it. Creation times,
which nothing reads, are left out.

* `StoreState.view_get` — what a task body reads of the store is what the store
  returns.
-/

namespace SpatialPlatform.Core

/-- `ProducerInfo`. -/
structure ProducerInfo where
  id : String := ""
  version : String := ""
  gitCommit : String := ""
  deriving DecidableEq, Repr

/-- `ArtifactManifest`. -/
structure ArtifactManifest where
  artifactUuid : Uuid := .nil
  contentHash : String := ""
  type : String := ""
  schemaVersion : Int64 := 1
  producer : ProducerInfo := {}
  inputArtifactHashes : List String := []
  configurationHash : String := ""
  coordinateFrame : String := ""
  unit : String := "meter"
  fileSize : Int64 := 0
  mimeType : String := ""
  validationStatus : String := "valid"
  width : Int64 := 0
  height : Int64 := 0
  pixelFormat : String := ""
  deriving DecidableEq, Repr

/-- `ArtifactIndexRow`, a row of `artifacts`. -/
structure ArtifactIndexRow where
  artifactId : Uuid
  contentHash : String
  type : String := ""
  schemaVersion : Int64 := 1
  producer : ProducerInfo := {}
  configHash : String := ""
  coordinateFrame : String := ""
  unit : String := ""
  fileSize : Int64 := 0
  mimeType : String := ""
  validationStatus : String := ""
  deriving DecidableEq, Repr

/-- The table `artifacts`, with its primary key and its unique column. -/
structure ArtifactTable where
  rows : List ArtifactIndexRow
  ids : (rows.map (·.artifactId)).Nodup
  hashes : (rows.map (·.contentHash)).Nodup

/-- A row of `artifact_dependencies`. -/
structure ArtifactDependency where
  inputHash : String
  outputHash : String
  role : String
  deriving DecidableEq, Repr

/-- `ArtifactWriteResult`. -/
structure ArtifactWriteResult where
  contentHash : String
  artifactUuid : Uuid
  deduplicated : Bool
  deriving DecidableEq, Repr

/-- `GcPlan`. -/
structure GcPlan where
  unreferencedHashes : List String
  danglingManifests : List String
  deriving DecidableEq, Repr

namespace ArtifactTable

def empty : ArtifactTable := ⟨[], by simp, by simp⟩

/-- `FindArtifactByHash`. -/
def findByHash (table : ArtifactTable) (contentHash : String) : Option ArtifactIndexRow :=
  table.rows.find? (·.contentHash = contentHash)

/-- `FindArtifactById`. -/
def findById (table : ArtifactTable) (artifactId : Uuid) : Option ArtifactIndexRow :=
  table.rows.find? (·.artifactId = artifactId)

/-- The rows that share no unique key with a row. -/
def withoutKeysOf (table : ArtifactTable) (row : ArtifactIndexRow) : List ArtifactIndexRow :=
  table.rows.filter fun old => old.artifactId ≠ row.artifactId ∧ old.contentHash ≠ row.contentHash

theorem nodup_map_concat {K : Type} {key : ArtifactIndexRow → K} {table : ArtifactTable}
    {row : ArtifactIndexRow} (h : (table.rows.map key).Nodup)
    (hfresh : ∀ old ∈ table.withoutKeysOf row, key old ≠ key row) :
    ((table.withoutKeysOf row ++ [row]).map key).Nodup := by
  rw [List.map_append, List.nodup_append]
  refine ⟨?_, by simp, ?_⟩
  · exact h.sublist (List.filter_sublist.map key)
  · intro k hk k' hk' heq
    obtain ⟨old, hold, rfl⟩ := List.mem_map.mp hk
    rw [List.map_singleton, List.mem_singleton] at hk'
    exact hfresh old hold (heq.trans hk')

/-- `INSERT OR REPLACE`: a row that shares either unique key with the new one goes. -/
def upsert (table : ArtifactTable) (row : ArtifactIndexRow) : ArtifactTable where
  rows := table.withoutKeysOf row ++ [row]
  ids := by
    apply nodup_map_concat table.ids
    intro old hold
    simpa using (of_decide_eq_true (List.mem_filter.mp hold).2).1
  hashes := by
    apply nodup_map_concat table.hashes
    intro old hold
    simpa using (of_decide_eq_true (List.mem_filter.mp hold).2).2

theorem findByHash_eq_some {table : ArtifactTable} {contentHash : String}
    {row : ArtifactIndexRow} :
    table.findByHash contentHash = some row ↔ row ∈ table.rows ∧ row.contentHash = contentHash := by
  constructor
  · intro h
    exact ⟨List.mem_of_find?_eq_some h, by simpa using List.find?_some h⟩
  · intro ⟨hmem, hhash⟩
    cases hfind : table.findByHash contentHash with
    | none => simpa [hhash] using List.find?_eq_none.mp hfind row hmem
    | some other =>
        have hother : other.contentHash = contentHash := by simpa using List.find?_some hfind
        exact congrArg some (List.inj_on_of_nodup_map table.hashes
          (List.mem_of_find?_eq_some hfind) hmem (hother.trans hhash.symm))

theorem findById_eq_some {table : ArtifactTable} {artifactId : Uuid} {row : ArtifactIndexRow} :
    table.findById artifactId = some row ↔ row ∈ table.rows ∧ row.artifactId = artifactId := by
  constructor
  · intro h
    exact ⟨List.mem_of_find?_eq_some h, by simpa using List.find?_some h⟩
  · intro ⟨hmem, hid⟩
    cases hfind : table.findById artifactId with
    | none => simpa [hid] using List.find?_eq_none.mp hfind row hmem
    | some other =>
        have hother : other.artifactId = artifactId := by simpa using List.find?_some hfind
        exact congrArg some (List.inj_on_of_nodup_map table.ids
          (List.mem_of_find?_eq_some hfind) hmem (hother.trans hid.symm))

theorem mem_upsert {table : ArtifactTable} {row old : ArtifactIndexRow} :
    old ∈ (table.upsert row).rows ↔
      old = row ∨ (old ∈ table.rows ∧ old.artifactId ≠ row.artifactId ∧
        old.contentHash ≠ row.contentHash) := by
  simp [upsert, withoutKeysOf, or_comm]

end ArtifactTable

/-- The files below the artifacts directory and the rows of the index. -/
structure StoreState where
  readOnly : Bool := false
  payloads : AList fun _ : String => List UInt8 := ∅
  quarantine : AList fun _ : String => List UInt8 := ∅
  manifests : AList fun _ : Uuid => ArtifactManifest := ∅
  artifacts : ArtifactTable := .empty
  dependencies : List ArtifactDependency := []

namespace StoreState

/-- `IsReferenced`. -/
def isReferenced (store : StoreState) (contentHash : String) : Bool :=
  (store.artifacts.findByHash contentHash).isSome

/-! ## Persistent writes -/

/-- One persistent write of `Put`, `PutInstance` or `Get`. -/
inductive Write where
  | payload (contentHash : String) (bytes : List UInt8)
  | manifest (manifest : ArtifactManifest)
  | row (row : ArtifactIndexRow)
  | dependency (dependency : ArtifactDependency)
  deriving DecidableEq, Repr

/-- `AtomicWrite`, `UpsertArtifact` and `RecordDependency`; the tables refuse a
write of a project that is open for reading. -/
def perform (store : StoreState) : Write → Except ProjectError StoreState
  | .payload contentHash bytes =>
      .ok { store with payloads := store.payloads.insert contentHash bytes }
  | .manifest manifest =>
      .ok { store with manifests := store.manifests.insert manifest.artifactUuid manifest }
  | .row row =>
      if store.readOnly then .error ⟨.storageReadOnly, "cannot write to a read-only project"⟩
      else .ok { store with artifacts := store.artifacts.upsert row }
  | .dependency dependency =>
      if store.readOnly then .error ⟨.storageReadOnly, "cannot write to a read-only project"⟩
      else .ok { store with
        dependencies := store.dependencies.filter (fun old =>
          old.inputHash ≠ dependency.inputHash ∨ old.outputHash ≠ dependency.outputHash) ++
            [dependency] }

/-- The writes in order, up to the first that fails. -/
def performAll : List Write → StoreState → Option ProjectError × StoreState
  | [], store => (none, store)
  | write :: writes, store =>
      match store.perform write with
      | .ok store => performAll writes store
      | .error e => (some e, store)

/-- Make the writes and return the result. -/
def commit (store : StoreState) (writes : List Write) (result : ArtifactWriteResult) :
    Except ProjectError ArtifactWriteResult × StoreState :=
  match performAll writes store with
  | (none, store) => (.ok result, store)
  | (some e, store) => (.error e, store)

/-! ## The operations

The store as three maps: payloads, manifests and rows. A call that stops has
made a prefix of its writes. -/

/-- The manifest as it is stored; `generated` is what `GenerateUuid` returns. -/
def completed (manifest : ArtifactManifest) (contentHash : String) (fileSize : Nat)
    (generated : Uuid) : ArtifactManifest :=
  { manifest with
    contentHash
    fileSize := Int64.ofNat fileSize
    artifactUuid := if manifest.artifactUuid ≠ .nil then manifest.artifactUuid else generated }

/-- The index row of a stored manifest. -/
def indexRow (manifest : ArtifactManifest) : ArtifactIndexRow :=
  { artifactId := manifest.artifactUuid
    contentHash := manifest.contentHash
    type := manifest.type
    schemaVersion := manifest.schemaVersion
    producer := manifest.producer
    configHash := manifest.configurationHash
    coordinateFrame := manifest.coordinateFrame
    unit := manifest.unit
    fileSize := manifest.fileSize
    mimeType := manifest.mimeType
    validationStatus := manifest.validationStatus }

/-- The writes that register an artifact for a payload in the store. -/
def registration (manifest : ArtifactManifest) : List Write :=
  [.manifest manifest, .row (indexRow manifest)] ++
    manifest.inputArtifactHashes.map fun input =>
      .dependency ⟨input, manifest.contentHash, "input"⟩

/-- `Put`. -/
def put (store : StoreState) (payload : List UInt8) (manifest : ArtifactManifest)
    (generated : Uuid) : Except ProjectError ArtifactWriteResult × StoreState :=
  let hash := sha256Hex payload
  match store.artifacts.findByHash hash with
  | some existing => (.ok ⟨hash, existing.artifactId, true⟩, store)
  | none =>
      let manifest := completed manifest hash payload.length generated
      let payloadWrite :=
        if (store.payloads.lookup hash).isSome then [] else [Write.payload hash payload]
      store.commit (payloadWrite ++ registration manifest) ⟨hash, manifest.artifactUuid, false⟩

/-- `PutInstance`. -/
def putInstance (store : StoreState) (existingContentHash : String) (manifest : ArtifactManifest)
    (generated : Uuid) : Except ProjectError ArtifactWriteResult × StoreState :=
  match store.payloads.lookup existingContentHash with
  | none =>
      (.error ⟨.artifactMissing, "shared payload not in store: " ++ existingContentHash⟩, store)
  | some bytes =>
      let manifest := completed manifest existingContentHash bytes.length generated
      store.commit (registration manifest) ⟨existingContentHash, manifest.artifactUuid, true⟩

/-- The rename of `Get`, unless an earlier payload of that name is in quarantine. -/
def quarantinePayload (store : StoreState) (contentHash : String) (bytes : List UInt8) :
    StoreState :=
  if (store.quarantine.lookup contentHash).isSome then store
  else { store with
    payloads := store.payloads.erase contentHash
    quarantine := store.quarantine.insert contentHash bytes }

/-- `Get`. A payload with another digest than its name is quarantined, and its row degraded. -/
def get (store : StoreState) (contentHash : String) :
    Except ProjectError (Option (List UInt8)) × StoreState :=
  match store.payloads.lookup contentHash with
  | none => (.ok none, store)
  | some bytes =>
      if sha256Hex bytes ≠ contentHash then
        let store := store.quarantinePayload contentHash bytes
        let degraded := (store.artifacts.findByHash contentHash).toList.map fun index =>
          Write.row { index with validationStatus := "degraded" }
        match performAll degraded store with
        | (none, store) => (.error ⟨.artifactHashMismatch,
            "artifact integrity check failed for hash: " ++ contentHash⟩, store)
        | (some e, store) => (.error e, store)
      else (.ok (some bytes), store)

/-- `HasManifest`. -/
def hasManifest (store : StoreState) (artifactUuid : Uuid) : Bool :=
  (store.manifests.lookup artifactUuid).isSome

/-- `ReadManifest`. -/
def readManifest (store : StoreState) (artifactUuid : Uuid) : Option ArtifactManifest :=
  store.manifests.lookup artifactUuid

/-- The payloads on disk that no row names. -/
def unreferenced (store : StoreState) : List String :=
  (store.payloads.keys.insertionSort (· ≤ ·)).filter fun hash => !store.isReferenced hash

/-- The artifacts whose manifest names a payload that no row names. -/
def dangling (store : StoreState) : List Uuid :=
  (store.manifests.keys.insertionSort fun u v => formatUuid u ≤ formatUuid v).filter fun uuid =>
    (store.readManifest uuid).any fun manifest => !store.isReferenced manifest.contentHash

/-- `GarbageCollect`. -/
def garbageCollect (store : StoreState) (dryRun : Bool) : GcPlan × StoreState :=
  (⟨store.unreferenced, store.dangling.map formatUuid⟩,
    if dryRun then store
    else { store with
      payloads := store.unreferenced.foldl (fun payloads hash => payloads.erase hash) store.payloads
      manifests := store.dangling.foldl (fun manifests uuid => manifests.erase uuid)
        store.manifests })

/-! ## What the writes do

A write fails only where the database is open for reading. `put_cases` and
`putInstance_cases` list what a call can leave behind; callers use these lists
and never unfold a call. -/

section Writes

variable {store : StoreState}

/-- Writes to the tables succeed and change the dependencies alone, in a writable project. -/
theorem performAll_dependencies (hrw : store.readOnly = false)
    (dependencies : List ArtifactDependency) :
    ∃ rows, performAll (dependencies.map .dependency) store =
      (none, { store with dependencies := rows }) := by
  induction dependencies generalizing store with
  | nil => exact ⟨store.dependencies, rfl⟩
  | cons d rest ih =>
      rw [List.map_cons]
      unfold performAll
      simp only [perform, hrw, if_false, Bool.false_eq_true]
      exact ih rfl

/-- The store after an artifact has been registered. -/
def registered (store : StoreState) (manifest : ArtifactManifest)
    (dependencies : List ArtifactDependency) : StoreState :=
  { store with
    manifests := store.manifests.insert manifest.artifactUuid manifest
    artifacts := store.artifacts.upsert (indexRow manifest)
    dependencies }

theorem performAll_registration (store : StoreState) (manifest : ArtifactManifest) :
    (store.readOnly = true ∧ ∃ e, performAll (registration manifest) store =
      (some e, { store with
        manifests := store.manifests.insert manifest.artifactUuid manifest })) ∨
    (store.readOnly = false ∧ ∃ rows, performAll (registration manifest) store =
      (none, store.registered manifest rows)) := by
  cases hro : store.readOnly with
  | true =>
      left
      refine ⟨rfl, ⟨.storageReadOnly, "cannot write to a read-only project"⟩, ?_⟩
      simp [registration, performAll, perform, hro]
  | false =>
      right
      refine ⟨rfl, ?_⟩
      have hregistered : (store.registered manifest store.dependencies).readOnly = false := hro
      obtain ⟨rows, hrows⟩ := performAll_dependencies hregistered
        (manifest.inputArtifactHashes.map fun input => ⟨input, manifest.contentHash, "input"⟩)
      refine ⟨rows, ?_⟩
      simp only [List.map_map, registered, hro] at hrows
      simp only [registration, performAll, perform, List.cons_append, List.nil_append, hro,
        Bool.false_eq_true, if_false, registered]
      exact hrows

/-- The payload files after a write of a payload under its hash: a file that is there stays. -/
def withPayload (store : StoreState) (payload : List UInt8) : StoreState :=
  if (store.payloads.lookup (sha256Hex payload)).isSome then store
  else { store with payloads := store.payloads.insert (sha256Hex payload) payload }

@[simp] theorem withPayload_manifests (store : StoreState) (payload : List UInt8) :
    (store.withPayload payload).manifests = store.manifests := by
  unfold withPayload
  split <;> rfl

@[simp] theorem withPayload_artifacts (store : StoreState) (payload : List UInt8) :
    (store.withPayload payload).artifacts = store.artifacts := by
  unfold withPayload
  split <;> rfl

@[simp] theorem withPayload_readOnly (store : StoreState) (payload : List UInt8) :
    (store.withPayload payload).readOnly = store.readOnly := by
  unfold withPayload
  split <;> rfl

/-- `Put` finds the payload in the index and changes nothing, or it registers an artifact for it. -/
theorem put_cases (store : StoreState) (payload : List UInt8) (manifest : ArtifactManifest)
    (generated : Uuid) :
    (∃ existing, store.artifacts.findByHash (sha256Hex payload) = some existing ∧
      store.put payload manifest generated =
        (.ok ⟨sha256Hex payload, existing.artifactId, true⟩, store)) ∨
    (store.artifacts.findByHash (sha256Hex payload) = none ∧ store.readOnly = true ∧
      ∃ e store', store.put payload manifest generated = (.error e, store') ∧
        store'.payloads = (store.withPayload payload).payloads ∧
        store'.artifacts = store.artifacts ∧
        store'.manifests = store.manifests.insert
          (completed manifest (sha256Hex payload) payload.length generated).artifactUuid
          (completed manifest (sha256Hex payload) payload.length generated)) ∨
    (store.artifacts.findByHash (sha256Hex payload) = none ∧ store.readOnly = false ∧
      ∃ rows, store.put payload manifest generated =
        (.ok ⟨sha256Hex payload,
            (completed manifest (sha256Hex payload) payload.length generated).artifactUuid, false⟩,
          (store.withPayload payload).registered
            (completed manifest (sha256Hex payload) payload.length generated) rows)) := by
  cases hfind : store.artifacts.findByHash (sha256Hex payload) with
  -- the content is known
  | some existing => exact .inl ⟨existing, rfl, by simp only [put, hfind]⟩
  | none =>
      right
      set m := completed manifest (sha256Hex payload) payload.length generated with hm
      have hwrites : performAll ((if (store.payloads.lookup (sha256Hex payload)).isSome then []
          else [Write.payload (sha256Hex payload) payload]) ++ registration m) store =
          performAll (registration m) (store.withPayload payload) := by
        unfold withPayload
        split <;> rfl
      have hro := store.withPayload_readOnly payload
      -- the payload and the manifest are files; the row needs a writable database
      rcases performAll_registration (store.withPayload payload) m with
        ⟨hread, e, he⟩ | ⟨hwrite, rows, hrows⟩
      · left
        refine ⟨rfl, hro.symm.trans hread, e, { store.withPayload payload with
          manifests := (store.withPayload payload).manifests.insert m.artifactUuid m },
          ?_, rfl, store.withPayload_artifacts payload, ?_⟩
        · simp only [put, hfind, commit, ← hm, hwrites, he]
        · rw [← store.withPayload_manifests payload]
      · right
        refine ⟨rfl, hro.symm.trans hwrite, rows, ?_⟩
        simp only [put, hfind, commit, ← hm, hwrites, hrows]

/-- What the caller of `Put` gets depends on the index and the mode of the
database alone, and neither changes where the database is open for reading. -/
theorem put_outcome (store : StoreState) (payload : List UInt8) (manifest : ArtifactManifest)
    (generated : Uuid) :
    (store.put payload manifest generated).1.map (·.contentHash) =
        (if store.readOnly ∧ store.artifacts.findByHash (sha256Hex payload) = none then
          .error ⟨.storageReadOnly, "cannot write to a read-only project"⟩
        else .ok (sha256Hex payload)) ∧
      (store.put payload manifest generated).2.readOnly = store.readOnly ∧
      (store.readOnly = true →
        (store.put payload manifest generated).2.artifacts = store.artifacts) := by
  rcases put_cases store payload manifest generated with
    ⟨existing, hfind, hput⟩ | ⟨hfind, hread, -⟩ | ⟨hfind, hwrite, rows, hput⟩
  · rw [hput, hfind, if_neg (by simp)]
    exact ⟨rfl, rfl, fun _ => rfl⟩
  · rw [if_pos ⟨hread, hfind⟩]
    by_cases hpayload : (store.payloads.lookup (sha256Hex payload)).isSome <;>
      simp [put, hfind, hpayload, commit, registration, performAll, perform, hread, Except.map]
  · rw [hput, if_neg (by simp [hwrite])]
    refine ⟨rfl, store.withPayload_readOnly payload, fun hread => ?_⟩
    rw [hwrite] at hread
    cases hread

theorem putInstance_cases (store : StoreState) (hash : String) (manifest : ArtifactManifest)
    (generated : Uuid) :
    (store.payloads.lookup hash = none ∧ ∃ e, store.putInstance hash manifest generated =
      (.error e, store)) ∨
    (store.readOnly = true ∧ ∃ bytes e, store.payloads.lookup hash = some bytes ∧
      store.putInstance hash manifest generated = (.error e, { store with
        manifests := store.manifests.insert
          (completed manifest hash bytes.length generated).artifactUuid
          (completed manifest hash bytes.length generated) })) ∨
    (store.readOnly = false ∧ ∃ bytes rows, store.payloads.lookup hash = some bytes ∧
      store.putInstance hash manifest generated =
        (.ok ⟨hash, (completed manifest hash bytes.length generated).artifactUuid, true⟩,
          store.registered (completed manifest hash bytes.length generated) rows)) := by
  unfold putInstance
  cases hpayload : store.payloads.lookup hash with
  | none => exact .inl ⟨rfl, _, rfl⟩
  | some bytes =>
      right
      simp only [commit]
      rcases performAll_registration store (completed manifest hash bytes.length generated) with
        ⟨hread, e, he⟩ | ⟨hwrite, rows, hrows⟩
      · left
        rw [he]
        exact ⟨hread, bytes, e, rfl, rfl⟩
      · right
        rw [hrows]
        exact ⟨hwrite, bytes, rows, rfl, rfl⟩

end Writes

/-! ## Reads

`Get` returns a payload whose digest is its name; a file with another digest is
quarantined, and its row is degraded. -/

/-- The index after `Get` has degraded the row of a corrupt payload. -/
def degrade (store : StoreState) (hash : String) : StoreState :=
  match store.artifacts.findByHash hash with
  | none => store
  | some index =>
      if store.readOnly then store
      else { store with
        artifacts := store.artifacts.upsert { index with validationStatus := "degraded" } }

@[simp] theorem degrade_payloads (store : StoreState) (hash : String) :
    (store.degrade hash).payloads = store.payloads := by
  unfold degrade
  split
  · rfl
  · split <;> rfl

@[simp] theorem degrade_manifests (store : StoreState) (hash : String) :
    (store.degrade hash).manifests = store.manifests := by
  unfold degrade
  split
  · rfl
  · split <;> rfl

@[simp] theorem quarantinePayload_manifests (store : StoreState) (hash : String)
    (bytes : List UInt8) : (store.quarantinePayload hash bytes).manifests = store.manifests := by
  unfold quarantinePayload
  split <;> rfl

@[simp] theorem quarantinePayload_artifacts (store : StoreState) (hash : String)
    (bytes : List UInt8) : (store.quarantinePayload hash bytes).artifacts = store.artifacts := by
  unfold quarantinePayload
  split <;> rfl

/-- A quarantine takes one payload file at most. -/
theorem lookup_quarantinePayload_ne (store : StoreState) {hash other : String}
    (bytes : List UInt8) (hne : other ≠ hash) :
    (store.quarantinePayload hash bytes).payloads.lookup other = store.payloads.lookup other := by
  unfold quarantinePayload
  split
  · rfl
  · exact AList.lookup_erase_ne hne

theorem get_cases (store : StoreState) (hash : String) :
    (store.payloads.lookup hash = none ∧ store.get hash = (.ok none, store)) ∨
    (∃ bytes, store.payloads.lookup hash = some bytes ∧ sha256Hex bytes = hash ∧
      store.get hash = (.ok (some bytes), store)) ∨
    (∃ bytes, store.payloads.lookup hash = some bytes ∧ sha256Hex bytes ≠ hash ∧
      ∃ e, store.get hash = (.error e, (store.quarantinePayload hash bytes).degrade hash)) := by
  unfold get
  cases hpayload : store.payloads.lookup hash with
  | none => exact .inl ⟨rfl, rfl⟩
  | some bytes =>
      right
      by_cases hdigest : sha256Hex bytes = hash
      · exact .inl ⟨bytes, rfl, hdigest, if_neg (not_not_intro hdigest)⟩
      · right
        refine ⟨bytes, rfl, hdigest, ?_⟩
        simp only [ne_eq, hdigest, not_false_eq_true, if_true]
        cases hfind : store.artifacts.findByHash hash with
        | none =>
            simp [degrade, hfind, performAll]
        | some index =>
            cases hro : (store.quarantinePayload hash bytes).readOnly <;>
              simp [degrade, hfind, hro, performAll, perform]

/-- An intact payload is returned, and nothing changes. -/
theorem get_of_intact {store : StoreState} {hash : String} {bytes : List UInt8}
    (hpayload : store.payloads.lookup hash = some bytes) (hdigest : sha256Hex bytes = hash) :
    store.get hash = (.ok (some bytes), store) := by
  simp [get, hpayload, hdigest]

/-- What `Get` returns is the payload file, with the digest of its name. -/
theorem get_eq_ok_some {store : StoreState} {hash : String} {bytes : List UInt8} :
    (store.get hash).1 = .ok (some bytes) ↔
      store.payloads.lookup hash = some bytes ∧ sha256Hex bytes = hash := by
  constructor
  · intro h
    rcases store.get_cases hash with ⟨_, hget⟩ | ⟨found, hfound, hdigest, hget⟩ | ⟨_, _, _, e, hget⟩
    · rw [hget] at h
      cases h
    · rw [hget] at h
      cases h
      exact ⟨hfound, hdigest⟩
    · rw [hget] at h
      cases h
  · intro ⟨hpayload, hdigest⟩
    rw [get_of_intact hpayload hdigest]

/-- What a task body sees of the store. -/
def view (store : StoreState) : ArtifactStore := ⟨fun hash => .ok (store.payloads.lookup hash)⟩

/-- A task body reads through `view` what the store returns. -/
theorem view_get {store : StoreState} (hrw : store.readOnly = false) (hash : String) :
    store.view.get hash = (store.get hash).1 := by
  cases hpayload : store.payloads.lookup hash with
  | none => simp [ArtifactStore.get, view, get, hpayload, bind, Except.bind, pure, Except.pure]
  | some bytes =>
      by_cases hdigest : sha256Hex bytes = hash
      · rw [get_of_intact hpayload hdigest]
        simp [ArtifactStore.get, view, hpayload, hdigest, bind, Except.bind, pure, Except.pure]
      · have hro : (store.quarantinePayload hash bytes).readOnly = false := by
          unfold quarantinePayload
          split <;> exact hrw
        cases hfind : store.artifacts.findByHash hash <;>
          simp [ArtifactStore.get, view, get, hpayload, hdigest, hfind, hro, performAll, perform,
            bind, Except.bind, throw, throwThe, MonadExceptOf.throw]

/-- A hash that `Put` returns is the one a task body is given. -/
theorem put_contentHash {store store' : StoreState} {payload : List UInt8}
    {manifest : ArtifactManifest} {generated : Uuid} {result : ArtifactWriteResult}
    (h : store.put payload manifest generated = (.ok result, store')) :
    result.contentHash = ArtifactStore.put payload := by
  rcases store.put_cases payload manifest generated with
    ⟨_, _, hput⟩ | ⟨_, _, _, _, hput, _⟩ | ⟨_, _, _, hput⟩ <;> rw [hput] at h <;> cases h <;> rfl

/-! ## Collections

What a collection leaves of each map. -/

@[simp] theorem lookup_singleton {K V : Type} [DecidableEq K] (k : K) (v : V) :
    (AList.singleton k v : AList fun _ : K => V).lookup k = some v := by
  rw [← AList.insert_empty, AList.lookup_insert]

theorem lookup_foldl_erase {K V : Type} [DecidableEq K] (keys : List K)
    (files : AList fun _ : K => V) (k : K) :
    (keys.foldl (fun files k => files.erase k) files).lookup k =
      if k ∈ keys then none else files.lookup k := by
  induction keys generalizing files with
  | nil => simp
  | cons head rest ih =>
      rw [List.foldl_cons, ih]
      by_cases hk : k = head
      · subst hk
        simp
      · simp [hk, AList.lookup_erase_ne hk]

/-- A collection removes the payloads that no row names. -/
theorem lookup_payloads_collected (store : StoreState) (hash : String) :
    (store.garbageCollect false).2.payloads.lookup hash =
      if store.isReferenced hash then store.payloads.lookup hash else none := by
  show (store.unreferenced.foldl _ store.payloads).lookup hash = _
  rw [lookup_foldl_erase]
  by_cases href : store.isReferenced hash = true
  · simp [unreferenced, href]
  · by_cases hkey : hash ∈ store.payloads
    · simp [unreferenced, href, AList.mem_keys.mp hkey]
    · simp [href, AList.lookup_eq_none.mpr hkey]

/-- A collection removes the manifests whose payload no row names. -/
theorem lookup_manifests_collected (store : StoreState) (uuid : Uuid) :
    (store.garbageCollect false).2.manifests.lookup uuid =
      (store.manifests.lookup uuid).filter fun manifest =>
        store.isReferenced manifest.contentHash := by
  show (store.dangling.foldl _ store.manifests).lookup uuid = _
  rw [lookup_foldl_erase]
  cases hlookup : store.manifests.lookup uuid with
  | none => simp
  | some manifest =>
      have hkey : uuid ∈ store.manifests.keys := by
        apply AList.mem_keys.mp
        apply AList.lookup_isSome.mp
        rw [hlookup]
        rfl
      by_cases href : store.isReferenced manifest.contentHash = true <;>
        simp [dangling, readManifest, hlookup, href, hkey, Option.filter]

end StoreState

/-! ## Histories -/

/-- An operation on the store, or a corruption of a payload file that its digest shows. -/
inductive StoreOp where
  | put (payload : List UInt8) (manifest : ArtifactManifest) (generated : Uuid)
  | putInstance (contentHash : String) (manifest : ArtifactManifest) (generated : Uuid)
  | get (contentHash : String)
  | garbageCollect (dryRun : Bool)
  | corrupt (contentHash : String) (bytes : List UInt8)

/-- The store after an operation. Only a file that is there can be corrupted. -/
def StoreOp.step (store : StoreState) : StoreOp → Option StoreState
  | .put payload manifest generated => some (store.put payload manifest generated).2
  | .putInstance contentHash manifest generated =>
      some (store.putInstance contentHash manifest generated).2
  | .get contentHash => some (store.get contentHash).2
  | .garbageCollect dryRun => some (store.garbageCollect dryRun).2
  | .corrupt contentHash bytes =>
      if (store.payloads.lookup contentHash).isSome ∧ sha256Hex bytes ≠ contentHash then
        some { store with payloads := store.payloads.insert contentHash bytes }
      else none

end SpatialPlatform.Core
