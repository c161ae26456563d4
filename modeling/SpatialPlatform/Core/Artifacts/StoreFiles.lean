import SpatialPlatform.Core.Artifacts.ManifestText
import SpatialPlatform.Core.Utils.Fs

/-!
# The artifact store by path

`core/artifacts/artifact_store.{h,cpp}` with the paths at which payloads and
manifests lie, and with every call of the file system. In `StoreState.lean` a
content reference finds a payload or none; here it is any text, and takes part
in the paths as it is.
-/

namespace SpatialPlatform.Core

open SpatialPlatform.Lib

/-- The tables of `project.db` that the store keeps. -/
structure StoreTables where
  artifacts : ArtifactTable := .empty
  dependencies : List ArtifactDependency := []

abbrev StoreDisk := Disk StoreTables

/-- A call of the store. -/
abbrev StoreCall := Persist StoreDisk ProjectError

/-- A text as it is bound to a statement: up to the first NUL. -/
def columnText (text : String) : String :=
  String.ofList (text.toList.takeWhile (· ≠ '\x00'))

/-- `ArtifactStore`: the artifacts directory, and whether its database is open for reading only. -/
structure StoreHandle where
  root : Location
  readOnly : Bool := false

namespace StoreHandle

variable (h : StoreHandle)

/-! ## Paths -/

def kCasDir : String := "cas"

def kQuarantineDir : String := "quarantine"

/-- `artifacts_root_`. -/
def artifactsRoot : Path := ⟨h.root, []⟩

def casRoot : Path := h.artifactsRoot / kCasDir

def quarantineRoot : Path := h.artifactsRoot / kQuarantineDir

/-- `substr(0, 2)`. -/
def shard (hash : String) : String := String.ofList (hash.toList.take 2)

/-- `PayloadPath`. -/
def payloadPath (hash : String) : Path := h.casRoot / shard hash / hash

/-- `ManifestDir`. -/
def manifestDir (uuid : Uuid) : Path := h.artifactsRoot / formatUuid uuid

/-- `ManifestPath`. -/
def manifestPath (uuid : Uuid) : Path := h.manifestDir uuid / "manifest.json"

/-- Where `Get` moves a corrupt payload. -/
def corruptPath (hash : String) : Path := h.quarantineRoot / (hash ++ ".corrupt")

/-! ## The database -/

def readOnlyError : ProjectError := ⟨.storageReadOnly, "cannot write to a read-only project"⟩

/-- `FindArtifactByHash`. -/
def findArtifactByHash (hash : String) (disk : StoreDisk) : Option ArtifactIndexRow :=
  disk.tables.artifacts.findByHash (columnText hash)

/-- `IsReferenced`. -/
def isReferenced (hash : String) (disk : StoreDisk) : Bool := (findArtifactByHash hash disk).isSome

/-- `UpsertArtifact`. -/
def upsertArtifact (row : ArtifactIndexRow) : StoreCall Unit := Persist.write fun disk =>
  if h.readOnly then .error readOnlyError
  else
    let row := { row with contentHash := columnText row.contentHash }
    .ok { disk with tables.artifacts := disk.tables.artifacts.upsert row }

/-- `RecordDependency`. -/
def recordDependency (inputHash outputHash role : String) : StoreCall Unit :=
  Persist.write fun disk =>
    if h.readOnly then .error readOnlyError
    else
      let new : ArtifactDependency := ⟨columnText inputHash, columnText outputHash, role⟩
      let others := disk.tables.dependencies.filter fun old =>
        old.inputHash ≠ new.inputHash ∨ old.outputHash ≠ new.outputHash
      .ok { disk with tables.dependencies := others ++ [new] }

/-! ## Operations

The operations of the store on a file tree, call by call of the file system. The
database is a part of the disk that is written in one step. -/

/-- The constructor. -/
def openStore : StoreCall Unit := do
  Fs.createDirectories h.casRoot
  Fs.createDirectories h.quarantineRoot

/-- Write the manifest of an artifact, its row and its edges. -/
def register (json : JsonLibrary) (manifest : ArtifactManifest) : StoreCall Unit := do
  Fs.createDirectories (h.manifestDir manifest.artifactUuid)
  Fs.atomicWrite (h.manifestPath manifest.artifactUuid)
    (stringBytes (manifest.toJsonString json))
  h.upsertArtifact (StoreState.indexRow manifest)
  Persist.each (fun input => h.recordDependency input manifest.contentHash "input")
    manifest.inputArtifactHashes

/-- `Put`; `generated` is what `GenerateUuid` returns. -/
def put (json : JsonLibrary) (payload : List UInt8) (manifest : ArtifactManifest)
    (generated : Uuid) : StoreCall ArtifactWriteResult := do
  let hash := sha256Hex payload
  let existing ← Persist.read (findArtifactByHash hash)
  match existing with
  | some row => return ⟨hash, row.artifactId, true⟩
  | none =>
      let present ← Fs.exists (h.payloadPath hash)
      if present then pure () else Fs.atomicWrite (h.payloadPath hash) payload
      let manifest := StoreState.completed manifest hash payload.length generated
      h.register json manifest
      return ⟨hash, manifest.artifactUuid, false⟩

/-- The manifest of `PutInstance`; a path that has no size leaves that of the caller. -/
def instanceManifest (hash : String) (manifest : ArtifactManifest) (generated : Uuid)
    (disk : StoreDisk) : ArtifactManifest :=
  let completed := StoreState.completed manifest hash 0 generated
  match disk.tree.find (h.payloadPath hash) with
  | some (_, bytes) => { completed with fileSize := Int64.ofNat bytes.length }
  | none => { completed with fileSize := manifest.fileSize }

/-- `PutInstance`. -/
def putInstance (json : JsonLibrary) (existingContentHash : String) (manifest : ArtifactManifest)
    (generated : Uuid) : StoreCall ArtifactWriteResult := do
  let present ← Fs.exists (h.payloadPath existingContentHash)
  if present then
    let manifest ← Persist.read (h.instanceManifest existingContentHash manifest generated)
    h.register json manifest
    return ⟨existingContentHash, manifest.artifactUuid, true⟩
  else
    Persist.fail ⟨.artifactMissing, "shared payload not in store: " ++ existingContentHash⟩

/-- Move a corrupt payload away, unless an earlier one of that name has been moved. -/
def quarantine (hash : String) : StoreCall Unit := do
  Fs.createDirectories h.quarantineRoot
  let taken ← Fs.exists (h.corruptPath hash)
  if taken then pure () else Fs.rename (h.payloadPath hash) (h.corruptPath hash)

/-- Mark the row of a corrupt payload. -/
def degrade (hash : String) : StoreCall Unit := do
  let index ← Persist.read (findArtifactByHash hash)
  match index with
  | none => pure ()
  | some row => h.upsertArtifact { row with validationStatus := "degraded" }

/-- `Get`. -/
def get (hash : String) : StoreCall (Option (List UInt8)) := do
  let present ← Fs.exists (h.payloadPath hash)
  if present then
    let bytes ← Fs.readFile (h.payloadPath hash)
    if sha256Hex bytes = hash then return some bytes
    else
      h.quarantine hash
      h.degrade hash
      Persist.fail
        ⟨.artifactHashMismatch, "artifact integrity check failed for hash: " ++ hash⟩
  else return none

/-- `ReadManifest`. The text is decoded as UTF-8; what is none is no JSON either. -/
def readManifest (json : JsonLibrary) (uuid : Uuid) :
    Persist StoreDisk StoreException (Option ArtifactManifest) := do
  let present ← (Fs.exists (h.manifestPath uuid)).mapError .project
  if present then
    let bytes ← (Fs.readFile (h.manifestPath uuid)).mapError .project
    let text := (String.fromUTF8? ⟨bytes.toArray⟩).getD ""
    match ArtifactManifest.fromJsonString json text with
    | .ok manifest => return some manifest
    | .error e => Persist.fail e
  else return none

/-! ## Garbage collection

First everything is read, then the payloads without a row are removed, and then
the manifests. -/

/-- The names of all payload files. -/
def onDisk (disk : StoreDisk) : List String :=
  (((Fs.listDirectories h.casRoot disk).flatMap fun shard =>
    Fs.listFiles (h.casRoot / shard) disk).dedup).insertionSort (· ≤ ·)

/-- The payload files that no row names. -/
def unreferenced (disk : StoreDisk) : List String :=
  (h.onDisk disk).filter fun hash => !isReferenced hash disk

/-- The directories among `names` whose manifest names a hash that no row has. -/
def dangling (json : JsonLibrary) : List String → Persist StoreDisk StoreException (List String)
  | [] => pure []
  | name :: names =>
      if name = kCasDir ∨ name = kQuarantineDir then dangling json names
      else match parseUuid name with
        | .error _ => dangling json names
        | .ok uuid => do
            let manifest ← h.readManifest json uuid
            let lost ← Persist.read fun disk =>
              manifest.any fun manifest => !isReferenced manifest.contentHash disk
            let rest ← dangling json names
            return if lost then name :: rest else rest

/-- Remove a payload that no row names. -/
def sweep (hash : String) : StoreCall Unit := do
  let present ← Fs.exists (h.payloadPath hash)
  if present then
    let quarantined := h.quarantineRoot / (hash ++ ".gc")
    Fs.rename (h.payloadPath hash) quarantined
    Fs.removeAll quarantined
  else pure ()

/-- The second half of `GarbageCollect`. -/
def collect (plan : GcPlan) : StoreCall Unit := do
  Fs.createDirectories h.quarantineRoot
  Persist.each h.sweep plan.unreferencedHashes
  Persist.each (fun name => Fs.removeAll (h.artifactsRoot / name)) plan.danglingManifests

/-- `GarbageCollect`. -/
def garbageCollect (json : JsonLibrary) (dryRun : Bool) : Persist StoreDisk StoreException GcPlan := do
  let unreferencedHashes ← Persist.read h.unreferenced
  let names ← Persist.read (Fs.listDirectories h.artifactsRoot)
  let danglingManifests ← h.dangling json names
  let plan : GcPlan := ⟨unreferencedHashes, danglingManifests⟩
  if dryRun then return plan
  else
    (h.collect plan).mapError .project
    return plan

/-! ## A `Put` that is cut off

The same operations as lists of moments, at each of which the process may end.
Run to the end they are the operations. -/

/-- `register`, step by step. -/
def registerSteps (json : JsonLibrary) (manifest : ArtifactManifest) :
    Fs.DiskSteps StoreTables Unit := do
  Fs.createDirectoriesSteps (h.manifestDir manifest.artifactUuid)
  Fs.atomicWriteSteps (h.manifestPath manifest.artifactUuid)
    (stringBytes (manifest.toJsonString json))
  Steps.atomic (h.upsertArtifact (StoreState.indexRow manifest))
  Steps.each (fun input => Steps.atomic (h.recordDependency input manifest.contentHash "input"))
    manifest.inputArtifactHashes

/-- The payload of a `Put`, unless it is there already. -/
def writePayloadSteps (payload : List UInt8) : Fs.DiskSteps StoreTables Unit := do
  let present ← Steps.read fun disk => disk.tree.exists (h.payloadPath (sha256Hex payload))
  if present then pure () else Fs.atomicWriteSteps (h.payloadPath (sha256Hex payload)) payload

/-- `put`, step by step. -/
def putSteps (json : JsonLibrary) (payload : List UInt8) (manifest : ArtifactManifest)
    (generated : Uuid) : Fs.DiskSteps StoreTables ArtifactWriteResult := do
  let hash := sha256Hex payload
  let existing ← Steps.read (findArtifactByHash hash)
  match existing with
  | some row => return ⟨hash, row.artifactId, true⟩
  | none =>
      h.writePayloadSteps payload
      let manifest := StoreState.completed manifest hash payload.length generated
      h.registerSteps json manifest
      return ⟨hash, manifest.artifactUuid, false⟩

theorem registerSteps_run (json : JsonLibrary) (manifest : ArtifactManifest) :
    (h.registerSteps json manifest).run = h.register json manifest := by
  simp only [registerSteps, register, Steps.run_bind, Steps.run_each, Steps.run_atomic,
    Fs.run_createDirectoriesSteps, Fs.run_atomicWriteSteps]

/-- Nothing but the moments is added. -/
theorem putSteps_run (json : JsonLibrary) (payload : List UInt8) (manifest : ArtifactManifest)
    (generated : Uuid) :
    (h.putSteps json payload manifest generated).run = h.put json payload manifest generated := by
  have hpayload : (h.writePayloadSteps payload).run =
      Fs.exists (h.payloadPath (sha256Hex payload)) >>= fun present =>
        if present then pure () else
          Fs.atomicWrite (h.payloadPath (sha256Hex payload)) payload := by
    simp only [writePayloadSteps, Steps.run_bind, Steps.run_ite, Steps.run_read, Steps.run_pure,
      Fs.run_atomicWriteSteps]
    congr 1
  simp only [putSteps, put, Steps.run_bind, Steps.run_read]
  congr 1
  funext existing
  cases existing with
  | some row => rfl
  | none =>
      simp only [Steps.run_bind, Steps.run_pure, hpayload, h.registerSteps_run, Persist.bind_assoc]
      congr 1
      funext present
      cases present with
      | true => rw [if_pos rfl, if_pos rfl, Persist.pure_bind]
      | false => rw [if_neg Bool.false_ne_true, if_neg Bool.false_ne_true]

end StoreHandle

end SpatialPlatform.Core
