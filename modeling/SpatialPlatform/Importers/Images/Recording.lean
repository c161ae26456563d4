import SpatialPlatform.Importers.Images.ImageImporter
import SpatialPlatform.Lib.Batch

/-!
# What an import records

The abstract side of an import: a file comes to a verdict that no other file of
the batch changes, and the database is seen without the identifiers that are
generated. `importFile_refines` to `importBatch_refines` follow the importer
down to its inserts.
-/

namespace SpatialPlatform.Core

/-- A frame without the identifiers of its batch. -/
def FrameRow.erased (row : FrameRow) : FrameRow := { row with sceneId := .nil, sessionId := .nil }

/-- An observation without the identifiers of its batch and its artifact. -/
def ObservationRow.erased (row : ObservationRow) : ObservationRow :=
  { row with sceneId := .nil, sessionId := .nil, artifactRef := "" }

end SpatialPlatform.Core

namespace SpatialPlatform.Importers

open SpatialPlatform.Core SpatialPlatform.Lib

/-- An entry without its artifact. -/
def ImageImportEntry.erased (entry : ImageImportEntry) : ImageImportEntry :=
  { entry with artifactUuid := .nil }

/-- An image that passes the checks, before the database is asked for its identity. -/
structure Candidate where
  entry : ImageImportEntry
  sensorId : Uuid
  timestampNs : Int64
  deriving DecidableEq

/-- A file is rejected, or it has an image. -/
abbrev Verdict := Except ImageImportFailure Candidate

/-- The outcome of a file, for the result of `Import`. -/
abbrev Outcome := Except ImageImportFailure ImageImportEntry

/-- The parts of a database that an import reads and writes, without generated identifiers. -/
structure Recorded where
  indexed : String → Bool
  stored : String → Bool
  frames : List FrameRow
  observations : List ObservationRow
  payloadRows : List ObservationPayloadRow

/-- A database, without generated identifiers. -/
def recorded (db : ProjectTables) : Recorded where
  indexed hash := db.store.isReferenced hash
  stored hash := (db.store.payloads.lookup hash).isSome
  frames := db.frames.map (·.erased)
  observations := db.observations.map (·.row.erased)
  payloadRows := db.payloadRows

namespace Recorded

/-- The observation is there. -/
def observed (s : Recorded) (observationId : Uuid) : Bool :=
  s.observations.any (·.observationId = observationId)

/-- A payload and its artifact are written. -/
def withPayload (s : Recorded) (hash : String) : Recorded :=
  { s with
    indexed := fun h => h = hash || s.indexed h
    stored := fun h => h = hash || s.stored h }

end Recorded

namespace ImageImporter

variable (importer : ImageImporter)

/-- The image of a file whose bytes and header are read. -/
def candidate (db : ProjectTables) (file : ImageSourceFile) (bytes : List UInt8)
    (header : ImageHeaderInfo) : Candidate where
  entry :=
    { frameId := importer.deriveFrameId file.sensorId file.timestampNs (sha256Hex bytes)
      observationId := importer.deriveObservationId file.sensorId file.timestampNs (sha256Hex bytes)
      contentHash := sha256Hex bytes
      mimeType := header.mimeType
      width := header.width
      height := header.height
      pixelFormat := header.pixelFormat
      uncalibrated :=
        (db.calibrations.resolveCalibrationAt file.sensorId file.timestampNs).isNone }
  sensorId := file.sensorId
  timestampNs := file.timestampNs

/-- The checks of `ProcessFile`, on a file and what reading it gives. -/
def assess (db : ProjectTables) (file : ImageSourceFile)
    (read : Except ProjectError (List UInt8)) : Verdict :=
  let uri := if file.sourceUri = "" then file.path else file.sourceUri
  match read with
  | .error e => .error ⟨uri, .importUnreadable, e.message⟩
  | .ok bytes =>
      let format := importer.detectImageFormat bytes
      if format = .unknown ∨ format ∉ importer.allowlist then
        .error ⟨uri, .importUnsupportedFormat, "format not in the import allowlist"⟩
      else match (importer.parseImageHeader bytes).filter fun header =>
          ¬ (header.width < 1 ∨ header.height < 1 ∨ header.pixelFormat = "") with
        | none => .error ⟨uri, .importCorrupt, "header is truncated or has no image geometry"⟩
        | some header =>
            if !db.hasSensor file.sensorId then
              .error ⟨uri, .importSensorUnresolved,
                "no registered sensor: " ++ formatUuid file.sensorId⟩
            else if file.timestampNs = 0 then
              .error ⟨uri, .importTimestampUnresolvable,
                "capture time cannot resolve to the platform time domain"⟩
            else .ok (importer.candidate db file bytes header)

/-- An image is recorded at a position; without an entry, the import ends with an error. -/
def recordImage (c : Candidate) (i : Nat) (s : Recorded) : Option ImageImportEntry × Recorded :=
  if s.observed c.entry.observationId then (some { c.entry with reimported := true }, s)
  else if s.indexed c.entry.contentHash && !s.stored c.entry.contentHash then (none, s)
  else if s.frames.any (·.frameId = c.entry.frameId) then
    (none, s.withPayload c.entry.contentHash)
  else
    let t : Recorded := { s.withPayload c.entry.contentHash with
      frames := s.frames ++ [
        { frameId := c.entry.frameId
          sceneId := .nil
          timestampNs := c.timestampNs
          sequenceIndex := i
          sensorId := c.sensorId }]
      observations := s.observations ++ [
        { observationId := c.entry.observationId
          sceneId := .nil
          sensorId := c.sensorId
          frameId := c.entry.frameId
          timestampNs := c.timestampNs
          type := "image"
          sourceJson := importer.producerJson
          propertiesJson := importer.propertiesJson }] }
    if s.payloadRows.any (·.observationId = c.entry.observationId) then (none, t)
    else (some { c.entry with newInstance := s.indexed c.entry.contentHash },
      { t with
        payloadRows := s.payloadRows ++ [
          { observationId := c.entry.observationId
            width := c.entry.width
            height := c.entry.height
            pixelFormat := c.entry.pixelFormat }] })

/-- A file is recorded at a position. -/
def recordFile : BatchStep Verdict Outcome Recorded := fun v i s =>
  match v with
  | .error failure => (some (.error failure), s)
  | .ok c => ((importer.recordImage c i s).1.map .ok, (importer.recordImage c i s).2)

/-- The outcome of a file that is rejected, or whose image is known. -/
def settledOutcome : Verdict → Outcome
  | .error failure => .error failure
  | .ok c => .ok { c.entry with reimported := true }

/-! ## The importer records its files

The record says what an import leaves, without tables. Here the inserts are run
on a database that is ready for them, each with what it leaves; the ones that
can fail name the row that stands in their way. -/

/-- The identifiers that are generated for `n` files differ. -/
structure Distinct (inputs : Nat → FileInputs) (n : Nat) : Prop where
  rejections : ∀ i < n, ∀ j < n, (inputs i).rejectionId = (inputs j).rejectionId → i = j
  artifacts : ∀ i < n, ∀ j < n, (inputs i).artifactUuid = (inputs j).artifactUuid → i = j

/-- A database in which a batch of `n` files is open, at a position of its files. -/
structure Ready (batch : Batch) (inputs : Nat → FileInputs) (n i : Nat) (db : ProjectTables) :
    Prop where
  writable : db.store.readOnly = false
  project : db.hasProject importer.projectId
  scene : db.hasScene batch.sceneId
  session : db.hasSession batch.sessionId
  rejections : ∀ j, i ≤ j → j < n → ∀ row ∈ db.rejections,
    row.rejectionId ≠ (inputs j).rejectionId
  artifacts : ∀ j, i ≤ j → j < n → ∀ row ∈ db.store.artifacts.rows,
    row.artifactId ≠ (inputs j).artifactUuid

section Store

variable {store : StoreState} {manifest : ArtifactManifest} {hash : String}

/-- A new artifact indexes its hash, and displaces none of another hash. -/
theorem isReferenced_registered (hfresh : ∀ row ∈ store.artifacts.rows,
    row.artifactId ≠ manifest.artifactUuid) (hhash : manifest.contentHash = hash)
    (dependencies : List ArtifactDependency) (h : String) :
    (store.registered manifest dependencies).isReferenced h =
      (decide (h = hash) || store.isReferenced h) := by
  rw [Bool.eq_iff_iff, Bool.or_eq_true, decide_eq_true_eq]
  simp only [StoreState.isReferenced, Option.isSome_iff_exists, ArtifactTable.findByHash_eq_some,
    StoreState.registered, ArtifactTable.mem_upsert]
  constructor
  · rintro ⟨row, hrow, hrowHash⟩
    rcases hrow with rfl | ⟨hold, _, _⟩
    · exact .inl (hrowHash.symm.trans hhash)
    · exact .inr ⟨row, hold, hrowHash⟩
  · intro hcases
    by_cases heq : h = hash
    · exact ⟨StoreState.indexRow manifest, .inl rfl, hhash.trans heq.symm⟩
    · obtain ⟨row, hrow, hrowHash⟩ := hcases.resolve_left heq
      refine ⟨row, .inr ⟨hrow, hfresh row hrow, ?_⟩, hrowHash⟩
      intro hsame
      exact heq (hrowHash.symm.trans (hsame.trans hhash))

/-- Everything that a recorded payload changes in the store. -/
structure Written (store store' : StoreState) (hash : String) (artifactUuid : Uuid) : Prop where
  writable : store'.readOnly = store.readOnly
  indexed : ∀ h, store'.isReferenced h = (decide (h = hash) || store.isReferenced h)
  stored : ∀ h, (store'.payloads.lookup h).isSome =
    (decide (h = hash) || (store.payloads.lookup h).isSome)
  rows : ∀ row ∈ store'.artifacts.rows, row ∈ store.artifacts.rows ∨ row.artifactId = artifactUuid

theorem mem_registered {row : ArtifactIndexRow} {dependencies : List ArtifactDependency}
    (h : row ∈ (store.registered manifest dependencies).artifacts.rows) :
    row ∈ store.artifacts.rows ∨ row.artifactId = manifest.artifactUuid := by
  rcases ArtifactTable.mem_upsert.mp h with rfl | ⟨hold, _, _⟩
  · exact .inr rfl
  · exact .inl hold

theorem isSome_lookup_withPayload (store : StoreState) (bytes : List UInt8) (h : String) :
    ((store.withPayload bytes).payloads.lookup h).isSome =
      (decide (h = sha256Hex bytes) || (store.payloads.lookup h).isSome) := by
  unfold StoreState.withPayload
  by_cases hstored : (store.payloads.lookup (sha256Hex bytes)).isSome = true
  · rw [if_pos hstored]
    by_cases heq : h = sha256Hex bytes
    · rw [heq, hstored, Bool.or_true]
    · simp [heq]
  · rw [if_neg hstored]
    by_cases heq : h = sha256Hex bytes
    · rw [heq]
      simp
    · simp [heq, AList.lookup_insert_ne heq]

/-- The payload write of a new image: it ends where the payload file of an indexed hash is missing. -/
theorem writePayload_cases {db : ProjectTables} {bytes : List UInt8} {artifactUuid : Uuid}
    (hwritable : db.store.readOnly = false)
    (hfresh : ∀ row ∈ db.store.artifacts.rows, row.artifactId ≠ artifactUuid)
    (hmanifest : manifest.artifactUuid = .nil) :
    ((db.store.isReferenced (sha256Hex bytes) && !(db.store.payloads.lookup
        (sha256Hex bytes)).isSome) = true ∧
      ∃ e, writePayload bytes manifest artifactUuid (db.store.isReferenced (sha256Hex bytes)) db =
        (.error e, db)) ∨
    ((db.store.isReferenced (sha256Hex bytes) && !(db.store.payloads.lookup
        (sha256Hex bytes)).isSome) = false ∧
      ∃ written store', writePayload bytes manifest artifactUuid
          (db.store.isReferenced (sha256Hex bytes)) db = (.ok written, { db with store := store' }) ∧
        written.contentHash = sha256Hex bytes ∧
        Written db.store store' (sha256Hex bytes) artifactUuid) := by
  have huuid : ∀ size, (StoreState.completed manifest (sha256Hex bytes) size
      artifactUuid).artifactUuid = artifactUuid := by
    intro size
    simp [StoreState.completed, hmanifest]
  unfold writePayload ProjectTables.onStore Persist.within
  cases hindexed : db.store.isReferenced (sha256Hex bytes) with
  | true =>
      -- a row has the content already: a further instance is registered, if the payload is there
      rcases db.store.putInstance_cases (sha256Hex bytes) manifest artifactUuid with
        ⟨hnone, e, hput⟩ | ⟨hro, _⟩ | ⟨_, found, rows, hfound, hput⟩
      · left
        simp only [if_true, hput, hnone]
        exact ⟨rfl, e, rfl⟩
      · rw [hwritable] at hro
        exact (nomatch hro)
      · right
        simp only [if_true, hput, hfound]
        refine ⟨rfl, _, _, rfl, rfl, rfl, ?_, ?_, ?_⟩
        · apply isReferenced_registered _ rfl
          rw [huuid]
          exact hfresh
        · intro h
          show (db.store.payloads.lookup h).isSome = _
          by_cases heq : h = sha256Hex bytes
          · rw [heq, hfound]
            simp
          · simp [heq]
        · intro row hrow
          have hcases := mem_registered hrow
          rwa [huuid] at hcases
  | false =>
      -- new content is put into the store
      rcases db.store.put_cases bytes manifest artifactUuid with
        ⟨existing, hfind, _⟩ | ⟨_, hro, _⟩ | ⟨_, _, rows, hput⟩
      · simp [StoreState.isReferenced, hfind] at hindexed
      · rw [hwritable] at hro
        exact (nomatch hro)
      · right
        simp only [hput, Bool.false_eq_true, if_false]
        refine ⟨rfl, _, _, rfl, rfl, ?_, ?_, ?_, ?_⟩
        · exact StoreState.withPayload_readOnly _ _
        · intro h
          refine (@isReferenced_registered _ _ (sha256Hex bytes) ?_ rfl rows h).trans ?_
          · rw [huuid, StoreState.withPayload_artifacts]
            exact hfresh
          · simp only [StoreState.isReferenced, StoreState.withPayload_artifacts]
        · exact isSome_lookup_withPayload db.store bytes
        · intro row hrow
          have hcases := mem_registered hrow
          rwa [huuid, StoreState.withPayload_artifacts] at hcases

end Store

section Rows

variable {batch : Batch} {file : ImageSourceFile} {bytes : List UInt8} {header : ImageHeaderInfo}
  {db : ProjectTables} {frameId observationId : Uuid}

theorem insertRow_ok {what key : String} {inserted : ProjectTables} {duplicate : Bool}
    {references : List Bool} (hwritable : db.store.readOnly = false) (hnew : duplicate = false)
    (hfound : ∀ found ∈ references, found = true) :
    ProjectTables.insertRow what key db duplicate references inserted = .ok inserted := by
  have hall : references.any (!·) = false := by
    rw [List.any_eq_false]
    intro found hmem
    rw [hfound found hmem]
    simp
  simp [ProjectTables.insertRow, hwritable, hnew, hall]

theorem insertRow_duplicate {what key : String} {inserted : ProjectTables}
    {references : List Bool} (hwritable : db.store.readOnly = false) :
    ∃ e, ProjectTables.insertRow what key db true references inserted = .error e := by
  simp [ProjectTables.insertRow, hwritable]

theorem insertRow_readOnly {what key : String} {inserted : ProjectTables} {duplicate : Bool}
    {references : List Bool} (hreadOnly : db.store.readOnly = true) :
    ProjectTables.insertRow what key db duplicate references inserted =
      .error ⟨.storageReadOnly, "cannot write to a read-only project"⟩ := by
  simp [ProjectTables.insertRow, hreadOnly]

theorem write_of_ok {insert : ProjectTables → Except ProjectError ProjectTables}
    {db' : ProjectTables} (h : insert db = .ok db') : Persist.write insert db = (.ok (), db') := by
  simp only [Persist.write, h]

theorem write_of_error {insert : ProjectTables → Except ProjectError ProjectTables}
    {e : ProjectError} (h : insert db = .error e) : Persist.write insert db = (.error e, db) := by
  simp only [Persist.write, h]

/-- The frame of an image, as `ProcessFile` inserts it. -/
def frameOf (batch : Batch) (file : ImageSourceFile) (i : Nat) (frameId : Uuid) : FrameRow where
  frameId
  sceneId := batch.sceneId
  sessionId := batch.sessionId
  timestampNs := file.timestampNs
  sequenceIndex := i
  sensorId := file.sensorId

/-- The observation of an image, as `ProcessFile` inserts it. -/
def observationOf (batch : Batch) (file : ImageSourceFile) (bytes : List UInt8)
    (frameId observationId artifactUuid : Uuid) : ImportedObservation where
  row :=
    { observationId
      sceneId := batch.sceneId
      sensorId := file.sensorId
      frameId
      sessionId := batch.sessionId
      timestampNs := file.timestampNs
      type := "image"
      artifactRef := formatUuid artifactUuid
      sourceJson := importer.producerJson
      propertiesJson := importer.propertiesJson }
  bytes

/-- The database with the frame and the observation of an image. -/
def withImage (db : ProjectTables) (frame : FrameRow) (observation : ImportedObservation) :
    ProjectTables :=
  { db with
    frames := db.frames ++ [frame]
    observations := db.observations ++ [observation] }

/-- The inserts of a new image: a frame or a payload row that is there already ends them. -/
theorem importRows_cases (hwritable : db.store.readOnly = false) (hscene : db.hasScene batch.sceneId)
    (hsensor : db.hasSensor file.sensorId) (hnew : db.observationExists observationId = false)
    (i : Nat) (artifactUuid : Uuid) :
    (db.frameExists frameId = true ∧
      ∃ e, importer.importRows batch file bytes header i frameId observationId artifactUuid db =
        (.error e, db)) ∨
    (db.frameExists frameId = false ∧
      db.payloadRows.any (·.observationId = observationId) = true ∧
      ∃ e, importer.importRows batch file bytes header i frameId observationId artifactUuid db =
        (.error e, withImage db (frameOf batch file i frameId)
          (importer.observationOf batch file bytes frameId observationId artifactUuid))) ∨
    (db.frameExists frameId = false ∧
      db.payloadRows.any (·.observationId = observationId) = false ∧
      importer.importRows batch file bytes header i frameId observationId artifactUuid db =
        (.ok (), { withImage db (frameOf batch file i frameId)
            (importer.observationOf batch file bytes frameId observationId artifactUuid) with
          payloadRows := db.payloadRows ++ [⟨observationId, header.width, header.height,
            header.pixelFormat⟩] })) := by
  set frame := frameOf batch file i frameId with hframe
  set observation := importer.observationOf batch file bytes frameId observationId artifactUuid
    with hobservation
  have hrun : importer.importRows batch file bytes header i frameId observationId artifactUuid = (do
      Persist.write (ProjectTables.insertFrame frame)
      Persist.write (ProjectTables.insertObservation observation)
      Persist.write (ProjectTables.insertObservationPayload
        ⟨observationId, header.width, header.height, header.pixelFormat⟩)) := rfl
  rw [hrun]
  cases hframeExists : db.frameExists frameId with
  | true =>
      left
      -- a frame of that id makes the first insert fail, before anything is written
      obtain ⟨e, he⟩ : ∃ e, ProjectTables.insertFrame frame db = .error e := by
        unfold ProjectTables.insertFrame
        rw [show db.frameExists frame.frameId = true from hframeExists]
        exact insertRow_duplicate hwritable
      exact ⟨rfl, e, Persist.bind_of_error (write_of_error he)⟩
  | false =>
      right
      have hframeInsert : ProjectTables.insertFrame frame db =
          .ok { db with frames := db.frames ++ [frame] } := by
        apply insertRow_ok hwritable hframeExists
        simp [hframe, frameOf, hscene, hsensor]
      have hobservationInsert : ProjectTables.insertObservation observation
          { db with frames := db.frames ++ [frame] } = .ok (withImage db frame observation) := by
        apply insertRow_ok hwritable hnew
        have hsame : ({ db with frames := db.frames ++ [frame] } : ProjectTables).frameExists
            frameId = true := by
          simp [ProjectTables.frameExists, hframe, frameOf]
        have hscene' : ({ db with frames := db.frames ++ [frame] } : ProjectTables).hasScene
            batch.sceneId = true := hscene
        have hsensor' : ({ db with frames := db.frames ++ [frame] } : ProjectTables).hasSensor
            file.sensorId = true := hsensor
        simp [hobservation, observationOf, hscene', hsensor', hsame]
      rw [Persist.bind_of_ok (write_of_ok hframeInsert),
        Persist.bind_of_ok (write_of_ok hobservationInsert)]
      cases hpayload : db.payloadRows.any (·.observationId = observationId) with
      | true =>
          left
          -- the third insert fails with the frame and the observation already in the tables
          obtain ⟨e, he⟩ : ∃ e, ProjectTables.insertObservationPayload
              ⟨observationId, header.width, header.height, header.pixelFormat⟩
              (withImage db frame observation) = .error e := by
            unfold ProjectTables.insertObservationPayload
            rw [show (withImage db frame observation).payloadRows.any
              (·.observationId = observationId) = true from hpayload]
            exact insertRow_duplicate hwritable
          exact ⟨rfl, rfl, e, write_of_error he⟩
      | false =>
          right
          refine ⟨rfl, rfl, write_of_ok ?_⟩
          apply insertRow_ok hwritable hpayload
          simp [ProjectTables.observationExists, withImage, hobservation, observationOf]

end Rows

/-! ## One file

A file that passed the checks is recorded, one that was rejected uses up an
identifier. -/

/-- A step of the importer does what the record does, and leaves the batch open when it returns. -/
structure StepRecorded (batch : Batch) (inputs : Nat → FileInputs) (n i : Nat) (db : ProjectTables)
    (run : Except ProjectError Outcome × ProjectTables) (model : Option Outcome × Recorded) :
    Prop where
  outcome : run.1.toOption.map (Except.map (·.erased)) = model.1
  state : recorded run.2 = model.2
  calibrations : run.2.calibrations = db.calibrations
  ready : ∀ o, run.1 = .ok o → importer.Ready batch inputs n (i + 1) run.2

variable {importer} {batch : Batch} {inputs : Nat → FileInputs} {n i : Nat} {db : ProjectTables}
  {file : ImageSourceFile}

theorem observed_recorded (db : ProjectTables) (observationId : Uuid) :
    (recorded db).observed observationId = db.observationExists observationId := by
  simp [Recorded.observed, recorded, ProjectTables.observationExists, List.any_map,
    ObservationRow.erased, Function.comp_def]

theorem frames_recorded (db : ProjectTables) (frameId : Uuid) :
    (recorded db).frames.any (·.frameId = frameId) = db.frameExists frameId := by
  simp [recorded, ProjectTables.frameExists, List.any_map, FrameRow.erased, Function.comp_def]

theorem recorded_withImage (db : ProjectTables) (frame : FrameRow)
    (observation : ImportedObservation) :
    recorded (withImage db frame observation) = { recorded db with
      frames := (recorded db).frames ++ [frame.erased]
      observations := (recorded db).observations ++ [observation.row.erased] } := by
  simp [recorded, withImage]

theorem recorded_payloadRows (db : ProjectTables) (rows : List ObservationPayloadRow) :
    recorded { db with payloadRows := rows } = { recorded db with payloadRows := rows } := rfl

theorem recorded_written {store' : StoreState} {hash : String} {artifactUuid : Uuid}
    (h : Written db.store store' hash artifactUuid) :
    recorded { db with store := store' } = (recorded db).withPayload hash := by
  simp only [recorded, Recorded.withPayload, h.indexed, h.stored]

theorem Ready.next (h : importer.Ready batch inputs n i db) :
    importer.Ready batch inputs n (i + 1) db :=
  { h with
    rejections := fun j hj => h.rejections j (by omega)
    artifacts := fun j hj => h.artifacts j (by omega) }

/-- A rejection takes its identifier from the ones that are left. -/
theorem reject_records (h : importer.Ready batch inputs n i db) (hi : i < n) (hdistinct : Distinct inputs n)
    (failure : ImageImportFailure) (mime : String) :
    importer.StepRecorded batch inputs n i db
      (importer.reject batch failure.sourceUri mime failure.code failure.diagnostic i
        (inputs i).rejectionId db)
      (importer.recordFile (.error failure) i (recorded db)) := by
  set row : ImportRejectionRow :=
    { rejectionId := (inputs i).rejectionId
      projectId := importer.projectId
      sessionId := batch.sessionId
      sequenceIndex := i
      sourcePath := failure.sourceUri
      mimeType := mime
      importer := "image-import"
      importerVersion := importer.producer.version
      errorCode := failure.code.name
      diagnostic := failure.diagnostic } with hrow
  -- the identifier of the rejection is new
  have hinsert : ProjectTables.insertImportRejection row db =
      .ok { db with rejections := db.rejections ++ [row] } := by
    apply insertRow_ok h.writable
    · rw [List.any_eq_false]
      intro old hold
      simpa using h.rejections i le_rfl hi old hold
    · simp [hrow, h.project, h.session]
  have hrun : importer.reject batch failure.sourceUri mime failure.code failure.diagnostic i
      (inputs i).rejectionId db =
      (.ok (.error failure), { db with rejections := db.rejections ++ [row] }) := by
    unfold reject
    rw [Persist.bind_of_ok (write_of_ok hinsert)]
    rfl
  rw [hrun]
  refine ⟨rfl, rfl, rfl, fun _ _ => ⟨h.writable, h.project, h.scene, h.session, ?_, ?_⟩⟩
  -- the identifiers that are left are still new
  · intro j hj hjn old hold heq
    rcases List.mem_append.mp hold with hold | hold
    · exact h.rejections j (by omega) hjn old hold heq
    · rw [List.mem_singleton.mp hold] at heq
      have hij := hdistinct.rejections i hi j hjn heq
      omega
  · exact h.next.artifacts

/-- An image that passed the checks. -/
theorem importFile_records (h : importer.Ready batch inputs n i db) (hi : i < n) (hdistinct : Distinct inputs n)
    (hsensor : db.hasSensor file.sensorId) (bytes : List UInt8) (header : ImageHeaderInfo) :
    importer.StepRecorded batch inputs n i db
      (importer.importFile batch file bytes header i (inputs i).artifactUuid db)
      (importer.recordFile (.ok (importer.candidate db file bytes header)) i (recorded db)) := by
  set c := importer.candidate db file bytes header with hc
  have hobserved := observed_recorded db c.entry.observationId
  have hid : importer.deriveObservationId file.sensorId file.timestampNs (sha256Hex bytes) =
      c.entry.observationId := rfl
  unfold importFile
  simp only [Persist.read_bind, hid]
  cases hknown : db.observationExists c.entry.observationId with
  | true =>
      rw [hknown] at hobserved
      simp only [if_true, recordFile, recordImage, hobserved]
      exact ⟨rfl, rfl, rfl, fun _ _ => h.next⟩
  | false =>
      rw [hknown] at hobserved
      simp only [Bool.false_eq_true, if_false, recordFile, recordImage, hobserved]
      rw [Persist.read_bind]
      have hindexed : (recorded db).indexed c.entry.contentHash =
          db.store.isReferenced (sha256Hex bytes) := rfl
      have hstored : (recorded db).stored c.entry.contentHash =
          (db.store.payloads.lookup (sha256Hex bytes)).isSome := rfl
      rw [hindexed, hstored]
      rcases writePayload_cases h.writable (h.artifacts i le_rfl hi)
          (show (importer.makeManifest header bytes.length).artifactUuid = .nil from rfl) with
        ⟨hmissing, e, hrun⟩ | ⟨hthere, written, store', hrun, hhash, hwritten⟩
      · rw [Persist.bind_of_error hrun, if_pos hmissing]
        exact ⟨rfl, rfl, rfl, fun _ ho => (nomatch ho)⟩
      rw [Persist.bind_of_ok hrun, if_neg (by rw [hthere]; exact Bool.false_ne_true)]
      -- the frames, the observations and the payload rows are those of `db` still
      set db₁ : ProjectTables := { db with store := store' } with hdb₁
      have hstate : recorded db₁ = (recorded db).withPayload c.entry.contentHash :=
        recorded_written hwritten
      have hrows := @importRows_cases importer batch file bytes header db₁ c.entry.frameId
        c.entry.observationId (hwritten.writable.trans h.writable) h.scene hsensor hknown i
        written.artifactUuid
      have hframes : (recorded db).frames.any (·.frameId = c.entry.frameId) =
          db₁.frameExists c.entry.frameId := frames_recorded db c.entry.frameId
      rw [hframes]
      show importer.StepRecorded batch inputs n i db ((importer.importRows batch file bytes header i
        c.entry.frameId c.entry.observationId written.artifactUuid >>= fun _ => pure (Except.ok
          { c.entry with
            artifactUuid := written.artifactUuid
            contentHash := written.contentHash
            newInstance := db.store.isReferenced (sha256Hex bytes) })) db₁) _
      rcases hrows with ⟨hframe, e, hrun⟩ | ⟨hframe, hpayload, e, hrun⟩ | ⟨hframe, hpayload, hrun⟩
      · rw [if_pos hframe, Persist.bind_of_error hrun]
        exact ⟨rfl, hstate, rfl, fun _ ho => (nomatch ho)⟩
      · rw [if_neg (by rw [hframe]; exact Bool.false_ne_true), Persist.bind_of_error hrun]
        have hthere : (recorded db).payloadRows.any (·.observationId = c.entry.observationId) =
            true := hpayload
        rw [if_pos hthere]
        refine ⟨rfl, ?_, rfl, fun _ ho => (nomatch ho)⟩
        rw [recorded_withImage, hstate]
        rfl
      · rw [if_neg (by rw [hframe]; exact Bool.false_ne_true), Persist.bind_of_ok hrun]
        have hnone : (recorded db).payloadRows.any (·.observationId = c.entry.observationId) =
            false := hpayload
        rw [if_neg (by rw [hnone]; exact Bool.false_ne_true)]
        refine ⟨?_, ?_, rfl, fun _ _ => ?_⟩
        · rw [hhash]
          rfl
        · show recorded { withImage db₁ (frameOf batch file i c.entry.frameId)
              (importer.observationOf batch file bytes c.entry.frameId c.entry.observationId
                written.artifactUuid) with
            payloadRows := db₁.payloadRows ++ [⟨c.entry.observationId, header.width,
              header.height, header.pixelFormat⟩] } = _
          rw [recorded_payloadRows, recorded_withImage, hstate]
          rfl
        · refine ⟨hwritten.writable.trans h.writable, h.project, h.scene, h.session,
            h.next.rejections, ?_⟩
          intro j hj hjn row hrow heq
          rcases hwritten.rows row hrow with hold | hnew
          · exact h.artifacts j (by omega) hjn row hold heq
          · have hij := hdistinct.artifacts i hi j hjn (hnew.symm.trans heq)
            omega

theorem processFile_records (h : importer.Ready batch inputs n i db) (hi : i < n) (hdistinct : Distinct inputs n) :
    importer.StepRecorded batch inputs n i db (importer.processFile batch file i (inputs i) db)
      (importer.recordFile (importer.assess db file (inputs i).bytes) i (recorded db)) := by
  unfold processFile assess
  cases hbytes : (inputs i).bytes with
  | error e => exact reject_records h hi hdistinct ⟨_, _, _⟩ ""
  | ok bytes =>
      by_cases hformat : importer.detectImageFormat bytes = .unknown ∨
          importer.detectImageFormat bytes ∉ importer.allowlist
      · simp only [hformat, if_true]
        exact reject_records h hi hdistinct ⟨_, _, _⟩ ""
      simp only [hformat, if_false]
      cases hheader : (importer.parseImageHeader bytes).filter fun header =>
          ¬ (header.width < 1 ∨ header.height < 1 ∨ header.pixelFormat = "") with
      | none => exact reject_records h hi hdistinct ⟨_, _, _⟩ ""
      | some header =>
          simp only [Persist.read_bind]
          by_cases hsensor : db.hasSensor file.sensorId
          · by_cases htimestamp : file.timestampNs = 0
            · simp only [hsensor, htimestamp, Bool.not_true, Bool.false_eq_true, if_true, if_false]
              exact reject_records h hi hdistinct ⟨_, _, _⟩ _
            · simp only [hsensor, htimestamp, Bool.not_true, Bool.false_eq_true, if_false]
              exact importFile_records h hi hdistinct hsensor bytes header
          · simp only [hsensor, Bool.not_false, if_true]
            exact reject_records h hi hdistinct ⟨_, _, _⟩ _

/-! ## A batch

Induction over the files that are left, with the identifiers that are left. -/

/-- The verdict on a file is about the sensors and calibrations of the database alone. -/
theorem assess_congr {db' : ProjectTables} (h : db'.calibrations = db.calibrations)
    (file : ImageSourceFile) (read : Except ProjectError (List UInt8)) :
    importer.assess db' file read = importer.assess db file read := by
  have hsensor : db'.hasSensor file.sensorId = db.hasSensor file.sensorId := by
    rw [ProjectTables.hasSensor, h]
    rfl
  have hcandidate : importer.candidate db' file = importer.candidate db file := by
    unfold candidate
    rw [h]
  unfold assess
  rw [hsensor, hcandidate]

/-- The imported files of a batch. -/
def importedOf (os : List Outcome) : List ImageImportEntry := os.filterMap Except.toOption

/-- The failures of a batch. -/
def failuresOf (os : List Outcome) : List ImageImportFailure :=
  os.filterMap fun
    | .error failure => some failure
    | .ok _ => none

/-- A result without its session and its artifacts. -/
def ImageImportResult.lists (result : ImageImportResult) :
    List ImageImportEntry × List ImageImportFailure :=
  (result.imported.map (·.erased), result.failures)

/-- A run of the importer does what a run of the record does. -/
structure RunRecorded (run : Except ProjectError ImageImportResult × ProjectTables)
    (model : Option (List Outcome) × Recorded) : Prop where
  lists : run.1.toOption.map ImageImportResult.lists =
    model.1.map fun os => (importedOf os, failuresOf os)
  state : recorded run.2 = model.2

theorem processFiles_records {db₀ : ProjectTables}
    {read : ImageSourceFile → Except ProjectError (List UInt8)} {files : List ImageSourceFile}
    (h : importer.Ready batch inputs n i db) (hn : i + files.length ≤ n)
    (hdistinct : Distinct inputs n) (hcalibrations : db.calibrations = db₀.calibrations)
    (hread : ∀ file j, (file, j) ∈ files.zipIdx i → (inputs j).bytes = read file) :
    RunRecorded (importer.processFiles batch inputs (files.zipIdx i) db)
      (BatchStep.run importer.recordFile
        (files.map fun file => importer.assess db₀ file (read file)) i (recorded db)) := by
  induction files generalizing i db with
  | nil => exact ⟨rfl, rfl⟩
  | cons file files ih =>
      rw [List.zipIdx_cons] at hread ⊢
      rw [List.map_cons]
      rw [List.length_cons] at hn
      have hstep := @processFile_records importer batch inputs n i db file h (by omega) hdistinct
      rw [hread file i List.mem_cons_self, assess_congr hcalibrations] at hstep
      unfold processFiles
      -- the batch stops where a file throws, in the code and in the model
      rcases hrun : importer.processFile batch file i (inputs i) db with ⟨e | o, db'⟩
      · rw [Persist.bind_of_error hrun]
        rw [hrun] at hstep
        rcases hmodel : importer.recordFile (importer.assess db₀ file (read file)) i (recorded db)
          with ⟨o, s⟩
        rw [hmodel] at hstep
        obtain rfl : o = none := hstep.outcome.symm
        rw [BatchStep.run_cons_none hmodel]
        exact ⟨rfl, hstep.state⟩
      · rw [Persist.bind_of_ok hrun]
        rw [hrun] at hstep
        rcases hmodel : importer.recordFile (importer.assess db₀ file (read file)) i (recorded db)
          with ⟨o', s⟩
        rw [hmodel] at hstep
        obtain rfl : o' = some (o.map (·.erased)) := hstep.outcome.symm
        obtain rfl : recorded db' = s := hstep.state
        rw [BatchStep.run_cons_some hmodel]
        have hrest := ih (hstep.ready o rfl) (by omega) (hstep.calibrations.trans hcalibrations)
          (fun other j hmem => hread other j (List.mem_cons_of_mem _ hmem))
        rcases hrunRest : importer.processFiles batch inputs (files.zipIdx (i + 1)) db' with
          ⟨e | result, db''⟩
        · rw [Persist.bind_of_error hrunRest]
          rw [hrunRest] at hrest
          refine ⟨?_, hrest.state⟩
          have hnone := hrest.lists
          simp only [Except.toOption, Option.map_none] at hnone
          rw [Option.map_map]
          simpa [Except.toOption] using hnone
        · rw [Persist.bind_of_ok hrunRest]
          rw [hrunRest] at hrest
          refine ⟨?_, hrest.state⟩
          obtain ⟨os, hos, hlists⟩ := Option.map_eq_some_iff.mp hrest.lists.symm
          have himported : importedOf os = result.imported.map (·.erased) := congrArg Prod.fst hlists
          have hfailures : failuresOf os = result.failures := congrArg Prod.snd hlists
          rw [hos]
          cases o with
          | error failure =>
              show some (result.imported.map (·.erased), failure :: result.failures) =
                some (importedOf os, failure :: failuresOf os)
              rw [himported, hfailures]
          | ok entry =>
              show some (entry.erased :: result.imported.map (·.erased), result.failures) =
                some (entry.erased :: importedOf os, failuresOf os)
              rw [himported, hfailures]

/-! ## Opening a batch

Session, scene and version are resolved before the first file. Each of the three
is there already or is made with a fresh identifier, and what is refused changes
nothing. -/

/-- What `GenerateUuid` returns during a call is new to the database, and different each time. -/
structure Fresh (call : ImportCall) (db : ProjectTables) : Prop where
  session : db.hasSession call.sessionId = false
  scene : ∀ scene ∈ db.scenes.scenes, scene.sceneId ≠ call.sceneId
  firstVersion : ∀ v ∈ db.scenes.versions, v.versionId ≠ call.firstVersionId
  version : ∀ v ∈ db.scenes.versions, v.versionId ≠ call.versionId
  versions : call.firstVersionId ≠ call.versionId
  notNil : call.firstVersionId ≠ .nil
  distinct : Distinct call.inputs call.files.length
  rejections : ∀ j < call.files.length, ∀ row ∈ db.rejections,
    row.rejectionId ≠ (call.inputs j).rejectionId
  artifacts : ∀ j < call.files.length, ∀ row ∈ db.store.artifacts.rows,
    row.artifactId ≠ (call.inputs j).artifactUuid

/-- A database that the importer can be made for: the parts of its handle are
open alike, and it has the project of the importer. -/
structure Fits (importer : ImageImporter) (db : ProjectTables) : Prop where
  handle : db.scenes.readOnly = db.store.readOnly
  project : db.hasProject importer.projectId

/-- The version that a new version of a scene is put below. -/
def parentVersion (tables : SceneTables) (sceneId : Uuid) : Uuid :=
  ((tables.scenes.find? (·.sceneId = sceneId)).bind (·.currentVersionId)).getD .nil

/-- The scene of the project, if one is open, has a current version. -/
def sceneReady (importer : ImageImporter) (tables : SceneTables) : Bool :=
  (tables.openScenes importer.projectId).head?.all fun scene =>
    !(parentVersion tables scene.sceneId).isNil

/-- The conditions under which a batch opens. -/
def opens (importer : ImageImporter) (files : List ImageSourceFile) (explicitSession : Option Uuid)
    (db : ProjectTables) : Bool :=
  !files.isEmpty && explicitSession.all db.hasSession && !db.store.readOnly &&
    sceneReady importer db.scenes

section Scenes

variable {tables : SceneTables} {sceneId versionId : Uuid}

theorem createSceneVersion_ready (hwritable : tables.readOnly = false)
    (hscene : ∃ scene ∈ tables.scenes, scene.sceneId = sceneId)
    (hfresh : ∀ v ∈ tables.versions, v.versionId ≠ versionId) (stage createdByJson : String)
    (createdAtNs : Int64) :
    ((parentVersion tables sceneId).isNil = true ∧
      ∃ e, tables.createSceneVersion sceneId stage createdByJson createdAtNs versionId =
        (.error e, tables)) ∨
    ((parentVersion tables sceneId).isNil = false ∧
      ∃ row versions, tables.createSceneVersion sceneId stage createdByJson createdAtNs versionId =
        (.ok row, SceneTables.setCurrentVersion { tables with versions } sceneId versionId)) := by
  obtain ⟨scene, hmem, hid⟩ := hscene
  unfold SceneTables.createSceneVersion
  rw [if_neg (by rw [hwritable]; exact Bool.false_ne_true)]
  show _ ∧ (∃ e, transaction tables (if (parentVersion tables sceneId).isNil = true then _
    else _) = _) ∨ _ ∧ ∃ row versions, transaction tables (if (parentVersion tables sceneId).isNil =
    true then _ else _) = _
  -- a scene without a current version is refused
  cases hnil : (parentVersion tables sceneId).isNil with
  | true =>
      left
      exact ⟨rfl, _, rfl⟩
  | false =>
      right
      have hnew : (tables.versions.any (·.versionId = versionId)) = false := by
        rw [List.any_eq_false]
        intro v hv
        simpa using hfresh v hv
      have hthere : (tables.scenes.all (·.sceneId ≠ sceneId)) = false := by
        rw [List.all_eq_false]
        exact ⟨scene, hmem, by simpa using hid⟩
      have hinsert : ∀ version : SceneVersionRecord, version.versionId = versionId →
          version.sceneId = sceneId → tables.insertVersion version =
            .ok { tables with versions := tables.versions ++ [version] } := by
        rintro version rfl rfl
        unfold SceneTables.insertVersion
        rw [hnew, hthere]
        rfl
      refine ⟨rfl, ?_⟩
      rw [if_neg Bool.false_ne_true]
      have hversion := hinsert (SceneTables.newVersion sceneId versionId
        (some (parentVersion tables sceneId)) stage createdByJson createdAtNs) rfl rfl
      refine ⟨⟨versionId, sceneId, parentVersion tables sceneId, stage, createdByJson, createdAtNs,
        "active"⟩, tables.versions ++ [SceneTables.newVersion sceneId versionId
        (some (parentVersion tables sceneId)) stage createdByJson createdAtNs], ?_⟩
      show transaction tables (tables.insertVersion (SceneTables.newVersion sceneId versionId
        (some (parentVersion tables sceneId)) stage createdByJson createdAtNs) >>= _) = _
      rw [hversion]
      rfl

/-- The scene of the project, opened if there is none. -/
theorem findOrCreateScene_ready {projectId : Uuid} (hwritable : tables.readOnly = false)
    (hproject : projectId ∈ tables.projects)
    (hscene : ∀ scene ∈ tables.scenes, scene.sceneId ≠ sceneId)
    (hversion : ∀ v ∈ tables.versions, v.versionId ≠ versionId) (name createdByJson : String)
    (createdAtNs : Int64) :
    (∃ scene, (tables.openScenes projectId).head? = some scene ∧
      tables.findOrCreateScene projectId name createdByJson createdAtNs sceneId versionId =
        (.ok (SceneTables.readScene scene), tables)) ∨
    ((tables.openScenes projectId).head? = none ∧
      ∃ row, row.sceneId = sceneId ∧
        tables.findOrCreateScene projectId name createdByJson createdAtNs sceneId versionId =
        (.ok row, { tables with
          scenes := tables.scenes ++ [SceneTables.newScene projectId name sceneId versionId]
          versions := tables.versions ++ [SceneTables.newVersion sceneId versionId none "created"
            createdByJson createdAtNs] })) := by
  unfold SceneTables.findOrCreateScene
  rw [if_neg (by rw [hwritable]; exact Bool.false_ne_true)]
  cases hopen : (tables.openScenes projectId).head? with
  | some scene => exact .inl ⟨scene, rfl, rfl⟩
  | none =>
      right
      refine ⟨rfl, ?_⟩
      have hnewScene : (tables.scenes.any (·.sceneId = sceneId)) = false := by
        rw [List.any_eq_false]
        intro scene hmem
        simpa using hscene scene hmem
      have hnewVersion : (tables.versions.any (·.versionId = versionId)) = false := by
        rw [List.any_eq_false]
        intro v hv
        simpa using hversion v hv
      have hinsertScene : tables.insertScene (SceneTables.newScene projectId name sceneId versionId) =
          .ok { tables with
            scenes := tables.scenes ++ [SceneTables.newScene projectId name sceneId versionId] } := by
        unfold SceneTables.insertScene
        rw [show (tables.scenes.any (·.sceneId = (SceneTables.newScene projectId name sceneId
          versionId).sceneId)) = false from hnewScene]
        rw [if_neg Bool.false_ne_true]
        exact if_neg (not_not.mpr hproject)
      simp only [hinsertScene]
      have hinsertVersion : SceneTables.insertVersion { tables with
            scenes := tables.scenes ++ [SceneTables.newScene projectId name sceneId versionId] }
          (SceneTables.newVersion sceneId versionId none "created" createdByJson createdAtNs) =
          .ok { tables with
            scenes := tables.scenes ++ [SceneTables.newScene projectId name sceneId versionId]
            versions := tables.versions ++ [SceneTables.newVersion sceneId versionId none "created"
              createdByJson createdAtNs] } := by
        unfold SceneTables.insertVersion
        rw [show (tables.versions.any (·.versionId = (SceneTables.newVersion sceneId versionId none
          "created" createdByJson createdAtNs).versionId)) = false from hnewVersion]
        simp [SceneTables.newScene, SceneTables.newVersion]
      refine ⟨{ sceneId, versionId, projectId, name, createdByJson, createdAtNs }, rfl, ?_⟩
      show transaction tables (SceneTables.insertVersion _ _ >>= _) = _
      rw [hinsertVersion]
      rfl

end Scenes

section Opening

variable {call : ImportCall}

/-- The session of a batch: it is refused where the handle is open for reading,
or where an explicit session is missing. -/
theorem resolveSession_ready (hfresh : Fresh call db) (hfits : Fits importer db) :
    (((call.explicitSession.all db.hasSession && (call.explicitSession.isSome || !db.store.readOnly)) =
        true) ∧
      ∃ sessionId sessions, importer.resolveSession call db = (.ok sessionId, { db with sessions }) ∧
        ({ db with sessions } : ProjectTables).hasSession sessionId = true) ∨
    (((call.explicitSession.all db.hasSession && (call.explicitSession.isSome || !db.store.readOnly)) =
        false) ∧
      ∃ e, importer.resolveSession call db = (.error e, db)) := by
  unfold resolveSession
  cases call.explicitSession with
  | some sessionId =>
      cases hfound : db.hasSession sessionId with
      | true =>
          refine .inl ⟨by simp [hfound], sessionId, db.sessions, ?_, hfound⟩
          simp only [Persist.read_bind, hfound, if_true]
          rfl
      | false =>
          refine .inr ⟨by simp [hfound], ?_⟩
          simp only [Persist.read_bind, hfound, Bool.false_eq_true, if_false]
          exact ⟨_, rfl⟩
  | none =>
      cases hreadOnly : db.store.readOnly with
      | true =>
          refine .inr ⟨by simp, ?_⟩
          exact ⟨_, Persist.bind_of_error (write_of_error (insertRow_readOnly hreadOnly))⟩
      | false =>
          refine .inl ⟨by simp, call.sessionId, ?_⟩
          refine ⟨_, Persist.bind_of_ok (write_of_ok (insertRow_ok hreadOnly hfresh.session ?_)), ?_⟩
          · simp [hfits.project]
          · simp [ProjectTables.hasSession]

/-- A program on the scenes, in a database. -/
theorem onScenes_eq {α : Type} {f : SceneTables → Except ProjectError α × SceneTables}
    {db : ProjectTables} {result : Except ProjectError α} {tables : SceneTables}
    (h : f db.scenes = (result, tables)) :
    ProjectTables.onScenes f db = (result, { db with scenes := tables }) := by
  simp only [ProjectTables.onScenes, Persist.within, h]

/-- The scene tables after a version was added. -/
theorem hasScene_setCurrentVersion (tables : SceneTables) (versions : List SceneVersionRecord)
    (sceneId versionId : Uuid) (h : ∃ scene ∈ tables.scenes, scene.sceneId = sceneId) :
    (SceneTables.setCurrentVersion { tables with versions } sceneId versionId).scenes.any
      (·.sceneId = sceneId) = true := by
  obtain ⟨scene, hmem, hid⟩ := h
  apply List.any_eq_true.mpr
  refine ⟨SceneTables.advanced sceneId versionId scene, List.mem_map.mpr ⟨scene, hmem, rfl⟩, ?_⟩
  rw [SceneTables.advanced_sceneId]
  simpa using hid

/-- The scene that `FindOrCreateScene` has opened has its first version as the current one. -/
theorem parentVersion_newScene {tables : SceneTables} {projectId sceneId versionId : Uuid}
    (hscene : ∀ scene ∈ tables.scenes, scene.sceneId ≠ sceneId) (name : String)
    (versions : List SceneVersionRecord) :
    parentVersion { tables with
      scenes := tables.scenes ++ [SceneTables.newScene projectId name sceneId versionId]
      versions } sceneId = versionId := by
  have hnone : tables.scenes.find? (·.sceneId = sceneId) = none := by
    apply List.find?_eq_none.mpr
    intro scene hmem
    simpa using hscene scene hmem
  simp [parentVersion, List.find?_append, hnone, SceneTables.newScene]

/-- The scene of a batch, in tables that can be written. -/
theorem scenes_ready (hfresh : Fresh call db) (hfits : Fits importer db)
    (hwritable : db.scenes.readOnly = false) :
    ∃ row tables, db.scenes.findOrCreateScene importer.projectId importer.batchName
        importer.producerJson call.nowNs call.sceneId call.firstVersionId = (.ok row, tables) ∧
      ((sceneReady importer db.scenes = true ∧ ∃ version tables',
          tables.createSceneVersion row.sceneId "imported" importer.producerJson call.nowNs
            call.versionId = (.ok version, tables') ∧
          tables'.projects = db.scenes.projects ∧
          tables'.scenes.any (·.sceneId = row.sceneId) = true) ∨
        (sceneReady importer db.scenes = false ∧ ∃ e,
          tables.createSceneVersion row.sceneId "imported" importer.producerJson call.nowNs
            call.versionId = (.error e, tables))) := by
  have hproject : importer.projectId ∈ db.scenes.projects := by
    simpa [ProjectTables.hasProject] using hfits.project
  rcases findOrCreateScene_ready hwritable hproject hfresh.scene hfresh.firstVersion
      importer.batchName importer.producerJson call.nowNs with
    ⟨scene, hopen, hrun⟩ | ⟨hopen, row, hrow, hrun⟩
  · refine ⟨_, _, hrun, ?_⟩
    have hmem : scene ∈ db.scenes.scenes :=
      (List.mem_filter.mp (List.mem_of_head? hopen)).1
    have hready : sceneReady importer db.scenes =
        !(parentVersion db.scenes scene.sceneId).isNil := by
      rw [sceneReady, hopen]
      rfl
    rw [hready]
    rcases createSceneVersion_ready hwritable ⟨scene, hmem, rfl⟩ hfresh.version "imported"
        importer.producerJson call.nowNs with ⟨hnil, e, he⟩ | ⟨hnil, version, versions, hversion⟩
    · exact .inr ⟨by rw [hnil]; rfl, e, he⟩
    · refine .inl ⟨by rw [hnil]; rfl, version, _, hversion, rfl, ?_⟩
      exact hasScene_setCurrentVersion db.scenes versions scene.sceneId call.versionId
        ⟨scene, hmem, rfl⟩
  · refine ⟨_, _, hrun, .inl ⟨by rw [sceneReady, hopen]; rfl, ?_⟩⟩
    rw [hrow]
    -- the scene has just been made, with a first version to be the parent
    set tables : SceneTables := { db.scenes with
      scenes := db.scenes.scenes ++ [SceneTables.newScene importer.projectId importer.batchName
        call.sceneId call.firstVersionId]
      versions := db.scenes.versions ++ [SceneTables.newVersion call.sceneId call.firstVersionId none
        "created" importer.producerJson call.nowNs] } with htables
    have hthere : ∃ scene ∈ tables.scenes, scene.sceneId = call.sceneId :=
      ⟨_, List.mem_append_right _ List.mem_cons_self, rfl⟩
    have hparent : parentVersion tables call.sceneId = call.firstVersionId :=
      parentVersion_newScene hfresh.scene importer.batchName _
    have hversions : ∀ v ∈ tables.versions, v.versionId ≠ call.versionId := by
      intro v hv
      rcases List.mem_append.mp hv with hold | hnew
      · exact hfresh.version v hold
      · rw [List.mem_singleton.mp hnew]
        exact hfresh.versions
    rcases createSceneVersion_ready (show tables.readOnly = false from hwritable) hthere hversions
        "imported" importer.producerJson call.nowNs with ⟨hnil, _⟩ | ⟨_, version, versions, hversion⟩
    · rw [hparent] at hnil
      refine absurd ?_ hfresh.notNil
      cases hid : call.firstVersionId with
      | mk bytes =>
          rw [hid] at hnil
          simpa [Uuid.isNil, Uuid.nil] using hnil
    · exact ⟨version, _, hversion, rfl,
        hasScene_setCurrentVersion tables versions call.sceneId call.versionId hthere⟩

/-- A batch opens, or it changes nothing that an import records. -/
theorem openBatch_ready (hfresh : Fresh call db) (hfits : Fits importer db) :
    (opens importer call.files call.explicitSession db = true ∧
      ∃ batch db', importer.openBatch call db = (.ok batch, db') ∧
        importer.Ready batch call.inputs call.files.length 0 db' ∧ recorded db' = recorded db ∧
        db'.calibrations = db.calibrations) ∨
    (opens importer call.files call.explicitSession db = false ∧
      ∃ e db', importer.openBatch call db = (.error e, db') ∧ recorded db' = recorded db) := by
  unfold openBatch opens
  cases hempty : call.files.isEmpty with
  | true => exact .inr ⟨rfl, _, _, rfl, rfl⟩
  | false =>
      simp only [Bool.false_eq_true, if_false, Bool.not_false, Bool.true_and]
      -- session, then scene, then version; each may be refused
      rcases resolveSession_ready hfresh hfits with
        ⟨hsession, sessionId, sessions, hrun, hthere⟩ | ⟨hsession, e, hrun⟩
      · rw [Persist.bind_of_ok hrun]
        obtain ⟨hexplicit, _⟩ := Bool.and_eq_true_iff.mp hsession
        rw [hexplicit, Bool.true_and]
        -- the first write shows whether the handle can write
        cases hreadOnly : db.store.readOnly with
        | true =>
            have hscenes : db.scenes.findOrCreateScene importer.projectId importer.batchName
                importer.producerJson call.nowNs call.sceneId call.firstVersionId =
                (.error ⟨.storageReadOnly, "cannot write to a read-only project"⟩, db.scenes) := by
              unfold SceneTables.findOrCreateScene
              rw [hfits.handle, hreadOnly]
              rfl
            exact .inr ⟨rfl, _, _, Persist.bind_of_error (onScenes_eq hscenes), rfl⟩
        | false =>
            rw [Bool.not_false, Bool.true_and]
            obtain ⟨row, tables, hopened, hversion⟩ := scenes_ready hfresh hfits
              (hfits.handle.trans hreadOnly)
            rw [Persist.bind_of_ok (onScenes_eq hopened)]
            rcases hversion with
              ⟨hready, version, tables', hversion, hprojects, hscene⟩ | ⟨hready, e, hversion⟩
            · refine .inl ⟨hready, _, _, Persist.bind_of_ok (onScenes_eq hversion), ?_, rfl, rfl⟩
              refine ⟨hreadOnly, ?_, hscene, hthere, fun j _ => hfresh.rejections j,
                fun j _ => hfresh.artifacts j⟩
              show decide (importer.projectId ∈ tables'.projects) = true
              rw [hprojects]
              exact hfits.project
            · exact .inr ⟨hready, _, _, Persist.bind_of_error (onScenes_eq hversion), rfl⟩
      · refine .inr ⟨?_, _, _, Persist.bind_of_error hrun, rfl⟩
        revert hsession
        cases call.explicitSession <;> cases db.store.readOnly <;> grind

/-- A batch does what a run of the record does, file by file in the order of their URIs. -/
theorem importBatch_records {read : ImageSourceFile → Except ProjectError (List UInt8)}
    (hfresh : Fresh call db) (hfits : Fits importer db)
    (hread : ∀ file i, (file, i) ∈ (ordered call).zipIdx → (call.inputs i).bytes = read file) :
    RunRecorded (importer.importBatch call db)
      (if opens importer call.files call.explicitSession db then
        BatchStep.run importer.recordFile
          ((ordered call).map fun file => importer.assess db file (read file)) 0 (recorded db)
      else (none, recorded db)) := by
  unfold importBatch
  rcases openBatch_ready hfresh hfits with
    ⟨hopens, batch, db', hrun, hready, hstate, hcalibrations⟩ | ⟨hopens, e, db', hrun, hstate⟩
  · rw [Persist.bind_of_ok hrun, if_pos hopens, ← hstate]
    have hlength : (ordered call).length = call.files.length := List.length_insertionSort _ _
    exact processFiles_records hready (by omega) hfresh.distinct hcalibrations hread
  · rw [Persist.bind_of_error hrun, if_neg (by rw [hopens]; exact Bool.false_ne_true)]
    exact ⟨rfl, hstate⟩

end Opening

end ImageImporter

end SpatialPlatform.Importers
