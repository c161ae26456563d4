import SpatialPlatform.Importers.Images.ImageImporter
import SpatialPlatform.Lib.Machine

/-!
# The artifact references of imported observations

An observation refers to the artifact that was registered for it. The index has
one row for a content hash, so registering the same bytes for another
observation replaces the row of the first.

* `artifactRefs_iff` — over every sequence of imports, every observation refers
  to an artifact with the hash of its own bytes exactly when no file registers
  an artifact that shares one key, and not the other, with the artifact of an
  observation.
* `second_exposure_displaces` — two files with the same bytes leave the first
  observation dangling.
-/

namespace SpatialPlatform.Importers

open SpatialPlatform.Core SpatialPlatform.Lib

/-- `FindArtifactById` resolves the reference of an observation, to its own bytes. -/
def Resolves (artifacts : ArtifactTable) (observation : ImportedObservation) : Prop :=
  ∃ uuid row, formatUuid uuid = observation.row.artifactRef ∧ artifacts.findById uuid = some row ∧
    row.contentHash = sha256Hex observation.bytes

/-- Every observation of the database resolves. -/
def Resolved (db : ProjectTables) : Prop :=
  ∀ observation ∈ db.observations, Resolves db.store.artifacts observation

/-- An artifact whose row is replaced by another row keeps or loses its references. -/
theorem resolves_upsert_iff {artifacts : ArtifactTable} {observation : ImportedObservation}
    {row new : ArtifactIndexRow} (hrow : row ∈ artifacts.rows)
    (href : formatUuid row.artifactId = observation.row.artifactRef)
    (hhash : row.contentHash = sha256Hex observation.bytes) :
    Resolves (artifacts.upsert new) observation ↔
      (row.artifactId = new.artifactId ↔ row.contentHash = new.contentHash) := by
  constructor
  · intro ⟨uuid, found, huuid, hfound, hfoundHash⟩
    obtain rfl : uuid = row.artifactId := formatUuid_injective (huuid.trans href.symm)
    obtain ⟨hmem, hid⟩ := ArtifactTable.findById_eq_some.mp hfound
    rcases ArtifactTable.mem_upsert.mp hmem with rfl | ⟨hold, hneId, hneHash⟩
    · exact iff_of_true hid.symm (hhash.trans hfoundHash.symm)
    · rw [← hid, hhash, ← hfoundHash]
      exact iff_of_false hneId hneHash
  · intro hkeys
    by_cases hid : row.artifactId = new.artifactId
    · refine ⟨new.artifactId, new, by rw [← hid, href], ?_, by rw [← hkeys.mp hid, hhash]⟩
      exact ArtifactTable.findById_eq_some.mpr ⟨ArtifactTable.mem_upsert.mpr (.inl rfl), rfl⟩
    · refine ⟨row.artifactId, row, href, ?_, hhash⟩
      apply ArtifactTable.findById_eq_some.mpr
      exact ⟨ArtifactTable.mem_upsert.mpr (.inr ⟨hrow, hid, fun h => hid (hkeys.mpr h)⟩), rfl⟩

namespace ImageImporter

variable (importer : ImageImporter)

/-! ## What processing a file does

A file ends in one of two ways: nothing was registered, or an artifact was, and
perhaps an observation of it. The importer is followed statement by statement,
with triples for both of its exits. -/

/-- An artifact for the bytes can be registered. -/
def Writable (db : ProjectTables) (bytes : List UInt8) : Prop :=
  ¬ db.store.readOnly ∧ (db.store.isReferenced (sha256Hex bytes) →
    (db.store.payloads.lookup (sha256Hex bytes)).isSome)

/-- The file passes all checks under a new identity, and an artifact for its bytes is registered. -/
structure Registers (file : ImageSourceFile) (inputs : FileInputs) (db : ProjectTables)
    (bytes : List UInt8) : Prop where
  read : inputs.bytes = .ok bytes
  format : ¬ (importer.detectImageFormat bytes = .unknown ∨
    importer.detectImageFormat bytes ∉ importer.allowlist)
  header : ((importer.parseImageHeader bytes).filter fun header =>
    ¬ (header.width < 1 ∨ header.height < 1 ∨ header.pixelFormat = "")).isSome
  sensor : db.hasSensor file.sensorId
  timestamp : file.timestampNs ≠ 0
  new : ¬ db.observationExists
    (importer.deriveObservationId file.sensorId file.timestampNs (sha256Hex bytes))
  writable : Writable db bytes

/-- Neither the index nor the observations have changed. -/
def Quiet (db db' : ProjectTables) : Prop :=
  db'.store.artifacts = db.store.artifacts ∧ db'.observations = db.observations

/-- An artifact has been registered for the bytes, and observations have been added for it. -/
def Registered (bytes : List UInt8) (artifactUuid : Uuid) (observed : List ImportedObservation)
    (db db' : ProjectTables) : Prop :=
  ∃ row : ArtifactIndexRow, row.artifactId = artifactUuid ∧ row.contentHash = sha256Hex bytes ∧
    db'.store.artifacts = db.store.artifacts.upsert row ∧
    db'.observations = db.observations ++ observed

theorem Quiet.write {db : ProjectTables}
    {insert : ProjectTables → Except ProjectError ProjectTables}
    (hinsert : ∀ s s', insert s = .ok s' → Quiet s s') :
    Persist.Triple (Quiet db) (Persist.write insert) (fun _ => Quiet db) (Quiet db) := by
  apply Persist.Triple.write
  · intro s s' hs hok
    have hquiet := hinsert s s' hok
    exact ⟨hquiet.1.trans hs.1, hquiet.2.trans hs.2⟩
  · exact fun _ hs => hs

theorem quiet_reject (db : ProjectTables) (batch : Batch) (uri mime : String) (code : ErrorCode)
    (diagnostic : String) (sequenceIndex : Nat) (rejectionId : Uuid) :
    Persist.Triple (Quiet db)
      (importer.reject batch uri mime code diagnostic sequenceIndex rejectionId)
      (fun _ => Quiet db) (Quiet db) := by
  unfold reject
  refine (Quiet.write fun s s' hok => ?_).bind fun _ => ?_
  · rw [ProjectTables.insertRow_eq_ok hok]
    exact ⟨rfl, rfl⟩
  · exact Persist.Triple.pure fun _ hs => hs

theorem registered_writePayload {db : ProjectTables} {bytes : List UInt8}
    (hwritable : Writable db bytes) (manifest : ArtifactManifest)
    (hmanifest : manifest.artifactUuid = .nil) (artifactUuid : Uuid) :
    Persist.Triple (· = db)
      (writePayload bytes manifest artifactUuid (db.store.isReferenced (sha256Hex bytes)))
      (fun written db' => written.artifactUuid = artifactUuid ∧
        Registered bytes artifactUuid [] db db') (fun _ => False) := by
  rintro db rfl
  have huuid : ∀ size, (StoreState.completed manifest (sha256Hex bytes) size
      artifactUuid).artifactUuid = artifactUuid := by
    intro size
    simp [StoreState.completed, hmanifest]
  obtain ⟨hrw, hpayload⟩ := hwritable
  unfold writePayload ProjectTables.onStore Persist.within
  -- known content gets a further instance, new content a payload
  by_cases hindexed : db.store.isReferenced (sha256Hex bytes) = true
  · obtain ⟨stored, hstored⟩ := Option.isSome_iff_exists.mp (hpayload hindexed)
    rcases db.store.putInstance_cases (sha256Hex bytes) manifest artifactUuid with
      ⟨hnone, _⟩ | ⟨hro, _⟩ | ⟨_, found, rows, _, hput⟩
    · rw [hstored] at hnone
      exact (nomatch hnone)
    · exact absurd hro hrw
    · simp only [hindexed, if_true, hput]
      refine ⟨huuid found.length, StoreState.indexRow (StoreState.completed manifest
        (sha256Hex bytes) found.length artifactUuid), huuid found.length, rfl, rfl, ?_⟩
      exact (List.append_nil _).symm
  · rcases db.store.put_cases bytes manifest artifactUuid with
      ⟨existing, hfind, _⟩ | ⟨_, hro, _⟩ | ⟨_, _, rows, hput⟩
    · simp [StoreState.isReferenced, hfind] at hindexed
    · exact absurd hro hrw
    · simp only [hindexed, hput]
      refine ⟨huuid bytes.length, StoreState.indexRow (StoreState.completed manifest
        (sha256Hex bytes) bytes.length artifactUuid), huuid bytes.length, rfl, ?_,
        (List.append_nil _).symm⟩
      show (db.store.withPayload bytes).artifacts.upsert _ = _
      rw [StoreState.withPayload_artifacts]

theorem quiet_writePayload {db : ProjectTables} {bytes : List UInt8}
    (hwritable : ¬ Writable db bytes) (manifest : ArtifactManifest) (artifactUuid : Uuid) :
    Persist.Triple (· = db)
      (writePayload bytes manifest artifactUuid (db.store.isReferenced (sha256Hex bytes)))
      (fun _ _ => False) (Quiet db) := by
  rintro db rfl
  unfold writePayload ProjectTables.onStore Persist.within
  by_cases hindexed : db.store.isReferenced (sha256Hex bytes) = true
  · rcases db.store.putInstance_cases (sha256Hex bytes) manifest artifactUuid with
      ⟨_, e, hput⟩ | ⟨_, _, e, _, hput⟩ | ⟨hrw, found, rows, hstored, _⟩
    · simp only [hindexed, if_true, hput]
      exact ⟨rfl, rfl⟩
    · simp only [hindexed, if_true, hput]
      exact ⟨rfl, rfl⟩
    · refine absurd ⟨by simp [hrw], fun _ => ?_⟩ hwritable
      rw [hstored]
      rfl
  · rcases db.store.put_cases bytes manifest artifactUuid with
      ⟨existing, hfind, _⟩ | ⟨_, _, e, store', hput, _, hartifacts, _⟩ | ⟨_, hrw, _⟩
    · simp [StoreState.isReferenced, hfind] at hindexed
    · simp only [hindexed, hput]
      exact ⟨hartifacts, rfl⟩
    · exact absurd ⟨by simp [hrw], fun h => absurd h hindexed⟩ hwritable

/-- An insert into the other tables keeps what holds of the index and the observations. -/
theorem Registered.write {bytes : List UInt8} {artifactUuid : Uuid}
    {observed : List ImportedObservation} {db : ProjectTables}
    {insert : ProjectTables → Except ProjectError ProjectTables}
    (hinsert : ∀ s s', insert s = .ok s' → Quiet s s') :
    Persist.Triple (Registered bytes artifactUuid observed db) (Persist.write insert)
      (fun _ => Registered bytes artifactUuid observed db)
      (Registered bytes artifactUuid observed db) := by
  apply Persist.Triple.write
  · intro s s' ⟨row, hid, hhash, hartifacts, hobservations⟩ hok
    obtain ⟨hsame, hsame'⟩ := hinsert s s' hok
    exact ⟨row, hid, hhash, hsame.trans hartifacts, hsame'.trans hobservations⟩
  · exact fun _ hs => hs

/-- Either the observation was added or it was not, for an artifact registered for the bytes. -/
def Imported (bytes : List UInt8) (artifactUuid : Uuid) (db db' : ProjectTables) : Prop :=
  ∃ observed, (∀ observation ∈ observed, observation.row.artifactRef = formatUuid artifactUuid ∧
    observation.bytes = bytes) ∧ Registered bytes artifactUuid observed db db'

theorem Registered.imported {bytes : List UInt8} {artifactUuid : Uuid} {db db' : ProjectTables}
    (h : Registered bytes artifactUuid [] db db') : Imported bytes artifactUuid db db' :=
  ⟨[], by simp, h⟩

theorem imported_insertObservation {bytes : List UInt8} {artifactUuid : Uuid} {db : ProjectTables}
    {observation : ImportedObservation}
    (href : observation.row.artifactRef = formatUuid artifactUuid)
    (hbytes : observation.bytes = bytes) :
    Persist.Triple (Registered bytes artifactUuid [] db)
      (Persist.write (ProjectTables.insertObservation observation))
      (fun _ => Imported bytes artifactUuid db) (Imported bytes artifactUuid db) := by
  apply Persist.Triple.write
  · intro s s' ⟨row, hid, hhash, hartifacts, hobservations⟩ hok
    rw [ProjectTables.insertRow_eq_ok hok]
    refine ⟨[observation], by simp [href, hbytes], row, hid, hhash, hartifacts, ?_⟩
    show s.observations ++ [observation] = _
    rw [hobservations, List.append_nil]
  · exact fun _ => Registered.imported

theorem imported_importRows {db : ProjectTables} (batch : Batch) (file : ImageSourceFile)
    (bytes : List UInt8) (header : ImageHeaderInfo) (sequenceIndex : Nat)
    (frameId observationId artifactUuid : Uuid) :
    Persist.Triple (Registered bytes artifactUuid [] db)
      (importer.importRows batch file bytes header sequenceIndex frameId observationId artifactUuid)
      (fun _ => Imported bytes artifactUuid db) (Imported bytes artifactUuid db) := by
  unfold importRows
  refine ((Registered.write fun s s' hok => ?_).post (fun _ _ h => h)
    fun _ => Registered.imported).bind fun _ => ?_
  · rw [ProjectTables.insertRow_eq_ok hok]
    exact ⟨rfl, rfl⟩
  refine (imported_insertObservation ?_ ?_).bind fun _ => ?_
  · rfl
  · rfl
  apply Persist.Triple.write
  · intro s s' hs hok
    rw [ProjectTables.insertRow_eq_ok hok]
    exact hs
  · exact fun _ hs => hs

theorem imported_importFile {db : ProjectTables} (batch : Batch) (file : ImageSourceFile)
    {bytes : List UInt8} (header : ImageHeaderInfo) (sequenceIndex : Nat) (artifactUuid : Uuid)
    (hnew : ¬ db.observationExists
      (importer.deriveObservationId file.sensorId file.timestampNs (sha256Hex bytes)))
    (hwritable : Writable db bytes) :
    Persist.Triple (· = db)
      (importer.importFile batch file bytes header sequenceIndex artifactUuid)
      (fun _ => Imported bytes artifactUuid db) (Imported bytes artifactUuid db) := by
  unfold importFile
  refine Persist.Triple.read.bind fun uncalibrated => ?_
  refine (Persist.Triple.read.pre fun s hs => hs.1).bind fun known => ?_
  apply Persist.Triple.ite
  -- an observation that exists is left alone
  · intro hknown
    apply Persist.Triple.pure
    rintro s ⟨rfl, heq⟩
    exact absurd (heq ▸ hknown) hnew
  · intro _
    refine (Persist.Triple.read.pre fun s hs => hs.1).bind fun indexed => ?_
    have hpayload : Persist.Triple (fun s => s = db ∧ indexed = s.store.isReferenced (sha256Hex bytes))
        (writePayload bytes (importer.makeManifest header bytes.length) artifactUuid indexed)
        (fun written db' => written.artifactUuid = artifactUuid ∧
          Registered bytes artifactUuid [] db db') (Imported bytes artifactUuid db) := by
      rintro s ⟨rfl, rfl⟩
      have hwrite := registered_writePayload hwritable
        (importer.makeManifest header bytes.length) rfl artifactUuid
      exact hwrite.post (fun _ _ h => h) (fun _ h => h.elim) s rfl
    refine hpayload.bind fun written => Persist.Triple.of_and fun huuid => ?_
    rw [huuid]
    refine (importer.imported_importRows batch file bytes header sequenceIndex _ _
      artifactUuid).bind fun _ => ?_
    exact Persist.Triple.pure fun _ hs => hs

theorem quiet_importFile {db : ProjectTables} (batch : Batch) (file : ImageSourceFile)
    {bytes : List UInt8} (header : ImageHeaderInfo) (sequenceIndex : Nat) (artifactUuid : Uuid)
    (hskip : db.observationExists
      (importer.deriveObservationId file.sensorId file.timestampNs (sha256Hex bytes)) ∨
      ¬ Writable db bytes) :
    Persist.Triple (· = db)
      (importer.importFile batch file bytes header sequenceIndex artifactUuid)
      (fun _ => Quiet db) (Quiet db) := by
  unfold importFile
  refine Persist.Triple.read.bind fun uncalibrated => ?_
  refine (Persist.Triple.read.pre fun s hs => hs.1).bind fun known => ?_
  apply Persist.Triple.ite
  · intro _
    apply Persist.Triple.pure
    rintro s ⟨rfl, _⟩
    exact ⟨rfl, rfl⟩
  · intro hunknown
    refine (Persist.Triple.read.pre fun s hs => hs).bind fun indexed => ?_
    have hpayload : Persist.Triple (fun s => (s = db ∧ known = s.observationExists
          (importer.deriveObservationId file.sensorId file.timestampNs (sha256Hex bytes))) ∧
          indexed = s.store.isReferenced (sha256Hex bytes))
        (writePayload bytes (importer.makeManifest header bytes.length) artifactUuid indexed)
        (fun _ _ => False) (Quiet db) := by
      rintro s ⟨⟨rfl, rfl⟩, rfl⟩
      exact quiet_writePayload (hskip.resolve_left hunknown)
        (importer.makeManifest header bytes.length) artifactUuid s rfl
    refine hpayload.bind fun written => ?_
    exact fun _ hs => hs.elim

/-- A file that registers an artifact may also add its observation, and nothing
else; any other file leaves both alone. -/
theorem processFile_spec (db : ProjectTables) (batch : Batch) (file : ImageSourceFile)
    (sequenceIndex : Nat) (inputs : FileInputs) :
    (∃ bytes, importer.Registers file inputs db bytes ∧ Imported bytes inputs.artifactUuid db
      (importer.processFile batch file sequenceIndex inputs db).2) ∨
    ((∀ bytes, ¬ importer.Registers file inputs db bytes) ∧
      Quiet db (importer.processFile batch file sequenceIndex inputs db).2) := by
  have hreject : ∀ uri mime code diagnostic, Quiet db
      (importer.reject batch uri mime code diagnostic sequenceIndex inputs.rejectionId db).2 := by
    intro uri mime code diagnostic
    exact (importer.quiet_reject db batch uri mime code diagnostic sequenceIndex
      inputs.rejectionId).state ⟨rfl, rfl⟩
  unfold processFile
  cases hbytes : inputs.bytes with
  | error e =>
      right
      refine ⟨fun bytes h => ?_, hreject _ _ _ _⟩
      simpa [hbytes] using h.read
  | ok bytes =>
      have hread : ∀ bytes', importer.Registers file inputs db bytes' → bytes' = bytes := by
        intro bytes' h
        have hbytes' := h.read
        rw [hbytes] at hbytes'
        exact (Except.ok.inj hbytes').symm
      by_cases hformat : importer.detectImageFormat bytes = .unknown ∨
          importer.detectImageFormat bytes ∉ importer.allowlist
      · right
        simp only [hformat, if_true]
        refine ⟨fun bytes' h => ?_, hreject _ _ _ _⟩
        obtain rfl := hread bytes' h
        exact h.format hformat
      simp only [hformat, if_false]
      cases hheader : (importer.parseImageHeader bytes).filter fun header =>
          ¬ (header.width < 1 ∨ header.height < 1 ∨ header.pixelFormat = "") with
      | none =>
          right
          refine ⟨fun bytes' h => ?_, hreject _ _ _ _⟩
          obtain rfl := hread bytes' h
          have hsome := h.header
          rw [hheader] at hsome
          exact (nomatch hsome)
      | some header =>
          simp only [Persist.read_bind]
          by_cases hsensor : db.hasSensor file.sensorId
          · by_cases htimestamp : file.timestampNs = 0
            · right
              simp only [hsensor, htimestamp, Bool.not_true, Bool.false_eq_true, if_true, if_false]
              exact ⟨fun _ h => h.timestamp htimestamp, hreject _ _ _ _⟩
            simp only [hsensor, htimestamp, Bool.not_true, Bool.false_eq_true, if_false]
            -- past the checks of the file, the store and the tables decide
            by_cases hnew : ¬ db.observationExists
                (importer.deriveObservationId file.sensorId file.timestampNs (sha256Hex bytes)) ∧
                Writable db bytes
            · left
              refine ⟨bytes, ⟨hbytes, hformat, by rw [hheader]; rfl, hsensor, htimestamp,
                hnew.1, hnew.2⟩, ?_⟩
              exact (importer.imported_importFile batch file header sequenceIndex
                inputs.artifactUuid hnew.1 hnew.2).state rfl
            · right
              refine ⟨fun bytes' h => ?_, ?_⟩
              · obtain rfl := hread bytes' h
                exact hnew ⟨h.new, h.writable⟩
              · apply (importer.quiet_importFile batch file header sequenceIndex
                  inputs.artifactUuid _).state rfl
                exact or_iff_not_imp_left.mpr fun hnot hwritable => hnew ⟨hnot, hwritable⟩
          · right
            simp only [hsensor, Bool.not_false, if_true]
            exact ⟨fun _ h => hsensor h.sensor, hreject _ _ _ _⟩

/-! ## Files that displace an artifact

A row is inserted by replacing every row that shares one of its keys. So a
reference is lost exactly if the new row shares one key with the row it names,
and not the other. -/

/-- The artifact registered for the file shares one unique key, and not the
other, with the artifact of an observation. -/
def Displaces (file : ImageSourceFile) (inputs : FileInputs) (db : ProjectTables) : Prop :=
  ∃ bytes, importer.Registers file inputs db bytes ∧
    ∃ observation ∈ db.observations, ∃ row ∈ db.store.artifacts.rows,
      formatUuid row.artifactId = observation.row.artifactRef ∧
      ¬ (row.artifactId = inputs.artifactUuid ↔ row.contentHash = sha256Hex bytes)

theorem Quiet.resolved {db db' : ProjectTables} (h : Quiet db db') (hdb : Resolved db) :
    Resolved db' := by
  intro observation hmem
  rw [h.1]
  exact hdb observation (h.2 ▸ hmem)

/-- A new artifact leaves the references alone unless it takes one key of an artifact they name. -/
theorem Imported.resolved_iff {bytes : List UInt8} {artifactUuid : Uuid} {db db' : ProjectTables}
    (h : Imported bytes artifactUuid db db') (hdb : Resolved db) :
    Resolved db' ↔ ∀ observation ∈ db.observations, ∀ row ∈ db.store.artifacts.rows,
      formatUuid row.artifactId = observation.row.artifactRef →
      (row.artifactId = artifactUuid ↔ row.contentHash = sha256Hex bytes) := by
  obtain ⟨observed, hobserved, new, rfl, hhash, hartifacts, hobservations⟩ := h
  rw [← hhash]
  -- a reference that resolved before depends on the row that it names
  have hkept : ∀ observation ∈ db.observations, ∀ row ∈ db.store.artifacts.rows,
      formatUuid row.artifactId = observation.row.artifactRef →
      (Resolves db'.store.artifacts observation ↔
        (row.artifactId = new.artifactId ↔ row.contentHash = new.contentHash)) := by
    intro observation hmem row hrow href
    obtain ⟨uuid, found, huuid, hfound, hfoundHash⟩ := hdb observation hmem
    obtain ⟨hfoundMem, hid⟩ := ArtifactTable.findById_eq_some.mp hfound
    obtain rfl : uuid = row.artifactId := formatUuid_injective (huuid.trans href.symm)
    obtain rfl : found = row := List.inj_on_of_nodup_map db.store.artifacts.ids hfoundMem hrow hid
    rw [hartifacts]
    exact resolves_upsert_iff hrow href hfoundHash
  constructor
  · intro hdb' observation hmem row hrow href
    apply (hkept observation hmem row hrow href).mp
    apply hdb' observation
    rw [hobservations]
    exact List.mem_append_left observed hmem
  · intro hkeys observation hmem
    rw [hobservations] at hmem
    rcases List.mem_append.mp hmem with hold | hnew
    · obtain ⟨uuid, row, huuid, hrow, hrowHash⟩ := hdb observation hold
      obtain ⟨hrowMem, rfl⟩ := ArtifactTable.findById_eq_some.mp hrow
      exact (hkept observation hold row hrowMem huuid).mpr
        (hkeys observation hold row hrowMem huuid)
    · obtain ⟨href, hbytes⟩ := hobserved observation hnew
      refine ⟨new.artifactId, new, href.symm, ?_, by rw [hbytes, hhash]⟩
      rw [hartifacts]
      exact ArtifactTable.findById_eq_some.mpr ⟨ArtifactTable.mem_upsert.mpr (.inl rfl), rfl⟩

theorem processFile_resolved_iff {db : ProjectTables} (hdb : Resolved db) (batch : Batch)
    (file : ImageSourceFile) (sequenceIndex : Nat) (inputs : FileInputs) :
    Resolved (importer.processFile batch file sequenceIndex inputs db).2 ↔
      ¬ importer.Displaces file inputs db := by
  rcases importer.processFile_spec db batch file sequenceIndex inputs with
    ⟨bytes, hregisters, himported⟩ | ⟨hnone, hquiet⟩
  · rw [himported.resolved_iff hdb]
    constructor
    · rintro hkeys ⟨bytes', hregisters', observation, hmem, row, hrow, href, hkey⟩
      obtain rfl : bytes' = bytes := by
        have hread := hregisters'.read.symm.trans hregisters.read
        exact Except.ok.inj hread
      exact hkey (hkeys observation hmem row hrow href)
    · intro hkeep observation hmem row hrow href
      by_contra hkey
      exact hkeep ⟨bytes, hregisters, observation, hmem, row, hrow, href, hkey⟩
  · apply iff_of_true (hquiet.resolved hdb)
    rintro ⟨bytes, hregisters, _⟩
    exact hnone bytes hregisters

/-! ## Sequences of imports

Induction over the files of a batch, and over the batches. Rows that were
displaced do not come back, so the condition is also needed. -/

/-- The files of a batch, one after the other, until an error ends the call. -/
def files (batch : Batch) (inputs : Nat → FileInputs) :
    Actions ProjectTables (ImageSourceFile × Nat) where
  step := fun (file, sequenceIndex) db =>
    match importer.processFile batch file sequenceIndex (inputs sequenceIndex) db with
    | (.ok _, db) => some db
    | (.error _, _) => none

/-- Calls of `Import`, one after the other; one that ends with an error leaves what it wrote. -/
def imports : Actions ProjectTables ImportCall where
  step call db := some (importer.importBatch call db).2

/-- Every observation resolves when the batch is open, and then after each file. -/
def CallResolved (call : ImportCall) (db : ProjectTables) : Prop :=
  match importer.openBatch call db with
  | (.ok batch, db) => Resolved db ∧ (importer.files batch call.inputs).Along
      (fun (file, i) db => Resolved (importer.processFile batch file i (call.inputs i) db).2)
      (ordered call).zipIdx db
  | (.error _, db) => Resolved db

/-- No file of the call displaces an artifact. -/
def CallKeeps (call : ImportCall) (db : ProjectTables) : Prop :=
  match importer.openBatch call db with
  | (.ok batch, db) => (importer.files batch call.inputs).Along
      (fun (file, i) db => ¬ importer.Displaces file (call.inputs i) db) (ordered call).zipIdx db
  | (.error _, _) => True

theorem quiet_openBatch (call : ImportCall) (db : ProjectTables) :
    Quiet db (importer.openBatch call db).2 := by
  have hscenes : ∀ {α : Type} (f : SceneTables → Except ProjectError α × SceneTables),
      Persist.Triple (Quiet db) (ProjectTables.onScenes f) (fun _ => Quiet db) (Quiet db) := by
    intro α f s hs
    unfold ProjectTables.onScenes Persist.within
    rcases f s.scenes with ⟨_ | _, _⟩ <;> exact hs
  -- the session is looked up, or inserted into a table of its own
  have hsession : Persist.Triple (Quiet db) (importer.resolveSession call) (fun _ => Quiet db)
      (Quiet db) := by
    unfold resolveSession
    cases call.explicitSession with
    | some sessionId =>
        refine (Persist.Triple.read.post (fun _ _ h => h.1) fun _ h => h).bind fun found => ?_
        apply Persist.Triple.ite
        · exact fun _ => Persist.Triple.pure fun _ hs => hs
        · exact fun _ => Persist.Triple.fail fun _ hs => hs
    | none =>
        refine (Quiet.write fun s s' hok => ?_).bind fun _ => ?_
        · rw [ProjectTables.insertRow_eq_ok hok]
          exact ⟨rfl, rfl⟩
        · exact Persist.Triple.pure fun _ hs => hs
  have hopen : Persist.Triple (Quiet db) (importer.openBatch call) (fun _ => Quiet db)
      (Quiet db) := by
    unfold openBatch
    apply Persist.Triple.ite
    · exact fun _ => Persist.Triple.fail fun _ hs => hs
    · intro _
      refine hsession.bind fun sessionId => ?_
      refine (hscenes _).bind fun scene => ?_
      refine (hscenes _).bind fun _ => ?_
      exact Persist.Triple.pure fun _ hs => hs
  exact hopen.state ⟨rfl, rfl⟩

/-- A batch none of whose files displaces an artifact leaves observations that resolve. -/
theorem resolved_processFiles {batch : Batch} {inputs : Nat → FileInputs}
    {files : List (ImageSourceFile × Nat)} {db : ProjectTables} (hdb : Resolved db)
    (hfiles : (importer.files batch inputs).Along
      (fun (file, i) db => ¬ importer.Displaces file (inputs i) db) files db) :
    Resolved (importer.processFiles batch inputs files db).2 := by
  induction files generalizing db with
  | nil => exact hdb
  | cons entry rest ih =>
      obtain ⟨file, i⟩ := entry
      obtain ⟨hfile, hrest⟩ := hfiles
      have hnext := (importer.processFile_resolved_iff hdb batch file i (inputs i)).mpr hfile
      cases hprocess : importer.processFile batch file i (inputs i) db with
      | mk result db' =>
          rw [hprocess] at hnext
          cases result with
          -- the call ends with this file
          | error e =>
              unfold processFiles
              rw [Persist.bind_of_error hprocess]
              exact hnext
          | ok outcome =>
              have hstep : (importer.files batch inputs).step (file, i) db = some db' := by
                simp only [ImageImporter.files, hprocess]
              have hresolved := ih hnext (hrest db' hstep)
              unfold processFiles
              rw [Persist.bind_of_ok hprocess]
              cases hprocessRest : importer.processFiles batch inputs rest db' with
              | mk result' db'' =>
                  rw [hprocessRest] at hresolved
                  cases result' with
                  | error e =>
                      rw [Persist.bind_of_error hprocessRest]
                      exact hresolved
                  | ok entries =>
                      rw [Persist.bind_of_ok hprocessRest]
                      exact hresolved

theorem callResolved_iff {call : ImportCall} {db : ProjectTables} (hdb : Resolved db) :
    importer.CallResolved call db ↔ importer.CallKeeps call db := by
  have hopened := (importer.quiet_openBatch call db).resolved hdb
  unfold CallResolved CallKeeps
  cases hopen : importer.openBatch call db with
  | mk result db' =>
      rw [hopen] at hopened
      cases result with
      | error e => exact iff_of_true hopened trivial
      | ok batch =>
          refine (and_iff_right hopened).trans (Actions.along_iff_of_invariant ?_ ?_ hopened)
          · intro (file, i) s s' hs hkeep hstep
            have hnext := (importer.processFile_resolved_iff hs batch file i (call.inputs i)).mpr hkeep
            cases hprocess : importer.processFile batch file i (call.inputs i) s with
            | mk result s' =>
                rw [hprocess] at hnext
                cases result <;> simp only [ImageImporter.files, hprocess] at hstep <;> cases hstep
                exact hnext
          · intro (file, i) s hs
            exact importer.processFile_resolved_iff hs batch file i (call.inputs i)

theorem resolved_importBatch {call : ImportCall} {db : ProjectTables} (hdb : Resolved db)
    (hcall : importer.CallKeeps call db) : Resolved (importer.importBatch call db).2 := by
  have hopened := (importer.quiet_openBatch call db).resolved hdb
  unfold CallKeeps at hcall
  unfold importBatch
  cases hopen : importer.openBatch call db with
  | mk result db' =>
      rw [hopen] at hopened hcall
      cases result with
      | error e =>
          rw [Persist.bind_of_error hopen]
          exact hopened
      | ok batch =>
          rw [Persist.bind_of_ok hopen]
          exact importer.resolved_processFiles hopened hcall

/-- Every observation resolves, at every point of a sequence of imports into a
project that has none, exactly when no file displaces an artifact. -/
theorem artifactRefs_iff (db : ProjectTables) (calls : List ImportCall) :
    importer.imports.Along importer.CallResolved calls { db with observations := [] } ↔
      importer.imports.Along importer.CallKeeps calls { db with observations := [] } := by
  have hnone : Resolved { db with observations := [] } := fun _ hmem => (nomatch hmem)
  refine Actions.along_iff_of_invariant ?_ ?_ hnone
  · intro call s s' hs hkeep hstep
    cases hstep
    exact importer.resolved_importBatch hs hkeep
  · exact fun call s hs => importer.callResolved_iff hs

/-! ## One picture, taken twice -/

/-- The bytes of a PNG file up to the end of its image header: one grey pixel of 8 bits. -/
def greyPixel : List UInt8 :=
  [0x89, 0x50, 0x4E, 0x47, 0x0D, 0x0A, 0x1A, 0x0A, 0, 0, 0, 13, 0x49, 0x48, 0x44, 0x52,
    0, 0, 0, 1, 0, 0, 0, 1, 8, 0, 0, 0, 0]

/-- An importer of such pixels; it derives its identifiers from the capture time. -/
def pixelImporter : ImageImporter where
  projectId := ⟨1⟩
  detectImageFormat _ := .png
  parseImageHeader _ := some ⟨.png, 1, 1, "gray8", "image/png"⟩
  deriveFrameId _ timestampNs _ := ⟨timestampNs.toBitVec.setWidth 128⟩
  deriveObservationId _ timestampNs _ := ⟨timestampNs.toBitVec.setWidth 128⟩

/-- The same pixel from one camera at two times. -/
def twoExposures : ImportCall where
  files := [{ path := "a.png", sensorId := ⟨1⟩, timestampNs := 1 },
    { path := "b.png", sensorId := ⟨1⟩, timestampNs := 2 }]
  sessionId := ⟨1⟩
  sceneId := ⟨1⟩
  firstVersionId := ⟨1⟩
  versionId := ⟨2⟩
  inputs i := ⟨.ok greyPixel, .nil, ⟨i + 1⟩⟩

/-- A project with one camera. -/
def oneCamera : ProjectTables :=
  { scenes := { projects := [⟨1⟩] }, calibrations := { sensors := [⟨⟨1⟩, none⟩] } }

/-- The second exposure takes the row of the first, and the first observation refers to nothing. -/
theorem second_exposure_displaces :
    ¬ Resolved (pixelImporter.importBatch twoExposures oneCamera).2 := by
  set db := (pixelImporter.importBatch twoExposures oneCamera).2 with hdb
  have hrefs : formatUuid ⟨1⟩ ∈ db.observations.map (·.row.artifactRef) := by decide +kernel
  have hids : db.store.artifacts.rows.map (·.artifactId) = [⟨2⟩] := by decide +kernel
  intro hresolved
  obtain ⟨observation, hmem, href⟩ := List.mem_map.mp hrefs
  obtain ⟨uuid, row, huuid, hrow, _⟩ := hresolved observation hmem
  obtain rfl : uuid = ⟨1⟩ := formatUuid_injective (huuid.trans href)
  obtain ⟨hrowMem, hid⟩ := ArtifactTable.findById_eq_some.mp hrow
  have hlisted : row.artifactId ∈ db.store.artifacts.rows.map (·.artifactId) :=
    List.mem_map.mpr ⟨row, hrowMem, rfl⟩
  rw [hids, hid] at hlisted
  exact absurd hlisted (by decide)

end ImageImporter

end SpatialPlatform.Importers
