import SpatialPlatform.Core.Artifacts.StoreState
import SpatialPlatform.Core.Storage.Calibrations
import SpatialPlatform.Core.Storage.Scenes
import SpatialPlatform.Lib.Persist

/-!
# The tables of a project

The parts of `MetadataDb` that an import writes, next to the artifact store:
capture sessions, frames, observations with their payload rows, and import
rejections. Every insert is refused on a handle that is open for reading, and by
the primary and foreign keys of its table.
-/

namespace SpatialPlatform.Core

open SpatialPlatform.Lib

/-- `CaptureSessionRow`. -/
structure CaptureSessionRow where
  sessionId : Uuid
  projectId : Uuid
  name : String := ""
  startedAtNs : Int64 := 0
  endedAtNs : Int64 := 0
  sourceUri : String := ""
  status : String := "open"
  provenanceJson : String := ""
  deriving DecidableEq, Repr

/-- `FrameRow`; a nil identifier is stored as NULL. -/
structure FrameRow where
  frameId : Uuid
  sceneId : Uuid
  sessionId : Uuid := .nil
  timestampNs : Int64 := 0
  sequenceIndex : Int := 0
  sensorId : Uuid := .nil
  poseRef : Uuid := .nil
  propertiesJson : String := ""
  deriving DecidableEq, Repr

/-- `ObservationRow`, as it is inserted. -/
structure ObservationRow where
  observationId : Uuid
  sceneId : Uuid
  sensorId : Uuid
  frameId : Uuid := .nil
  sessionId : Uuid := .nil
  timestampNs : Int64 := 0
  type : String := ""
  artifactRef : String := ""
  sourceJson : String := ""
  propertiesJson : String := ""
  deriving DecidableEq, Repr

/-- `ObservationPayloadRow`. -/
structure ObservationPayloadRow where
  observationId : Uuid
  width : Int := 0
  height : Int := 0
  pixelFormat : String := ""
  deriving DecidableEq, Repr

/-- `ImportRejectionRow`. -/
structure ImportRejectionRow where
  rejectionId : Uuid
  projectId : Uuid
  sessionId : Uuid
  sequenceIndex : Int := 0
  sourcePath : String
  mimeType : String := ""
  importer : String
  importerVersion : String
  errorCode : String
  diagnostic : String := ""
  deriving DecidableEq, Repr

/-- An observation, with the bytes it was imported from; no table holds those. -/
structure ImportedObservation where
  row : ObservationRow
  bytes : List UInt8
  deriving DecidableEq, Repr

/-- The artifact store and the tables of a project. The three parts that can be
open for reading are so together. -/
structure ProjectTables where
  store : StoreState := {}
  scenes : SceneTables := {}
  calibrations : CalibrationTables := {}
  sessions : List CaptureSessionRow := []
  frames : List FrameRow := []
  observations : List ImportedObservation := []
  payloadRows : List ObservationPayloadRow := []
  rejections : List ImportRejectionRow := []

/-- A program on a project. -/
abbrev ProjectM := Persist ProjectTables ProjectError

namespace ProjectTables

/-- An `INSERT` under the checks that its table makes: the key must be new, each reference found. -/
def insertRow (what key : String) (db : ProjectTables) (duplicate : Bool)
    (references : List Bool) (inserted : ProjectTables) : Except ProjectError ProjectTables :=
  if db.store.readOnly then .error ⟨.storageReadOnly, "cannot write to a read-only project"⟩
  else if duplicate then
    .error ⟨.schemaInvalid,
      "cannot insert " ++ what ++ " row: UNIQUE constraint failed: " ++ key⟩
  else if references.any (!·) then
    .error ⟨.schemaInvalid, "cannot insert " ++ what ++ " row: FOREIGN KEY constraint failed"⟩
  else .ok inserted

def hasProject (db : ProjectTables) (projectId : Uuid) : Bool := projectId ∈ db.scenes.projects

def hasScene (db : ProjectTables) (sceneId : Uuid) : Bool :=
  db.scenes.scenes.any (·.sceneId = sceneId)

/-- `FindSensor` finds a row. -/
def hasSensor (db : ProjectTables) (sensorId : Uuid) : Bool :=
  db.calibrations.sensors.any (·.sensorId = sensorId)

/-- `FindSession` finds a row. -/
def hasSession (db : ProjectTables) (sessionId : Uuid) : Bool :=
  db.sessions.any (·.sessionId = sessionId)

/-- `FrameExists`. -/
def frameExists (db : ProjectTables) (frameId : Uuid) : Bool := db.frames.any (·.frameId = frameId)

/-- `ObservationExists`. -/
def observationExists (db : ProjectTables) (observationId : Uuid) : Bool :=
  db.observations.any (·.row.observationId = observationId)

/-- `InsertCaptureSession`. -/
def insertCaptureSession (row : CaptureSessionRow) (db : ProjectTables) :
    Except ProjectError ProjectTables :=
  insertRow "capture session" "capture_sessions.session_id" db (db.hasSession row.sessionId)
    [db.hasProject row.projectId]
    { db with sessions := db.sessions ++ [row] }

/-- `InsertFrame`. -/
def insertFrame (row : FrameRow) (db : ProjectTables) : Except ProjectError ProjectTables :=
  insertRow "frame" "frames.frame_id" db (db.frameExists row.frameId)
    [db.hasScene row.sceneId, row.sensorId.isNil || db.hasSensor row.sensorId]
    { db with frames := db.frames ++ [row] }

/-- `InsertObservation`. -/
def insertObservation (observation : ImportedObservation) (db : ProjectTables) :
    Except ProjectError ProjectTables :=
  let row := observation.row
  insertRow "observation" "observations.observation_id" db
    (db.observationExists row.observationId)
    [db.hasScene row.sceneId, db.hasSensor row.sensorId,
      row.frameId.isNil || db.frameExists row.frameId]
    { db with observations := db.observations ++ [observation] }

/-- `InsertObservationPayload`. -/
def insertObservationPayload (row : ObservationPayloadRow) (db : ProjectTables) :
    Except ProjectError ProjectTables :=
  insertRow "observation payload" "observation_payloads.observation_id" db
    (db.payloadRows.any (·.observationId = row.observationId))
    [db.observationExists row.observationId]
    { db with payloadRows := db.payloadRows ++ [row] }

/-- `InsertImportRejection`. -/
def insertImportRejection (row : ImportRejectionRow) (db : ProjectTables) :
    Except ProjectError ProjectTables :=
  insertRow "import rejection" "import_rejections.rejection_id" db
    (db.rejections.any (·.rejectionId = row.rejectionId))
    [db.hasProject row.projectId, row.sessionId.isNil || db.hasSession row.sessionId]
    { db with rejections := db.rejections ++ [row] }

/-- A program on the artifact store. -/
def onStore {α : Type} (f : StoreState → Except ProjectError α × StoreState) : ProjectM α :=
  Persist.within (·.store) (fun db store => { db with store }) f

/-- A program on the scene tables. -/
def onScenes {α : Type} (f : SceneTables → Except ProjectError α × SceneTables) : ProjectM α :=
  Persist.within (·.scenes) (fun db scenes => { db with scenes }) f

theorem insertRow_eq_ok {what key : String} {db inserted db' : ProjectTables} {duplicate : Bool}
    {references : List Bool} (h : insertRow what key db duplicate references inserted = .ok db') :
    db' = inserted := by
  unfold insertRow at h
  split at h
  · cases h
  · split at h
    · cases h
    · split at h <;> cases h
      rfl

end ProjectTables

end SpatialPlatform.Core
