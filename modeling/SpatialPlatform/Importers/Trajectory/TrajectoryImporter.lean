import SpatialPlatform.Core.Storage.ProjectTables
import SpatialPlatform.Core.UuidText
import SpatialPlatform.Importers.Trajectory.TumFormat

/-!
# Importing a trajectory

`ImportTumCameraTrajectory` of `importers/trajectory/trajectory_importer.cpp`.
What it reads of a project are the capture tables and the artifact store; what
it writes are three artifacts and a row of `trajectories`, in one transaction.
-/

namespace SpatialPlatform.Importers

open SpatialPlatform.Core SpatialPlatform.Lib

/-- `Sensor`, as far as the import reads it. -/
structure SensorRecord where
  sensorId : Uuid
  projectId : Uuid
  type : String
  deriving DecidableEq, Repr

/-- `TrajectoryRow`. -/
structure TrajectoryRow (R : Type) where
  trajectoryId : Uuid
  sceneId : Uuid
  sessionId : Uuid
  kind : String
  coordinateFrame : String
  status : String
  nodeCount : Int64
  totalDistanceM : R
  totalDurationNs : Int64
  createdAtNs : Int64
  documentJson : String

/-- A project with its sensors and its trajectories. -/
structure TrajectoryProject (R : Type) where
  tables : ProjectTables := {}
  sensors : List SensorRecord := []
  trajectories : List (TrajectoryRow R) := []

/-- A program on a project. -/
abbrev TrajectoryM (R : Type) := Persist (TrajectoryProject R) ProjectError

inductive TrajectoryLengthUnit where
  | meters
  deriving DecidableEq, Repr

inductive TrajectoryClockDomain where
  | platform
  deriving DecidableEq, Repr

inductive TrajectoryPoseFrame where
  | camera
  deriving DecidableEq, Repr

/-- `TrajectoryImportOptions`. -/
structure TrajectoryImportOptions where
  sessionId : Uuid
  sensorId : Uuid
  coordinateFrame : String
  sourceProducer : String := ""
  sourceVersion : String := ""
  sourceUnit : Option TrajectoryLengthUnit := none
  clockDomain : Option TrajectoryClockDomain := none
  poseFrame : Option TrajectoryPoseFrame := none

/-- `TrajectoryImportResult`. -/
structure TrajectoryImportResult (R : Type) where
  trajectoryId : Uuid
  artifactId : Uuid
  sourceArtifactId : Uuid
  configurationArtifactId : Uuid
  sceneId : Uuid
  contentHash : String
  sourceContentHash : String
  configurationHash : String
  nodeCount : Int64
  totalDistanceM : R
  reused : Bool

/-- What one call gets from outside: random identifiers and the clock, and
whether a step of its transaction fails. Creation times of manifests, which
nothing reads, are left out. -/
structure TrajectoryImportCall where
  trajectoryId : Uuid
  rawUuid : Uuid
  configUuid : Uuid
  artifactUuid : Uuid
  createdAtNs : Int64 := 0
  /-- The failure before each of the five steps of the transaction, the last being its end. -/
  fault : Nat → Option ProjectError := fun _ => none

/-- The version and the commit that the build defines. -/
structure ImporterBuild where
  version : String
  gitCommit : String

def kProducer : String := "trajectory-import.tum"

variable {R : Type} [DoubleArith R]

/-! ## Checks

What is refused before anything is looked up. -/

def isControl (c : Char) : Bool := c.toNat < 32 || c.toNat = 127

/-- The checks of the options. -/
def checkOptions (options : TrajectoryImportOptions) : Except ProjectError Unit :=
  if options.sessionId.isNil || options.sensorId.isNil then
    .error (invalid "session and camera sensor are required")
  else if options.coordinateFrame.toList.all (fun c => c ∈ [' ', '\t', '\r', '\n']) ||
      options.coordinateFrame.toList.any isControl then
    .error (invalid "a named coordinate frame is required")
  else if options.sourceUnit ≠ some .meters ∨ options.clockDomain ≠ some .platform ∨
      options.poseFrame ≠ some .camera then
    .error (invalid "explicit meters, platform clock, and camera pose declarations are required")
  else if options.sourceProducer.toList.any isControl || options.sourceVersion.toList.any isControl ||
      (options.sourceProducer = "" && options.sourceVersion ≠ "") then
    .error (invalid "source producer and version are inconsistent")
  else .ok ()

/-- `SessionScene`, the scene of the project of a session. -/
def sessionScene (db : TrajectoryProject R) (session : CaptureSessionRow) : Option SceneRow :=
  (db.tables.scenes.openScenes session.projectId).head?.map SceneTables.readScene

/-- The scene of the options, in the given project. -/
def findScene (db : TrajectoryProject R) (projectId : Uuid) (options : TrajectoryImportOptions) :
    Except ProjectError SceneRow :=
  match db.tables.sessions.find? (·.sessionId = options.sessionId) with
  | none => .error (invalid "session is not in this project")
  | some session =>
      if session.projectId ≠ projectId then .error (invalid "session is not in this project")
      else match sessionScene db session with
        | none => .error (invalid "session has no scene in this project")
        | some scene =>
            let sensor := db.sensors.find? (·.sensorId = options.sensorId)
            if scene.projectId ≠ projectId then
              .error (invalid "session has no scene in this project")
            else if sensor.any fun sensor =>
                sensor.projectId = projectId && (sensor.type = "camera" || sensor.type = "rgbd") then
              .ok scene
            else .error (invalid "sensor is not a camera in this project")

/-- The frames of the options at a time, in the order of their numbers. -/
def framesAt (db : TrajectoryProject R) (scene : SceneRow) (options : TrajectoryImportOptions)
    (timestampNs : Int64) : List FrameRow :=
  (db.tables.frames.filter fun frame =>
    frame.sessionId = options.sessionId && frame.sensorId = options.sensorId &&
      frame.sceneId = scene.sceneId && frame.timestampNs = timestampNs).insertionSort
    fun a b => a.sequenceIndex ≤ b.sequenceIndex

/-- A node with the one frame that has its time. -/
def linkFrame (db : TrajectoryProject R) (scene : SceneRow) (options : TrajectoryImportOptions)
    (node : TrajectoryPoseNode R) : Except ProjectError (TrajectoryPoseNode R) :=
  match framesAt db scene options node.timestampNs with
  | [] => .error (invalid ("no frame matches timestamp " ++ toString node.timestampNs.toInt))
  | [frame] => .ok { node with frameId := formatUuid frame.frameId }
  | _ => .error (invalid ("multiple frames match timestamp " ++ toString node.timestampNs.toInt))

/-! ## What is to be imported -/

/-- The source and the options as they are stored. -/
structure Prepared (R : Type) where
  scene : SceneRow
  nodes : List (TrajectoryPoseNode R)
  distance : R
  source : List UInt8
  configBytes : List UInt8

def Prepared.sourceHash (prepared : Prepared R) : String := sha256Hex prepared.source

def Prepared.configHash (prepared : Prepared R) : String := sha256Hex prepared.configBytes

/-- The configuration of an import. -/
def configJson (build : ImporterBuild) (projectId : Uuid) (scene : SceneRow)
    (options : TrajectoryImportOptions) (sourceHash : String) (nodes : List (TrajectoryPoseNode R)) :
    Json :=
  Json.object [
    ("format", .str "tum_camera_v1"),
    ("project_id", .str (formatUuid projectId)),
    ("scene_id", .str (formatUuid scene.sceneId)),
    ("session_id", .str (formatUuid options.sessionId)),
    ("sensor_id", .str (formatUuid options.sensorId)),
    ("coordinate_frame", .str options.coordinateFrame),
    ("source_unit", .str "meters"),
    ("clock_domain", .str "platform"),
    ("pose_frame", .str "camera"),
    ("source_producer", .str options.sourceProducer),
    ("source_version", .str options.sourceVersion),
    ("source_hash", .str sourceHash),
    ("producer_version", .str build.version),
    ("producer_commit", .str build.gitCommit),
    ("frame_ids", .arr (nodes.map fun node => .str node.frameId))]

/-- Everything up to the first look at the artifacts. -/
def prepare (numbers : Numbers R) (json : JsonLibrary) (build : ImporterBuild) (projectId : Uuid)
    (source : List UInt8) (options : TrajectoryImportOptions) (db : TrajectoryProject R) :
    Except ProjectError (Prepared R) := do
  checkOptions options
  let scene ← findScene db projectId options
  let parsed ← parseTum numbers source
  let nodes ← parsed.mapM (linkFrame db scene options)
  let distance ← totalDistance numbers nodes
  let config := configJson build projectId scene options (sha256Hex source) nodes
  return {
    scene, nodes, distance, source
    configBytes := stringBytes (json.dump none config) }

/-! ## The artifacts

What is there already: payloads under their hashes, and a trajectory with the
same configuration. -/

/-- A program on the artifact store. -/
def onStore {α : Type} (f : StoreState → Except ProjectError α × StoreState) : TrajectoryM R α :=
  Persist.within (·.tables.store) (fun db store => { db with tables := { db.tables with store } }) f

/-- The payload of a hash that is known to the index or is on disk has to be the given bytes. -/
def verifyPayload (hash : String) (bytes : List UInt8) (message : String) : TrajectoryM R Unit := do
  let known ← Persist.read fun db =>
    (db.tables.store.artifacts.findByHash hash).isSome || (db.tables.store.payloads.lookup hash).isSome
  if known then
    let existing ← onStore fun store => store.get hash
    if existing = some bytes then pure () else Persist.fail (invalid message)
  else pure ()

/-- The first artifact of a trajectory with a configuration. -/
def existingTrajectory (configHash : String) (db : TrajectoryProject R) : Option ArtifactIndexRow :=
  db.tables.store.artifacts.rows.find? fun row =>
    row.type = "trajectory" && row.configHash = configHash

/-- The provenance that the manifest of a trajectory has. -/
def provenanceConsistent (prepared : Prepared R) (options : TrajectoryImportOptions)
    (manifest : ArtifactManifest) : Bool :=
  manifest.producer.id = kProducer && manifest.configurationHash = prepared.configHash &&
    manifest.inputArtifactHashes = [prepared.sourceHash, prepared.configHash] &&
    manifest.coordinateFrame = options.coordinateFrame && manifest.unit = "meters" &&
    manifest.validationStatus = "unverified"

/-- The payload of a trajectory, with its identifier. -/
def documentJson (numbers : Numbers R) (trajectoryId : Uuid) (nodes : List (TrajectoryPoseNode R)) :
    Json :=
  Json.object [
    ("schema_version", .int 1),
    ("trajectory_id", .str (formatUuid trajectoryId)),
    ("nodes", nodesJson numbers nodes)]

/-- The identifier in a payload that has the given nodes, and nothing else. A
value compares equal to another as `equal` says. -/
def trajectoryIdOf (numbers : Numbers R) (equal : Json → Json → Bool)
    (nodes : List (TrajectoryPoseNode R)) : Json → Except ProjectError Uuid
  | .obj members =>
      let doc : Json := .obj members
      match doc.member? "schema_version", doc.member? "trajectory_id", doc.member? "nodes" with
      | some (.int 1), some (.str text), some stored =>
          if members.length = 3 && equal stored (nodesJson numbers nodes) then parseUuid text
          else .error (invalid "existing trajectory payload is inconsistent")
      | _, _, _ => .error (invalid "existing trajectory payload is inconsistent")
  | _ => .error (invalid "existing trajectory payload is inconsistent")

/-- A row of the session for the trajectory, as the import writes it. -/
def recordConsistent (prepared : Prepared R) (options : TrajectoryImportOptions) (bytes : List UInt8)
    (row : TrajectoryRow R) : Bool :=
  row.sceneId = prepared.scene.sceneId && row.coordinateFrame = options.coordinateFrame &&
    row.kind = "slam" && row.nodeCount = Int64.ofNat prepared.nodes.length &&
    stringBytes row.documentJson = bytes

/-- Check a trajectory that is there, and return it. -/
def reuse (numbers : Numbers R) (json : JsonLibrary) (equal : Json → Json → Bool)
    (prepared : Prepared R) (options : TrajectoryImportOptions)
    (sourceIndex configIndex : Option ArtifactIndexRow) (index : ArtifactIndexRow) :
    TrajectoryM R (TrajectoryImportResult R) := do
  let manifest ← Persist.read fun db => db.tables.store.readManifest index.artifactId
  if manifest.any (provenanceConsistent prepared options) then
    let payload ← onStore fun store => store.get index.contentHash
    match payload with
    | none => Persist.fail (invalid "existing trajectory CAS payload is missing")
    | some bytes =>
        let doc := (String.fromUTF8? ⟨bytes.toArray⟩).bind fun text => (json.parse text).toOption
        match trajectoryIdOf numbers equal prepared.nodes (doc.getD .null) with
        | .error e => Persist.fail e
        | .ok trajectoryId =>
            let row ← Persist.read fun db => db.trajectories.find? fun row =>
              row.sessionId = options.sessionId && row.trajectoryId = trajectoryId
            match row, sourceIndex, configIndex with
            | some row, some source, some config =>
                if recordConsistent prepared options bytes row then
                  return {
                    trajectoryId
                    artifactId := index.artifactId
                    sourceArtifactId := source.artifactId
                    configurationArtifactId := config.artifactId
                    sceneId := prepared.scene.sceneId
                    contentHash := index.contentHash
                    sourceContentHash := prepared.sourceHash
                    configurationHash := prepared.configHash
                    nodeCount := row.nodeCount
                    totalDistanceM := row.totalDistanceM
                    reused := true }
                else
                  Persist.fail (invalid "existing trajectory database record is inconsistent")
            | _, _, _ =>
                Persist.fail (invalid "existing trajectory database record is inconsistent")
  else Persist.fail (invalid "existing trajectory provenance is inconsistent")

/-! ## Publication

Four steps in one transaction. A step that fails takes all rows back, and leaves
the files of the steps in front of it. -/

/-- `MakeManifest`. -/
def makeManifest (build : ImporterBuild) (artifactUuid : Uuid) (type : String) : ArtifactManifest where
  artifactUuid := artifactUuid
  type := type
  schemaVersion := 1
  producer := ⟨kProducer, build.version, build.gitCommit⟩
  validationStatus := "unverified"

def rawManifest (build : ImporterBuild) (call : TrajectoryImportCall) : ArtifactManifest :=
  { makeManifest build call.rawUuid "trajectory_source" with unit := "none", mimeType := "text/plain" }

def configManifest (build : ImporterBuild) (call : TrajectoryImportCall) (prepared : Prepared R) :
    ArtifactManifest :=
  { makeManifest build call.configUuid "trajectory_import_configuration" with
    unit := "none"
    mimeType := "application/json"
    inputArtifactHashes := [prepared.sourceHash] }

def trajectoryManifest (build : ImporterBuild) (call : TrajectoryImportCall) (prepared : Prepared R)
    (options : TrajectoryImportOptions) : ArtifactManifest :=
  { makeManifest build call.artifactUuid "trajectory" with
    coordinateFrame := options.coordinateFrame
    unit := "meters"
    mimeType := "application/json"
    configurationHash := prepared.configHash
    inputArtifactHashes := [prepared.sourceHash, prepared.configHash] }

/-- The text of a new trajectory. -/
def serialized (numbers : Numbers R) (json : JsonLibrary) (call : TrajectoryImportCall)
    (prepared : Prepared R) : String :=
  json.dump none (documentJson numbers call.trajectoryId prepared.nodes)

/-- From the first to the last node. -/
def totalDurationNs (nodes : List (TrajectoryPoseNode R)) : Int64 :=
  match nodes.head?, nodes.getLast? with
  | some first, some last => last.timestampNs - first.timestampNs
  | _, _ => 0

/-- The row of a new trajectory. -/
def trajectoryRow (numbers : Numbers R) (json : JsonLibrary) (call : TrajectoryImportCall)
    (prepared : Prepared R) (options : TrajectoryImportOptions) : TrajectoryRow R where
  trajectoryId := call.trajectoryId
  sceneId := prepared.scene.sceneId
  sessionId := options.sessionId
  kind := "slam"
  coordinateFrame := options.coordinateFrame
  status := "building"
  nodeCount := Int64.ofNat prepared.nodes.length
  totalDistanceM := prepared.distance
  totalDurationNs := totalDurationNs prepared.nodes
  createdAtNs := call.createdAtNs
  documentJson := serialized numbers json call prepared

/-- `AddTrajectory`. -/
def addTrajectory (row : TrajectoryRow R) (db : TrajectoryProject R) :
    Except ProjectError (TrajectoryProject R) :=
  if db.tables.store.readOnly then .error ⟨.storageReadOnly, "cannot write to a read-only project"⟩
  else if db.trajectories.any (·.trajectoryId = row.trajectoryId) then
    .error ⟨.schemaInvalid, "cannot insert trajectory row: UNIQUE constraint failed: " ++
      "trajectories.trajectory_id"⟩
  else if !db.tables.hasScene row.sceneId || !db.tables.hasSession row.sessionId then
    .error ⟨.schemaInvalid, "cannot insert trajectory row: FOREIGN KEY constraint failed"⟩
  else .ok { db with trajectories := db.trajectories ++ [row] }

/-- A rollback restores every row; files stay. -/
def rolledBack (db db' : TrajectoryProject R) : TrajectoryProject R :=
  { db with tables := { db.tables with store := { db.tables.store with
    payloads := db'.tables.store.payloads
    quarantine := db'.tables.store.quarantine
    manifests := db'.tables.store.manifests } } }

/-- `WriteTransaction`, from its constructor to `Commit` or to its destructor. -/
def writeTransaction {α : Type} (body : TrajectoryM R α) : TrajectoryM R α := fun db =>
  if db.tables.store.readOnly then
    (.error ⟨.storageReadOnly, "cannot begin a write transaction on a read-only project"⟩, db)
  else match body db with
    | (.ok a, db') => (.ok a, db')
    | (.error e, db') => (.error e, rolledBack db db')

/-- A step of a transaction, unless it fails. -/
def step {α : Type} (call : TrajectoryImportCall) (k : Nat) (x : TrajectoryM R α) : TrajectoryM R α :=
  match call.fault k with
  | none => x
  | some e => Persist.fail e

/-- The transaction that stores a new trajectory. -/
def publish (numbers : Numbers R) (json : JsonLibrary) (build : ImporterBuild)
    (prepared : Prepared R) (options : TrajectoryImportOptions) (call : TrajectoryImportCall) :
    TrajectoryM R (TrajectoryImportResult R) := writeTransaction do
  let raw ← step call 0 <| onStore fun store =>
    store.put prepared.source (rawManifest build call) call.rawUuid
  let config ← step call 1 <| onStore fun store =>
    store.put prepared.configBytes (configManifest build call prepared) call.configUuid
  let stored ← step call 2 <| onStore fun store =>
    store.put (stringBytes (serialized numbers json call prepared))
      (trajectoryManifest build call prepared options) call.artifactUuid
  step call 3 <| Persist.write (addTrajectory (trajectoryRow numbers json call prepared options))
  step call 4 <| return {
    trajectoryId := call.trajectoryId
    artifactId := stored.artifactUuid
    sourceArtifactId := raw.artifactUuid
    configurationArtifactId := config.artifactUuid
    sceneId := prepared.scene.sceneId
    contentHash := stored.contentHash
    sourceContentHash := raw.contentHash
    configurationHash := config.contentHash
    nodeCount := Int64.ofNat prepared.nodes.length
    totalDistanceM := prepared.distance
    reused := false }

/-- The import, once it is known what is to be imported. -/
def importPrepared (numbers : Numbers R) (json : JsonLibrary) (equal : Json → Json → Bool)
    (build : ImporterBuild) (prepared : Prepared R) (options : TrajectoryImportOptions)
    (call : TrajectoryImportCall) : TrajectoryM R (TrajectoryImportResult R) := do
  let sourceIndex ← Persist.read fun db =>
    db.tables.store.artifacts.findByHash prepared.sourceHash
  verifyPayload prepared.sourceHash prepared.source
    "existing source CAS payload is missing or corrupt"
  let configIndex ← Persist.read fun db =>
    db.tables.store.artifacts.findByHash prepared.configHash
  verifyPayload prepared.configHash prepared.configBytes
    "existing configuration CAS payload is missing or corrupt"
  match ← Persist.read (existingTrajectory prepared.configHash) with
  | some index => reuse numbers json equal prepared options sourceIndex configIndex index
  | none => publish numbers json build prepared options call

/-- `ImportTumCameraTrajectory`. -/
def importTumCameraTrajectory (numbers : Numbers R) (json : JsonLibrary)
    (equal : Json → Json → Bool) (build : ImporterBuild) (projectId : Uuid) (source : List UInt8)
    (options : TrajectoryImportOptions) (call : TrajectoryImportCall) :
    TrajectoryM R (TrajectoryImportResult R) := do
  match ← Persist.read (prepare numbers json build projectId source options) with
  | .error e => Persist.fail e
  | .ok prepared => importPrepared numbers json equal build prepared options call

end SpatialPlatform.Importers
