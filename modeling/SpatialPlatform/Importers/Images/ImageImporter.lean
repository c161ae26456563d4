import SpatialPlatform.Core.Storage.ProjectTables
import SpatialPlatform.Importers.Images.ImageFormat

/-!
# The image importer

`importers/images/image_importer_main.cpp`. The format detection and the header
parser, and the derivation of the v5 identifiers, are functions of their
arguments and parameters of the importer, as are the texts it writes from its
configuration. What the system gives during a call, the bytes of the files and
generated identifiers, is part of the call.
-/

namespace SpatialPlatform.Importers

open SpatialPlatform.Core SpatialPlatform.Lib

/-- `ImageSourceFile`. -/
structure ImageSourceFile where
  path : String
  sourceUri : String := ""
  sensorId : Uuid := .nil
  timestampNs : Int64 := 0
  deriving DecidableEq, Repr

/-- `ImageImportEntry`. -/
structure ImageImportEntry where
  frameId : Uuid
  observationId : Uuid
  artifactUuid : Uuid := .nil
  contentHash : String
  mimeType : String
  width : Int
  height : Int
  pixelFormat : String
  reimported : Bool := false
  newInstance : Bool := false
  uncalibrated : Bool
  deriving DecidableEq, Repr

/-- `ImageImportFailure`. -/
structure ImageImportFailure where
  sourceUri : String
  code : ErrorCode
  diagnostic : String
  deriving DecidableEq, Repr

/-- `ImageImportResult`. -/
structure ImageImportResult where
  sessionId : Uuid
  imported : List ImageImportEntry := []
  failures : List ImageImportFailure := []
  deriving DecidableEq, Repr

/-- `ImageImporter`, with what it calls and the texts it writes. -/
structure ImageImporter where
  projectId : Uuid
  allowlist : List ImageFormat := [.jpeg, .png, .tiff, .exr, .raw]
  batchName : String := "import"
  configurationHash : String := ""
  propertiesJson : String := ""
  producer : ProducerInfo := { id := "image-import" }
  producerJson : String := ""
  detectImageFormat : List UInt8 → ImageFormat
  parseImageHeader : List UInt8 → Option ImageHeaderInfo
  deriveFrameId : Uuid → Int64 → String → Uuid
  deriveObservationId : Uuid → Int64 → String → Uuid

/-- What the system gives while one file is processed. -/
structure FileInputs where
  bytes : Except ProjectError (List UInt8)
  rejectionId : Uuid
  artifactUuid : Uuid

/-- A call of `Import`, with what the system gives during it; `inputs` is by
position in the processing order. -/
structure ImportCall where
  files : List ImageSourceFile
  explicitSession : Option Uuid := none
  nowNs : Int64 := 0
  sessionId : Uuid
  sceneId : Uuid
  firstVersionId : Uuid
  versionId : Uuid
  inputs : Nat → FileInputs

/-- The scene and the session of a batch. -/
structure Batch where
  sceneId : Uuid
  sessionId : Uuid

namespace ImageImporter

variable (importer : ImageImporter)

/-- A rejected file: `RecordRejection`, and the failure that `Import` collects. -/
def reject (batch : Batch) (uri mime : String) (code : ErrorCode) (diagnostic : String)
    (sequenceIndex : Nat) (rejectionId : Uuid) :
    ProjectM (Except ImageImportFailure ImageImportEntry) := do
  Persist.write <| ProjectTables.insertImportRejection
    { rejectionId
      projectId := importer.projectId
      sessionId := batch.sessionId
      sequenceIndex
      sourcePath := uri
      mimeType := mime
      importer := "image-import"
      importerVersion := importer.producer.version
      errorCode := code.name
      diagnostic }
  return .error ⟨uri, code, diagnostic⟩

/-- `MakeManifest`. -/
def makeManifest (header : ImageHeaderInfo) (fileSize : Nat) : ArtifactManifest where
  type := "image"
  producer := importer.producer
  configurationHash := importer.configurationHash
  coordinateFrame := "image"
  unit := "meter"
  fileSize := Int64.ofNat fileSize
  mimeType := header.mimeType
  validationStatus := "valid"
  width := Int64.ofInt header.width
  height := Int64.ofInt header.height
  pixelFormat := header.pixelFormat

/-- The payload write of `ProcessFile`: content that is indexed gets a new instance. -/
def writePayload (bytes : List UInt8) (manifest : ArtifactManifest) (artifactUuid : Uuid)
    (indexed : Bool) : ProjectM ArtifactWriteResult :=
  ProjectTables.onStore fun store =>
    if indexed then store.putInstance (sha256Hex bytes) manifest artifactUuid
    else store.put bytes manifest artifactUuid

/-- The rows that `ProcessFile` writes for an image whose artifact is registered. -/
def importRows (batch : Batch) (file : ImageSourceFile) (bytes : List UInt8)
    (header : ImageHeaderInfo) (sequenceIndex : Nat) (frameId observationId artifactUuid : Uuid) :
    ProjectM Unit := do
  Persist.write <| ProjectTables.insertFrame
    { frameId
      sceneId := batch.sceneId
      sessionId := batch.sessionId
      timestampNs := file.timestampNs
      sequenceIndex
      sensorId := file.sensorId }
  Persist.write <| ProjectTables.insertObservation
    { row :=
        { observationId
          sceneId := batch.sceneId
          sensorId := file.sensorId
          frameId
          sessionId := batch.sessionId
          timestampNs := file.timestampNs
          type := "image"
          artifactRef := formatUuid artifactUuid
          sourceJson := importer.producerJson
          propertiesJson := importer.propertiesJson }
      bytes }
  Persist.write <| ProjectTables.insertObservationPayload
    { observationId
      width := header.width
      height := header.height
      pixelFormat := header.pixelFormat }

/-- `ProcessFile`, for a file that has passed all checks. -/
def importFile (batch : Batch) (file : ImageSourceFile) (bytes : List UInt8)
    (header : ImageHeaderInfo) (sequenceIndex : Nat) (artifactUuid : Uuid) :
    ProjectM (Except ImageImportFailure ImageImportEntry) := do
  let uncalibrated ← Persist.read fun db =>
    (db.calibrations.resolveCalibrationAt file.sensorId file.timestampNs).isNone
  let hash := sha256Hex bytes
  let frameId := importer.deriveFrameId file.sensorId file.timestampNs hash
  let observationId := importer.deriveObservationId file.sensorId file.timestampNs hash
  let entry : ImageImportEntry :=
    { frameId
      observationId
      contentHash := hash
      mimeType := header.mimeType
      width := header.width
      height := header.height
      pixelFormat := header.pixelFormat
      uncalibrated }
  let known ← Persist.read fun db => db.observationExists observationId
  if known then return .ok { entry with reimported := true }
  else
    let manifest := importer.makeManifest header bytes.length
    let indexed ← Persist.read fun db => db.store.isReferenced hash
    let written ← writePayload bytes manifest artifactUuid indexed
    importer.importRows batch file bytes header sequenceIndex frameId observationId
      written.artifactUuid
    return .ok { entry with
      artifactUuid := written.artifactUuid
      contentHash := written.contentHash
      newInstance := indexed }

/-- `ProcessFile`. -/
def processFile (batch : Batch) (file : ImageSourceFile) (sequenceIndex : Nat)
    (inputs : FileInputs) : ProjectM (Except ImageImportFailure ImageImportEntry) :=
  let uri := if file.sourceUri = "" then file.path else file.sourceUri
  match inputs.bytes with
  | .error e =>
      importer.reject batch uri "" .importUnreadable e.message sequenceIndex inputs.rejectionId
  | .ok bytes =>
      let format := importer.detectImageFormat bytes
      if format = .unknown ∨ format ∉ importer.allowlist then
        importer.reject batch uri "" .importUnsupportedFormat "format not in the import allowlist"
          sequenceIndex inputs.rejectionId
      else match (importer.parseImageHeader bytes).filter fun header =>
          ¬ (header.width < 1 ∨ header.height < 1 ∨ header.pixelFormat = "") with
        | none =>
            importer.reject batch uri "" .importCorrupt
              "header is truncated or has no image geometry" sequenceIndex inputs.rejectionId
        | some header => do
            let sensor ← Persist.read fun db => db.hasSensor file.sensorId
            if !sensor then
              importer.reject batch uri header.mimeType .importSensorUnresolved
                ("no registered sensor: " ++ formatUuid file.sensorId) sequenceIndex
                inputs.rejectionId
            else if file.timestampNs = 0 then
              importer.reject batch uri header.mimeType .importTimestampUnresolvable
                "capture time cannot resolve to the platform time domain" sequenceIndex
                inputs.rejectionId
            else
              importer.importFile batch file bytes header sequenceIndex inputs.artifactUuid

/-- The files in processing order: by source URI, equal ones as they came. -/
def ordered (call : ImportCall) : List ImageSourceFile :=
  call.files.insertionSort fun a b => a.sourceUri ≤ b.sourceUri

/-- The session of a call: an explicit one must exist, otherwise one is created. -/
def resolveSession (call : ImportCall) : ProjectM Uuid :=
  match call.explicitSession with
  | some sessionId => do
      let found ← Persist.read fun db => db.hasSession sessionId
      if found then return sessionId
      else Persist.fail ⟨.importValidationError,
        "explicit capture session not found: " ++ formatUuid sessionId⟩
  | none => do
      let timestamps := (ordered call).map (·.timestampNs)
      Persist.write <| ProjectTables.insertCaptureSession
        { sessionId := call.sessionId
          projectId := importer.projectId
          name := importer.batchName
          startedAtNs := timestamps.foldl min Int64.maxValue
          endedAtNs := timestamps.foldl max Int64.minValue
          sourceUri := ((ordered call).head?.map (·.sourceUri)).getD ""
          provenanceJson := importer.producerJson }
      return call.sessionId

/-- `Import`, up to the first file. -/
def openBatch (call : ImportCall) : ProjectM Batch := do
  if call.files.isEmpty then
    Persist.fail ⟨.importValidationError, "import batch is empty"⟩
  else
    let sessionId ← importer.resolveSession call
    let scene ← ProjectTables.onScenes fun scenes =>
      scenes.findOrCreateScene importer.projectId importer.batchName importer.producerJson
        call.nowNs call.sceneId call.firstVersionId
    let _ ← ProjectTables.onScenes fun scenes =>
      scenes.createSceneVersion scene.sceneId "imported" importer.producerJson call.nowNs
        call.versionId
    return ⟨scene.sceneId, sessionId⟩

/-- The loop of `Import`. -/
def processFiles (batch : Batch) (inputs : Nat → FileInputs) :
    List (ImageSourceFile × Nat) → ProjectM ImageImportResult
  | [] => return { sessionId := batch.sessionId }
  | (file, sequenceIndex) :: files => do
      let outcome ← importer.processFile batch file sequenceIndex (inputs sequenceIndex)
      let result ← processFiles batch inputs files
      return match outcome with
        | .ok entry => { result with imported := entry :: result.imported }
        | .error failure => { result with failures := failure :: result.failures }

/-- `Import`. -/
def importBatch (call : ImportCall) : ProjectM ImageImportResult := do
  let batch ← importer.openBatch call
  importer.processFiles batch call.inputs (ordered call).zipIdx

end ImageImporter

end SpatialPlatform.Importers
