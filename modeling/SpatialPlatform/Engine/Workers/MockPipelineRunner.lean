import SpatialPlatform.Engine.Pipeline.FeatureExtraction
import SpatialPlatform.Engine.Pipeline.Quality.QualityReport
import SpatialPlatform.Engine.Workers.InProcessExecutor

/-!
# The mock pipeline runner

`engine/workers/mock_pipeline_runner.cpp`: the task body that the in-process
executor runs for every pipeline of the repository. It ends by emitting the
content hash of the payload it has stored.
-/

namespace SpatialPlatform.Engine

open SpatialPlatform.Core

/-! ## Mock features

The features are a function of the digest of the image and of a count. -/

/-- The state of the xorshift64* generator after one step. -/
def xorshift (state : UInt64) : UInt64 :=
  let state := state ^^^ (state >>> 12)
  let state := state ^^^ (state <<< 25)
  state ^^^ (state >>> 27)

/-- `next`: the output, and the state behind it. -/
def xorshiftNext (state : UInt64) : UInt64 × UInt64 :=
  (xorshift state * 0x2545F4914F6CDD1D, xorshift state)

/-- `(word << 8) | byte`. -/
def appendByte (word : UInt64) (byte : UInt8) : UInt64 := (word <<< 8) ||| byte.toUInt64

/-- The digest, eight bytes at a time, folded into one word. -/
def foldWords (state : UInt64) : List UInt8 → UInt64
  | b₀ :: b₁ :: b₂ :: b₃ :: b₄ :: b₅ :: b₆ :: b₇ :: rest =>
      foldWords (state ^^^ [b₀, b₁, b₂, b₃, b₄, b₅, b₆, b₇].foldl appendByte 0) rest
  | _ => state

/-- The seed that `DeriveMockFeatures` takes from the digest of the image. -/
def mockSeed (digest : String) : UInt64 :=
  let state := foldWords 0 (stringBytes digest)
  if state = 0 then 0x9e3779b97f4a7c15 else state

/-- `keypoint_count` of a configuration that could be read; the default is 64. -/
def configuredCount (cfg : Json) : Nat :=
  match (cfg.member? "config").bind (·.member? "keypoint_count") |>.bind Json.integer? with
  | some n => if 0 < n.toInt && n.toInt ≤ 4096 then n.toInt.toNat else 64
  | none => 64

/-- The number of keypoints. Only a parse error is caught. -/
def mockCount (jsonLib : JsonLibrary) (configJson : String) : Except JsonException Nat :=
  if configJson = "" then .ok 64
  else match jsonLib.parse configJson with
    | .ok cfg => .ok (configuredCount cfg)
    | .error (.parseError _) => .ok 64
    | .error e => .error e

/-- `jitter`. -/
def jitter (state : UInt64) : Float × UInt64 :=
  let (word, state) := xorshiftNext state
  ((word % 1000).toFloat / 1000.0, state)

/-- A descriptor row of `n` values. -/
def mockRow : Nat → UInt64 → List Float × UInt64
  | 0, state => ([], state)
  | n + 1, state =>
      let (word, state) := xorshiftNext state
      let (row, state) := mockRow n state
      ((word % 65536).toFloat / 65536.0 :: row, state)

/-- Keypoint `i` of the grid. -/
def mockPoint (side : UInt64) (spacing : Float) (i : UInt64) (state : UInt64) :
    FeaturePoint × UInt64 :=
  let (jitterX, state) := jitter state
  let (jitterY, state) := jitter state
  let (jitterSize, state) := jitter state
  let (angle, state) := xorshiftNext state
  let (response, state) := xorshiftNext state
  ({ x := (i % side).toFloat * spacing + jitterX * spacing * 0.25
     y := (i / side).toFloat * spacing + jitterY * spacing * 0.25
     size := 2.0 + jitterSize * 4.0
     angle := (angle % 62831).toFloat / 100.0
     response := (response % 100000).toFloat / 100000.0 }, state)

/-- The keypoints from `i` on, `n` of them, each with its descriptor row. -/
def mockGrid (side : UInt64) (spacing : Float) :
    Nat → UInt64 → UInt64 → List (FeaturePoint × List Float)
  | 0, _, _ => []
  | n + 1, i, state =>
      let (p, state) := mockPoint side spacing i state
      let (row, state) := mockRow 16 state
      (p, row) :: mockGrid side spacing n (i + 1) state

/-- `std::ceil`, of a value that is not negative, as a `std::size_t`. -/
def ceilSize (x : Float) : UInt64 :=
  if x.toUInt64.toFloat < x then x.toUInt64 + 1 else x.toUInt64

/-- The features of `count` keypoints from a seed. -/
def mockFeatures (count : Nat) (seed : UInt64) : List (FeaturePoint × List Float) :=
  let side := ceilSize (UInt64.ofNat count).toFloat.sqrt
  let spacing := if 0 < side then 96.0 / side.toFloat else 96.0
  mockGrid side spacing count 0 seed

variable (jsonLib : JsonLibrary)

/-- `DeriveMockFeatures`. -/
def deriveMockFeatures (imageBytes : List UInt8) (configJson : String) :
    Except JsonException (List (FeaturePoint × List Float)) := do
  let count ← mockCount jsonLib configJson
  return mockFeatures count (mockSeed (sha256Hex imageBytes))

/-- What the `feature_extract` stage writes. -/
def mockFeatureInput (features : List (FeaturePoint × List Float)) : WriteFeatureArtifactInput where
  detector := "mock"
  descriptorType := "mock_16"
  keypoints := features.map (·.1)
  descriptors := features.map (·.2)

/-! ## The runner

Three kinds of stages; whatever leaves the runner as an exception is reported as
a failure. -/

/-- A `ProjectError` that leaves the runner; none of those here is recoverable. -/
def RunnerEnd.ofProjectError (e : ProjectError) : RunnerEnd :=
  .projectError e.code.name e.what false

/-- A `json` exception that leaves the runner. -/
def RunnerEnd.ofJsonException (e : JsonException) : RunnerEnd := .exception e.what

variable (build : EngineBuild) (now : String) (store : ArtifactStore) (request : TaskRequest)

/-- The `validate` stage. -/
def runValidate : Except RunnerEnd ArtifactRef :=
  match evaluateQuality jsonLib build now request.pipelineHash "validate" request.configJson
      request.inputRefs with
  | .error e => .error (.ofJsonException e)
  | .ok report => .ok (ArtifactStore.put (stringBytes (qualityReportToJson jsonLib report)))

/-- The `feature_extract` stage. -/
def runFeatureExtract : Except RunnerEnd ArtifactRef :=
  match request.inputRefs with
  | [] =>
      .error (.ofProjectError ⟨.validationDomain, "feature_extract: missing input image ref"⟩)
  | front :: _ =>
      match store.get front with
      | .error e => .error (.ofProjectError e)
      | .ok none =>
          .error (.ofProjectError ⟨.validationDomain,
            "feature_extract: input image '" ++ front ++ "' is not in the artifact store"⟩)
      | .ok (some image) =>
          match deriveMockFeatures jsonLib image request.configJson with
          | .error e => .error (.ofJsonException e)
          | .ok features =>
              (writeFeatureArtifactPayload jsonLib (mockFeatureInput features)).mapError
                .ofProjectError

/-- The payload of every other stage: task type, configuration and input refs. -/
def stagePayload : String :=
  request.taskType ++ "|" ++ request.configJson ++ String.join (request.inputRefs.map ("|" ++ ·))

/-- The content hash of the payload, or what leaves the runner. -/
def producedRef : Except RunnerEnd ArtifactRef :=
  if request.taskType = "validate" then runValidate jsonLib build now request
  else if request.taskType = "feature_extract" then runFeatureExtract jsonLib store request
  else .ok (ArtifactStore.put (stringBytes (stagePayload request)))

/-- `MakeMockPipelineRunner`: the steps of the runner for a request. -/
def mockPipelineRunner : List RunnerStep :=
  match producedRef jsonLib build now store request with
  | .error e => [.finish e]
  | .ok contentHash =>
      [.emit ⟨request.taskId, .artifactProduced contentHash⟩, .emit ⟨request.taskId, .completed⟩,
        .finish .returned]

/-- The content hash that the runner announces. -/
def RunnerStep.artifact? : RunnerStep → Option ArtifactRef
  | .emit ⟨_, .artifactProduced contentHash⟩ => some contentHash
  | _ => none

theorem artifact_mockPipelineRunner :
    (mockPipelineRunner jsonLib build now store request).findSome? RunnerStep.artifact? =
      (producedRef jsonLib build now store request).toOption := by
  unfold mockPipelineRunner
  cases producedRef jsonLib build now store request <;> rfl

end SpatialPlatform.Engine
