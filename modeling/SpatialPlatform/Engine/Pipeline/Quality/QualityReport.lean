import SpatialPlatform.Core.Json
import SpatialPlatform.Core.Sha256
import SpatialPlatform.Engine.Task.Types

/-!
# The quality engine

`engine/pipeline/quality/quality_report.{h,cpp}`, the evaluation behind the
`validate` stage. Metrics, score and verdict come from a generator seeded with
the run identity; the report also carries the pipeline hash and the time of the
evaluation.
-/

namespace SpatialPlatform.Engine

open SpatialPlatform.Core

/-- `kEngineVersion` and `kEngineGitCommit`, which the build fills in. -/
structure EngineBuild where
  version : String
  gitCommit : String
  deriving DecidableEq, Repr

/-! ## The generator -/

/-- `SplitMix64`. -/
structure SplitMix64 where
  state : UInt64
  deriving DecidableEq, Repr

namespace SplitMix64

/-- `Next`. -/
def next (rng : SplitMix64) : UInt64 × SplitMix64 :=
  let state := rng.state + 0x9E3779B97F4A7C15
  let z := (state ^^^ (state >>> 30)) * 0xBF58476D1CE4E5B9
  let z := (z ^^^ (z >>> 27)) * 0x94D049BB133111EB
  (z ^^^ (z >>> 31), ⟨state⟩)

/-- `Unit`: uniform in [0, 1). -/
def unit (rng : SplitMix64) : Float × SplitMix64 :=
  let (word, rng) := rng.next
  ((word >>> 11).toFloat * (1.0 / 9007199254740992.0), rng)

end SplitMix64

/-- `RunSeed`. The refs are sorted, so that the order of the caller does not matter. -/
def runSeed (pipelineHash stageId configJson : String) (inputRefs : List ArtifactRef) : String :=
  let sorted := inputRefs.insertionSort (· ≤ ·)
  sha256HexString
    (pipelineHash ++ "|" ++ stageId ++ "|" ++ configJson ++ String.join (sorted.map ("|" ++ ·)))

/-- `SeedWord`: the first sixteen digits of the digest. -/
def seedWord (digest : String) : UInt64 :=
  (digest.toList.take 16).foldl
    (fun out digit =>
      (out <<< 4) ||| UInt64.ofNat
        (if digit ≤ '9' then digit.toNat - '0'.toNat else digit.toNat - 'a'.toNat + 10))
    0

/-! ## The report

The record with all its groups, which the reader and the writer go through in
one order. -/

/-- `QualityVerdict`. -/
inductive QualityVerdict where
  | fail
  | warn
  | pass
  deriving DecidableEq, Repr

/-- `QualityVerdictName`. -/
def QualityVerdict.name : QualityVerdict → String
  | pass => "pass"
  | warn => "warn"
  | fail => "fail"

/-- `PerImageReprojection`. -/
structure PerImageReprojection where
  imageId : UInt32 := 0
  rmsePx : Float := 0
  meanErrorPx : Float := 0
  totalCount : Int := 0
  inlierCount : Int := 0
  outlierCount : Int := 0

/-- `PerPointReprojection`. -/
structure PerPointReprojection where
  point3dId : UInt64 := 0
  errorPx : Float := 0
  totalCount : Int := 0
  inlierCount : Int := 0

/-- `ReprojectionMetrics`. -/
structure ReprojectionMetrics where
  rmsePx : Float := 0
  meanErrorPx : Float := 0
  medianErrorPx : Float := 0
  thresholdPx : Float := 0
  totalCount : Int := 0
  inlierCount : Int := 0
  outlierCount : Int := 0
  perImage : List PerImageReprojection := []
  perPoint : List PerPointReprojection := []

/-- `CoverageMetrics`. -/
structure CoverageMetrics where
  completenessPct : Float := 0
  baselineRatio : Float := 0

/-- `GeometryMetrics`. -/
structure GeometryMetrics where
  pointCount : Float := 0
  meanConfidence : Float := 0

/-- `QualityThresholds`. -/
structure QualityThresholds where
  pass : Float := 80
  warn : Float := 50

/-- `QualityReport`. -/
structure QualityReport where
  pipelineHash : String
  stageId : String
  engineName : String
  engineVersion : String
  engineGitCommit : String
  thresholds : QualityThresholds
  reprojection : ReprojectionMetrics
  coverage : CoverageMetrics
  geometry : GeometryMetrics
  qualityScore : Float
  verdict : QualityVerdict
  generatedAt : String

/-! ## The evaluation

The score is a weighted sum of clamped parts, and the verdict a comparison with
the thresholds. -/

/-- `std::max`. -/
def maxFloat (x y : Float) : Float := if x < y then y else x

/-- `ParseThresholds`: whatever is not an object on the way leaves the defaults. -/
def parseThresholds (configJson : Json) : QualityThresholds :=
  if !configJson.isObject then {}
  else
    let config := configJson.value "config" (.obj [])
    if !config.isObject then {}
    else
      let quality := config.value "quality" (.obj [])
      if !quality.isObject then {}
      else
        let t := quality.value "thresholds" (.obj [])
        let read (key : String) (default : Float) : Float :=
          ((t.member? key).bind Json.number?).getD default
        let warn := read "warn" 50
        { pass := maxFloat (read "pass" 80) warn, warn := warn }

/-- `Clamp01`. -/
def clamp01 (value : Float) : Float :=
  if value < 0.0 then 0.0 else if 1.0 < value then 1.0 else value

/-- `AggregateScore`. -/
def aggregateScore (reprojection : ReprojectionMetrics) (coverage : CoverageMetrics)
    (geometry : GeometryMetrics) : Float :=
  let kRmseReferencePx := 1.5
  let reprojectionSub := 100.0 * clamp01 (1.0 - reprojection.rmsePx / kRmseReferencePx)
  let coverageSub := 100.0 * clamp01 (coverage.completenessPct / 100.0)
  let geometrySub := 100.0 * clamp01 geometry.meanConfidence
  0.5 * reprojectionSub + 0.3 * coverageSub + 0.2 * geometrySub

/-- `Classify`. -/
def classify (score : Float) (thresholds : QualityThresholds) : QualityVerdict :=
  if thresholds.pass ≤ score then .pass
  else if thresholds.warn ≤ score then .warn
  else .fail

variable (jsonLib : JsonLibrary) (build : EngineBuild)

/-- `EvaluateQuality`, at the time `now` that `Iso8601UtcNow` prints. -/
def evaluateQuality (now pipelineHash stageId configJson : String)
    (inputRefs : List ArtifactRef) : Except JsonException QualityReport := do
  let digest := runSeed pipelineHash stageId configJson inputRefs
  let config ← jsonLib.parse configJson
  let thresholds := parseThresholds config
  let rng : SplitMix64 := ⟨seedWord digest⟩
  let (unit₁, rng) := rng.unit
  let (unit₂, rng) := rng.unit
  let (unit₃, rng) := rng.unit
  let (unit₄, rng) := rng.unit
  let (unit₅, _) := rng.unit
  let rmsePx := 0.2 + 1.3 * unit₁
  let reprojection : ReprojectionMetrics := { rmsePx := rmsePx, meanErrorPx := 0.7 * rmsePx }
  let coverage : CoverageMetrics :=
    { completenessPct := 80.0 + 20.0 * unit₂, baselineRatio := 0.2 + 0.3 * unit₃ }
  let geometry : GeometryMetrics :=
    { pointCount := 30000.0 + 30000.0 * unit₄, meanConfidence := 0.5 + 0.5 * unit₅ }
  let qualityScore := aggregateScore reprojection coverage geometry
  return {
    pipelineHash := pipelineHash
    stageId := stageId
    engineName := "spatial-platform"
    engineVersion := build.version
    engineGitCommit := build.gitCommit
    thresholds := thresholds
    reprojection := reprojection
    coverage := coverage
    geometry := geometry
    qualityScore := qualityScore
    verdict := classify qualityScore thresholds
    generatedAt := now }

/-! ## Rendering

The members in the order of their keys. -/

def perImageJson (img : PerImageReprojection) : Json :=
  .object [
    ("image_id", .int img.imageId.toNat),
    ("rmse_px", .float img.rmsePx),
    ("mean_error_px", .float img.meanErrorPx),
    ("count", .int img.totalCount),
    ("inlier_count", .int img.inlierCount),
    ("outlier_count", .int img.outlierCount)]

def perPointJson (pt : PerPointReprojection) : Json :=
  .object [
    ("point3d_id", .int pt.point3dId.toNat),
    ("error_px", .float pt.errorPx),
    ("count", .int pt.totalCount),
    ("inlier_count", .int pt.inlierCount)]

/-- The `"metrics"` of a report. -/
def QualityReport.metricsJson (report : QualityReport) : Json :=
  .object [
    ("reprojection", .object [
      ("rmse_px", .float report.reprojection.rmsePx),
      ("mean_error_px", .float report.reprojection.meanErrorPx),
      ("median_error_px", .float report.reprojection.medianErrorPx),
      ("threshold_px", .float report.reprojection.thresholdPx),
      ("inlier_count", .int report.reprojection.inlierCount),
      ("outlier_count", .int report.reprojection.outlierCount),
      ("total_count", .int report.reprojection.totalCount),
      ("per_image", .arr (report.reprojection.perImage.map perImageJson)),
      ("per_point", .arr (report.reprojection.perPoint.map perPointJson))]),
    ("coverage", .object [
      ("completeness_pct", .float report.coverage.completenessPct),
      ("baseline_ratio", .float report.coverage.baselineRatio)]),
    ("geometry", .object [
      ("point_count", .float report.geometry.pointCount),
      ("mean_confidence", .float report.geometry.meanConfidence)])]

/-- The value that `QualityReportToJson` dumps. -/
def QualityReport.toJson (report : QualityReport) : Json :=
  .object [
    ("pipeline_hash", .str report.pipelineHash),
    ("stage_id", .str report.stageId),
    ("quality_engine", .object [
      ("name", .str report.engineName),
      ("version", .str report.engineVersion),
      ("git_commit", .str report.engineGitCommit)]),
    ("thresholds", .object [
      ("quality_score", .object [
        ("pass", .float report.thresholds.pass),
        ("warn", .float report.thresholds.warn)])]),
    ("metrics", report.metricsJson),
    ("quality_score", .float report.qualityScore),
    ("verdict", .str report.verdict.name),
    ("generated_at", .str report.generatedAt)]

/-- `QualityReportToJson`. -/
def qualityReportToJson (report : QualityReport) : String := jsonLib.dump (some 2) report.toJson

/-! ## What a report shows of its run -/

/-- A report names its pipeline hash and its time. -/
theorem QualityReport.toJson_inj {report₁ report₂ : QualityReport} (h : report₁.toJson = report₂.toJson) :
    report₁.pipelineHash = report₂.pipelineHash ∧ report₁.generatedAt = report₂.generatedAt := by
  constructor
  · apply Json.str.inj
    apply Json.object_inj "pipeline_hash" h (by simp)
    simp
  · apply Json.str.inj
    apply Json.object_inj "generated_at" h (by simp)
    simp

end SpatialPlatform.Engine
