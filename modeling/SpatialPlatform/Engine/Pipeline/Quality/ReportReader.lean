import SpatialPlatform.Core.JsonPrinted
import SpatialPlatform.Engine.Pipeline.Quality.QualityReport
import SpatialPlatform.Engine.Task.Serialization

/-!
# Reading a quality report

`QualityReportFromJson` of `engine/pipeline/quality/quality_report.cpp`. It
reads every number with the type of the default that stands next to it, and some
of the defaults are literals of 32 bits.

* `qualityReport_read_back_iff` — when the reader gives back what was rendered.
-/

namespace SpatialPlatform.Engine

open SpatialPlatform.Core SpatialPlatform.Lib

/-! ## The reader

Members that are missing have their defaults; numbers are converted by the
library, to 32 bits where the field has them. -/

/-- `require`. -/
def requireMember (parsed : Json) (key : String) : Except ReadException Json :=
  match parsed.member? key with
  | some value => .ok value
  | none => throw (.project ⟨.validationDomain, "quality report is missing '" ++ key ++ "'"⟩)

/-- `value` with an empty object as default, or that object where `value` would throw. -/
def objectMember (key : String) (j : Json) : Json :=
  if j.isObject then j.value key (.obj []) else .obj []

/-- The default of a count is an `int`. -/
def perImageFromJson (element : Json) : Except ReadException PerImageReprojection := do
  let imageId ← element.valueOr getUInt32 "image_id" 0
  let rmsePx ← element.valueOr getDouble "rmse_px" 0
  let meanErrorPx ← element.valueOr getDouble "mean_error_px" 0
  let totalCount ← element.valueOr getInt "count" 0
  let inlierCount ← element.valueOr getInt "inlier_count" 0
  let outlierCount ← element.valueOr getInt "outlier_count" 0
  return { imageId, rmsePx, meanErrorPx, totalCount, inlierCount, outlierCount }

/-- The default of `point3d_id` is an `unsigned int`. -/
def perPointFromJson (element : Json) : Except ReadException PerPointReprojection := do
  let point3dId ← element.valueOr getUInt32 "point3d_id" 0
  let errorPx ← element.valueOr getDouble "error_px" 0
  let totalCount ← element.valueOr getInt "count" 0
  let inlierCount ← element.valueOr getInt "inlier_count" 0
  return { point3dId := point3dId.toUInt64, errorPx, totalCount, inlierCount }

/-- The loop over an array, which passes over what is not an object. -/
def elementsFromJson {α : Type} (read : Json → Except ReadException α) (values : Json) :
    Except ReadException (List α) :=
  match values with
  | .arr elements => (elements.filter Json.isObject).mapM read
  | _ => return []

def reprojectionFromJson (reprojection : Json) : Except ReadException ReprojectionMetrics := do
  if !reprojection.isObject then return {}
  else
    let rmsePx ← reprojection.valueOr getDouble "rmse_px" 0
    let meanErrorPx ← reprojection.valueOr getDouble "mean_error_px" 0
    let medianErrorPx ← reprojection.valueOr getDouble "median_error_px" 0
    let thresholdPx ← reprojection.valueOr getDouble "threshold_px" 0
    let inlierCount ← reprojection.valueOr getInt "inlier_count" 0
    let outlierCount ← reprojection.valueOr getInt "outlier_count" 0
    let totalCount ← reprojection.valueOr getInt "total_count" 0
    let perImage ← elementsFromJson perImageFromJson (reprojection.value "per_image" (.arr []))
    let perPoint ← elementsFromJson perPointFromJson (reprojection.value "per_point" (.arr []))
    return { rmsePx, meanErrorPx, medianErrorPx, thresholdPx, totalCount, inlierCount, outlierCount
             perImage, perPoint }

/-- A group of two numbers, with their defaults. -/
def twoNumbers {α : Type} (key₁ : String) (default₁ : Float) (key₂ : String) (default₂ : Float)
    (make : Float → Float → α) (group : Json) : Except ReadException α := do
  if !group.isObject then return make default₁ default₂
  else
    let x ← group.valueOr getDouble key₁ default₁
    let y ← group.valueOr getDouble key₂ default₂
    return make x y

def coverageFromJson : Json → Except ReadException CoverageMetrics :=
  twoNumbers "completeness_pct" 0 "baseline_ratio" 0 CoverageMetrics.mk

def geometryFromJson : Json → Except ReadException GeometryMetrics :=
  twoNumbers "point_count" 0 "mean_confidence" 0 GeometryMetrics.mk

def thresholdsFromJson : Json → Except ReadException QualityThresholds :=
  twoNumbers "pass" 80 "warn" 50 QualityThresholds.mk

/-- The names and the version of the engine. -/
def engineFromJson (engine : Json) : Except ReadException (String × String × String) := do
  if !engine.isObject then return ("", "", "")
  else
    let name ← engine.valueOr Json.getString "name" ""
    let version ← engine.valueOr Json.getString "version" ""
    let gitCommit ← engine.valueOr Json.getString "git_commit" ""
    return (name, version, gitCommit)

/-- What is neither `pass` nor `warn` is a failure. -/
def verdictOfName (verdict : String) : QualityVerdict :=
  if verdict = "pass" then .pass else if verdict = "warn" then .warn else .fail

/-- `QualityReportFromJson`, of a document. -/
def reportFromDocument (parsed : Json) : Except ReadException QualityReport := do
  let pipelineHash ← (← requireMember parsed "pipeline_hash").as Json.getString
  let stageId ← (← requireMember parsed "stage_id").as Json.getString
  let (engineName, engineVersion, engineGitCommit) ←
    engineFromJson (← requireMember parsed "quality_engine")
  let thresholds ←
    thresholdsFromJson (objectMember "quality_score" (← requireMember parsed "thresholds"))
  let metrics ← requireMember parsed "metrics"
  let reprojection ← reprojectionFromJson (objectMember "reprojection" metrics)
  let coverage ← coverageFromJson (objectMember "coverage" metrics)
  let geometry ← geometryFromJson (objectMember "geometry" metrics)
  let qualityScore ← (← requireMember parsed "quality_score").as getDouble
  let verdict ← (← requireMember parsed "verdict").as Json.getString
  let generatedAt ← parsed.valueOr Json.getString "generated_at" ""
  return { pipelineHash, stageId, engineName, engineVersion, engineGitCommit, thresholds
           reprojection, coverage, geometry, qualityScore, verdict := verdictOfName verdict
           generatedAt }

/-- `QualityReportFromJson`. Only a `parse_error` is caught. -/
def qualityReportFromJson (json : JsonLibrary) (reportJson : String) :
    Except ReadException QualityReport :=
  match json.parse reportJson with
  | .ok parsed => reportFromDocument parsed
  | .error (.parseError _) =>
      throw (.project ⟨.validationDomain, "quality report is not valid JSON"⟩)
  | .error (.outOfRange what) => throw (.json what)

/-! ## Members that were printed -/

/-- What an `int` keeps of a count. -/
def narrowCount (n : Int) : Int := (Int32.ofInt n).toInt

/-- What an `unsigned int` keeps of an id. -/
def narrowId (id : UInt64) : UInt64 := (UInt32.ofInt id.toNat).toUInt64

@[simp] theorem narrowCount_eq_self {n : Int} : narrowCount n = n ↔ IsInt32 n := by
  unfold narrowCount IsInt32
  rw [Int32.toInt_ofInt]
  simp [Int.bmod]
  omega

@[simp] theorem narrowId_eq_self {id : UInt64} : narrowId id = id ↔ id.toNat < 2 ^ 32 := by
  unfold narrowId
  rw [← UInt64.toNat_inj, UInt32.toNat_toUInt64]
  simp [UInt32.ofInt]
  omega

section Members

variable {members : List (String × Json)} (hkeys : (members.map (·.1)).Nodup) {key : String}

include hkeys

theorem count_printed {n : Int} (h : (key, .int n) ∈ members) (c : Int) :
    (Json.object members).printed.valueOr getInt key 0 = .ok c ↔ narrowCount n = c := by
  rw [valueOr_printed hkeys h, Json.printed_int]
  exact ⟨Except.ok.inj, congrArg Except.ok⟩

theorem double_printed {x : Float} (h : (key, .float x) ∈ members) (default y : Float) :
    (Json.object members).printed.valueOr getDouble key default = .ok y ↔
      x.isFinite = true ∧ x = y :=
  (valueOr_printed hkeys h).trans getDouble_printed

theorem id_printed {n : Int} (h : (key, .int n) ∈ members) (id : UInt32) :
    (Json.object members).printed.valueOr getUInt32 key 0 = .ok id ↔ UInt32.ofInt n = id := by
  rw [valueOr_printed hkeys h, Json.printed_int]
  exact ⟨Except.ok.inj, congrArg Except.ok⟩

end Members

/-! ## What comes back

The elements of the two arrays. Each number comes back as the type of the reader
has it. -/

def perImageMembers (img : PerImageReprojection) : List (String × Json) := [
  ("image_id", .int img.imageId.toNat),
  ("rmse_px", .float img.rmsePx),
  ("mean_error_px", .float img.meanErrorPx),
  ("count", .int img.totalCount),
  ("inlier_count", .int img.inlierCount),
  ("outlier_count", .int img.outlierCount)]

/-- `dump` has a text for the numbers of an image. -/
def PerImageReprojection.Finite (img : PerImageReprojection) : Prop :=
  img.rmsePx.isFinite = true ∧ img.meanErrorPx.isFinite = true

/-- The image that comes back. -/
def PerImageReprojection.reread (img : PerImageReprojection) : PerImageReprojection :=
  { img with
    totalCount := narrowCount img.totalCount
    inlierCount := narrowCount img.inlierCount
    outlierCount := narrowCount img.outlierCount }

theorem perImageFromJson_printed (img img' : PerImageReprojection) :
    perImageFromJson (perImageJson img).printed = .ok img' ↔ img.Finite ∧ img.reread = img' := by
  change perImageFromJson (Json.object (perImageMembers img)).printed = _ ↔ _
  have hkeys : ((perImageMembers img).map (·.1)).Nodup := by simp [perImageMembers]
  have hid : UInt32.ofInt img.imageId.toNat = img.imageId :=
    Except.ok.inj (getUInt32_toNat img.imageId)
  simp only [perImageFromJson, bind_eq_ok_iff,
    id_printed hkeys (show ("image_id", Json.int img.imageId.toNat) ∈ _ by simp [perImageMembers]),
    double_printed hkeys (show ("rmse_px", Json.float img.rmsePx) ∈ _ by simp [perImageMembers]),
    double_printed hkeys
      (show ("mean_error_px", Json.float img.meanErrorPx) ∈ _ by simp [perImageMembers]),
    count_printed hkeys (show ("count", Json.int img.totalCount) ∈ _ by simp [perImageMembers]),
    count_printed hkeys
      (show ("inlier_count", Json.int img.inlierCount) ∈ _ by simp [perImageMembers]),
    count_printed hkeys
      (show ("outlier_count", Json.int img.outlierCount) ∈ _ by simp [perImageMembers])]
  constructor
  · rintro ⟨_, rfl, _, ⟨hrmse, rfl⟩, _, ⟨hmean, rfl⟩, _, rfl, _, rfl, _, rfl, h⟩
    rw [hid] at h
    exact ⟨⟨hrmse, hmean⟩, Except.ok.inj h⟩
  · rintro ⟨⟨hrmse, hmean⟩, rfl⟩
    exact ⟨_, hid, _, ⟨hrmse, rfl⟩, _, ⟨hmean, rfl⟩, _, rfl, _, rfl, _, rfl, rfl⟩

def perPointMembers (pt : PerPointReprojection) : List (String × Json) := [
  ("point3d_id", .int pt.point3dId.toNat),
  ("error_px", .float pt.errorPx),
  ("count", .int pt.totalCount),
  ("inlier_count", .int pt.inlierCount)]

/-- The point that comes back. -/
def PerPointReprojection.reread (pt : PerPointReprojection) : PerPointReprojection :=
  { pt with
    point3dId := narrowId pt.point3dId
    totalCount := narrowCount pt.totalCount
    inlierCount := narrowCount pt.inlierCount }

theorem perPointFromJson_printed (pt pt' : PerPointReprojection) :
    perPointFromJson (perPointJson pt).printed = .ok pt' ↔
      pt.errorPx.isFinite = true ∧ pt.reread = pt' := by
  change perPointFromJson (Json.object (perPointMembers pt)).printed = _ ↔ _
  have hkeys : ((perPointMembers pt).map (·.1)).Nodup := by simp [perPointMembers]
  simp only [perPointFromJson, bind_eq_ok_iff,
    id_printed hkeys (show ("point3d_id", Json.int pt.point3dId.toNat) ∈ _ by simp [perPointMembers]),
    double_printed hkeys (show ("error_px", Json.float pt.errorPx) ∈ _ by simp [perPointMembers]),
    count_printed hkeys (show ("count", Json.int pt.totalCount) ∈ _ by simp [perPointMembers]),
    count_printed hkeys (show ("inlier_count", Json.int pt.inlierCount) ∈ _ by simp [perPointMembers])]
  constructor
  · rintro ⟨_, rfl, _, ⟨herror, rfl⟩, _, rfl, _, rfl, h⟩
    exact ⟨herror, Except.ok.inj h⟩
  · rintro ⟨herror, rfl⟩
    exact ⟨_, rfl, _, ⟨herror, rfl⟩, _, rfl, _, rfl, rfl⟩

/-- When the elements of an array of objects come back. -/
theorem elementsFromJson_printed {α : Type} {read : Json → Except ReadException α} {put : α → Json}
    {good : α → Prop} {f : α → α} (hobject : ∀ a, (put a).printed.isObject = true)
    (h : ∀ a b, read (put a).printed = .ok b ↔ good a ∧ f a = b) {l : List α} (l' : List α) :
    elementsFromJson read (Json.arr (l.map put)).printed = .ok l' ↔
      (∀ a ∈ l, good a) ∧ l.map f = l' := by
  rw [Json.printed_arr, elementsFromJson, List.filter_eq_self.mpr]
  · exact mapM_printed_eq_ok_iff h
  · intro j hj
    rw [List.map_map] at hj
    obtain ⟨a, _, rfl⟩ := List.mem_map.mp hj
    exact hobject a

/-! ## Groups of metrics

One lemma for each group, from the members that the renderer writes to the value
that the reader makes of them. -/

section Members

variable {members : List (String × Json)} (hkeys : (members.map (·.1)).Nodup) {key : String}
  {j : Json}

include hkeys

theorem value_printed (h : (key, j) ∈ members) (default : Json) :
    (Json.object members).printed.value key default = j.printed := by
  rw [Json.value, member?_printed hkeys h]
  rfl

theorem objectMember_printed (h : (key, j) ∈ members) :
    objectMember key (Json.object members).printed = j.printed := by
  rw [objectMember, if_pos Json.isObject_printed_object, value_printed hkeys h]

theorem requireMember_printed (h : (key, j) ∈ members) :
    requireMember (Json.object members).printed key = .ok j.printed := by
  rw [requireMember, member?_printed hkeys h]

theorem text_printed {text default : String} (h : (key, .str text) ∈ members) :
    (Json.object members).printed.valueOr Json.getString key default = .ok text := by
  rw [valueOr_printed hkeys h, Json.printed_str]
  rfl

end Members

def reprojectionMembers (m : ReprojectionMetrics) : List (String × Json) := [
  ("rmse_px", .float m.rmsePx),
  ("mean_error_px", .float m.meanErrorPx),
  ("median_error_px", .float m.medianErrorPx),
  ("threshold_px", .float m.thresholdPx),
  ("inlier_count", .int m.inlierCount),
  ("outlier_count", .int m.outlierCount),
  ("total_count", .int m.totalCount),
  ("per_image", .arr (m.perImage.map perImageJson)),
  ("per_point", .arr (m.perPoint.map perPointJson))]

/-- `dump` has a text for all errors. -/
structure ReprojectionMetrics.Finite (m : ReprojectionMetrics) : Prop where
  rmsePx : m.rmsePx.isFinite = true
  meanErrorPx : m.meanErrorPx.isFinite = true
  medianErrorPx : m.medianErrorPx.isFinite = true
  thresholdPx : m.thresholdPx.isFinite = true
  perImage : ∀ img ∈ m.perImage, img.Finite
  perPoint : ∀ pt ∈ m.perPoint, pt.errorPx.isFinite = true

/-- The metrics that come back. -/
def ReprojectionMetrics.reread (m : ReprojectionMetrics) : ReprojectionMetrics :=
  { m with
    totalCount := narrowCount m.totalCount
    inlierCount := narrowCount m.inlierCount
    outlierCount := narrowCount m.outlierCount
    perImage := m.perImage.map PerImageReprojection.reread
    perPoint := m.perPoint.map PerPointReprojection.reread }

theorem reprojectionFromJson_printed (m m' : ReprojectionMetrics) :
    reprojectionFromJson (Json.object (reprojectionMembers m)).printed = .ok m' ↔
      m.Finite ∧ m.reread = m' := by
  have hkeys : ((reprojectionMembers m).map (·.1)).Nodup := by simp [reprojectionMembers]
  have himages : ∀ l', elementsFromJson perImageFromJson
      (Json.arr (m.perImage.map perImageJson)).printed = .ok l' ↔
        (∀ img ∈ m.perImage, img.Finite) ∧ m.perImage.map PerImageReprojection.reread = l' :=
    elementsFromJson_printed (fun _ => Json.isObject_printed_object) perImageFromJson_printed
  have hpoints : ∀ l', elementsFromJson perPointFromJson
      (Json.arr (m.perPoint.map perPointJson)).printed = .ok l' ↔
        (∀ pt ∈ m.perPoint, pt.errorPx.isFinite = true) ∧
          m.perPoint.map PerPointReprojection.reread = l' :=
    elementsFromJson_printed (fun _ => Json.isObject_printed_object) perPointFromJson_printed
  -- the counts are always read, cut or not; the numbers only where they have a text
  simp only [reprojectionFromJson, Json.isObject_printed_object, Bool.not_true, Bool.false_eq_true,
    if_false, bind_eq_ok_iff,
    double_printed hkeys (show ("rmse_px", Json.float m.rmsePx) ∈ _ by simp [reprojectionMembers]),
    double_printed hkeys
      (show ("mean_error_px", Json.float m.meanErrorPx) ∈ _ by simp [reprojectionMembers]),
    double_printed hkeys
      (show ("median_error_px", Json.float m.medianErrorPx) ∈ _ by simp [reprojectionMembers]),
    double_printed hkeys
      (show ("threshold_px", Json.float m.thresholdPx) ∈ _ by simp [reprojectionMembers]),
    count_printed hkeys
      (show ("inlier_count", Json.int m.inlierCount) ∈ _ by simp [reprojectionMembers]),
    count_printed hkeys
      (show ("outlier_count", Json.int m.outlierCount) ∈ _ by simp [reprojectionMembers]),
    count_printed hkeys
      (show ("total_count", Json.int m.totalCount) ∈ _ by simp [reprojectionMembers]),
    value_printed hkeys
      (show ("per_image", Json.arr (m.perImage.map perImageJson)) ∈ _ by simp [reprojectionMembers]),
    value_printed hkeys
      (show ("per_point", Json.arr (m.perPoint.map perPointJson)) ∈ _ by simp [reprojectionMembers]),
    himages, hpoints]
  constructor
  · rintro ⟨_, ⟨h₁, rfl⟩, _, ⟨h₂, rfl⟩, _, ⟨h₃, rfl⟩, _, ⟨h₄, rfl⟩, _, rfl, _, rfl, _, rfl,
      _, ⟨himage, rfl⟩, _, ⟨hpoint, rfl⟩, h⟩
    exact ⟨⟨h₁, h₂, h₃, h₄, himage, hpoint⟩, Except.ok.inj h⟩
  · rintro ⟨⟨h₁, h₂, h₃, h₄, himage, hpoint⟩, rfl⟩
    exact ⟨_, ⟨h₁, rfl⟩, _, ⟨h₂, rfl⟩, _, ⟨h₃, rfl⟩, _, ⟨h₄, rfl⟩, _, rfl, _, rfl, _, rfl,
      _, ⟨himage, rfl⟩, _, ⟨hpoint, rfl⟩, rfl⟩

theorem twoNumbers_printed {α : Type} {key₁ key₂ : String} (hne : key₁ ≠ key₂)
    (default₁ default₂ x y : Float) (make : Float → Float → α) (group : α) :
    twoNumbers key₁ default₁ key₂ default₂ make
        (Json.object [(key₁, .float x), (key₂, .float y)]).printed = .ok group ↔
      (x.isFinite = true ∧ y.isFinite = true) ∧ make x y = group := by
  have hkeys : ([(key₁, Json.float x), (key₂, .float y)].map (·.1)).Nodup := by simpa using hne
  simp only [twoNumbers, Json.isObject_printed_object, Bool.not_true, Bool.false_eq_true, if_false,
    bind_eq_ok_iff, double_printed hkeys (show (key₁, Json.float x) ∈ _ by simp),
    double_printed hkeys (show (key₂, Json.float y) ∈ _ by simp)]
  constructor
  · rintro ⟨_, ⟨hx, rfl⟩, _, ⟨hy, rfl⟩, h⟩
    exact ⟨⟨hx, hy⟩, Except.ok.inj h⟩
  · rintro ⟨⟨hx, hy⟩, rfl⟩
    exact ⟨_, ⟨hx, rfl⟩, _, ⟨hy, rfl⟩, rfl⟩

def coverageMembers (coverage : CoverageMetrics) : List (String × Json) := [
  ("completeness_pct", .float coverage.completenessPct),
  ("baseline_ratio", .float coverage.baselineRatio)]

def CoverageMetrics.Finite (coverage : CoverageMetrics) : Prop :=
  coverage.completenessPct.isFinite = true ∧ coverage.baselineRatio.isFinite = true

theorem coverageFromJson_printed (coverage coverage' : CoverageMetrics) :
    coverageFromJson (Json.object (coverageMembers coverage)).printed = .ok coverage' ↔
      coverage.Finite ∧ coverage = coverage' :=
  twoNumbers_printed (by decide) 0 0 _ _ CoverageMetrics.mk coverage'

def geometryMembers (geometry : GeometryMetrics) : List (String × Json) := [
  ("point_count", .float geometry.pointCount),
  ("mean_confidence", .float geometry.meanConfidence)]

def GeometryMetrics.Finite (geometry : GeometryMetrics) : Prop :=
  geometry.pointCount.isFinite = true ∧ geometry.meanConfidence.isFinite = true

theorem geometryFromJson_printed (geometry geometry' : GeometryMetrics) :
    geometryFromJson (Json.object (geometryMembers geometry)).printed = .ok geometry' ↔
      geometry.Finite ∧ geometry = geometry' :=
  twoNumbers_printed (by decide) 0 0 _ _ GeometryMetrics.mk geometry'

def thresholdsMembers (thresholds : QualityThresholds) : List (String × Json) := [
  ("pass", .float thresholds.pass),
  ("warn", .float thresholds.warn)]

def QualityThresholds.Finite (thresholds : QualityThresholds) : Prop :=
  thresholds.pass.isFinite = true ∧ thresholds.warn.isFinite = true

theorem thresholdsFromJson_printed (thresholds thresholds' : QualityThresholds) :
    thresholdsFromJson (Json.object (thresholdsMembers thresholds)).printed = .ok thresholds' ↔
      thresholds.Finite ∧ thresholds = thresholds' :=
  twoNumbers_printed (by decide) 80 50 _ _ QualityThresholds.mk thresholds'

/-! ## The report

The groups together, and when nothing has been cut off on the way. -/

def metricsMembers (report : QualityReport) : List (String × Json) := [
  ("reprojection", .object (reprojectionMembers report.reprojection)),
  ("coverage", .object (coverageMembers report.coverage)),
  ("geometry", .object (geometryMembers report.geometry))]

def engineMembers (report : QualityReport) : List (String × Json) := [
  ("name", .str report.engineName),
  ("version", .str report.engineVersion),
  ("git_commit", .str report.engineGitCommit)]

def scoresMembers (report : QualityReport) : List (String × Json) := [
  ("quality_score", .object (thresholdsMembers report.thresholds))]

def reportMembers (report : QualityReport) : List (String × Json) := [
  ("pipeline_hash", .str report.pipelineHash),
  ("stage_id", .str report.stageId),
  ("quality_engine", .object (engineMembers report)),
  ("thresholds", .object (scoresMembers report)),
  ("metrics", .object (metricsMembers report)),
  ("quality_score", .float report.qualityScore),
  ("verdict", .str report.verdict.name),
  ("generated_at", .str report.generatedAt)]

/-- `dump` has a text for every number of the report. -/
structure QualityReport.Finite (report : QualityReport) : Prop where
  thresholds : report.thresholds.Finite
  reprojection : report.reprojection.Finite
  coverage : report.coverage.Finite
  geometry : report.geometry.Finite
  qualityScore : report.qualityScore.isFinite = true

/-- The report that comes back. -/
def QualityReport.reread (report : QualityReport) : QualityReport :=
  { report with reprojection := report.reprojection.reread }

theorem verdictOfName_name (verdict : QualityVerdict) : verdictOfName verdict.name = verdict := by
  cases verdict <;> rfl

theorem engineFromJson_printed (report : QualityReport) :
    engineFromJson (Json.object (engineMembers report)).printed =
      .ok (report.engineName, report.engineVersion, report.engineGitCommit) := by
  have hkeys : ((engineMembers report).map (·.1)).Nodup := by simp [engineMembers]
  rw [engineFromJson, Json.isObject_printed_object,
    text_printed hkeys (show ("name", Json.str report.engineName) ∈ _ by simp [engineMembers]),
    text_printed hkeys (show ("version", Json.str report.engineVersion) ∈ _ by
      simp [engineMembers]),
    text_printed hkeys (show ("git_commit", Json.str report.engineGitCommit) ∈ _ by
      simp [engineMembers])]
  rfl

/-- A report with a number that has no text does not come back; of the others,
the counts and the ids come back as far as the types of the reader go. -/
theorem reportFromDocument_printed (report report' : QualityReport) :
    reportFromDocument report.toJson.printed = .ok report' ↔
      report.Finite ∧ report.reread = report' := by
  change reportFromDocument (Json.object (reportMembers report)).printed = _ ↔ _
  have hkeys : ((reportMembers report).map (·.1)).Nodup := by simp [reportMembers]
  have hmetrics : ((metricsMembers report).map (·.1)).Nodup := by simp [metricsMembers]
  have hscores : ((scoresMembers report).map (·.1)).Nodup := by simp [scoresMembers]
  have htext : ∀ text, (Json.str text).printed.as Json.getString = .ok text := by
    intro text
    rw [Json.printed_str]
    rfl
  -- every member is found by its key, and read as it was printed
  simp only [reportFromDocument, ok_bind, htext, engineFromJson_printed,
    requireMember_printed hkeys (show ("pipeline_hash", Json.str report.pipelineHash) ∈ _ by
      simp [reportMembers]),
    requireMember_printed hkeys (show ("stage_id", Json.str report.stageId) ∈ _ by
      simp [reportMembers]),
    requireMember_printed hkeys (show ("quality_engine", Json.object (engineMembers report)) ∈ _ by
      simp [reportMembers]),
    requireMember_printed hkeys (show ("thresholds", Json.object (scoresMembers report)) ∈ _ by
      simp [reportMembers]),
    requireMember_printed hkeys (show ("metrics", Json.object (metricsMembers report)) ∈ _ by
      simp [reportMembers]),
    requireMember_printed hkeys (show ("quality_score", Json.float report.qualityScore) ∈ _ by
      simp [reportMembers]),
    requireMember_printed hkeys (show ("verdict", Json.str report.verdict.name) ∈ _ by
      simp [reportMembers]),
    text_printed hkeys (show ("generated_at", Json.str report.generatedAt) ∈ _ by
      simp [reportMembers]),
    objectMember_printed hscores
      (show ("quality_score", Json.object (thresholdsMembers report.thresholds)) ∈ _ by
        simp [scoresMembers]),
    objectMember_printed hmetrics
      (show ("reprojection", Json.object (reprojectionMembers report.reprojection)) ∈ _ by
        simp [metricsMembers]),
    objectMember_printed hmetrics
      (show ("coverage", Json.object (coverageMembers report.coverage)) ∈ _ by
        simp [metricsMembers]),
    objectMember_printed hmetrics
      (show ("geometry", Json.object (geometryMembers report.geometry)) ∈ _ by
        simp [metricsMembers]),
    bind_eq_ok_iff, thresholdsFromJson_printed, reprojectionFromJson_printed,
    coverageFromJson_printed, geometryFromJson_printed, as_eq_ok_iff, getDouble_printed,
    verdictOfName_name]
  constructor
  · rintro ⟨_, ⟨h₁, rfl⟩, _, ⟨h₂, rfl⟩, _, ⟨h₃, rfl⟩, _, ⟨h₄, rfl⟩, _, ⟨h₅, rfl⟩, h⟩
    exact ⟨⟨h₁, h₂, h₃, h₄, h₅⟩, Except.ok.inj h⟩
  · rintro ⟨⟨h₁, h₂, h₃, h₄, h₅⟩, rfl⟩
    exact ⟨_, ⟨h₁, rfl⟩, _, ⟨h₂, rfl⟩, _, ⟨h₃, rfl⟩, _, ⟨h₄, rfl⟩, _, ⟨h₅, rfl⟩, rfl⟩

/-- Every number has a text, and the reader has a type for every id and every count. -/
structure QualityReport.Narrow (report : QualityReport) : Prop where
  numbers : report.Finite
  ids : ∀ pt ∈ report.reprojection.perPoint, pt.point3dId.toNat < 2 ^ 32
  counts : IsInt32 report.reprojection.totalCount ∧ IsInt32 report.reprojection.inlierCount ∧
    IsInt32 report.reprojection.outlierCount
  imageCounts : ∀ img ∈ report.reprojection.perImage,
    IsInt32 img.totalCount ∧ IsInt32 img.inlierCount ∧ IsInt32 img.outlierCount
  pointCounts : ∀ pt ∈ report.reprojection.perPoint,
    IsInt32 pt.totalCount ∧ IsInt32 pt.inlierCount

theorem PerImageReprojection.reread_eq_self {img : PerImageReprojection} :
    img.reread = img ↔
      IsInt32 img.totalCount ∧ IsInt32 img.inlierCount ∧ IsInt32 img.outlierCount := by
  cases img
  simp [reread]

theorem PerPointReprojection.reread_eq_self {pt : PerPointReprojection} :
    pt.reread = pt ↔
      pt.point3dId.toNat < 2 ^ 32 ∧ IsInt32 pt.totalCount ∧ IsInt32 pt.inlierCount := by
  cases pt
  simp [reread]

theorem map_eq_self_iff {α : Type} {f : α → α} {l : List α} : l.map f = l ↔ ∀ a ∈ l, f a = a := by
  conv_lhs => rhs; rw [← List.map_id l]
  exact List.map_inj_left

theorem QualityReport.reread_eq_self {report : QualityReport} (hfinite : report.Finite) :
    report.reread = report ↔ report.Narrow := by
  have hreprojection : report.reread = report ↔ report.reprojection.reread = report.reprojection := by
    cases report
    simp [reread]
  have hparts : report.reprojection.reread = report.reprojection ↔
      (IsInt32 report.reprojection.totalCount ∧ IsInt32 report.reprojection.inlierCount ∧
        IsInt32 report.reprojection.outlierCount) ∧
      (∀ img ∈ report.reprojection.perImage, img.reread = img) ∧
      ∀ pt ∈ report.reprojection.perPoint, pt.reread = pt := by
    rw [← map_eq_self_iff, ← map_eq_self_iff]
    cases report.reprojection
    simp [ReprojectionMetrics.reread, and_assoc]
  rw [hreprojection, hparts]
  simp only [PerImageReprojection.reread_eq_self, PerPointReprojection.reread_eq_self]
  constructor
  · rintro ⟨hcounts, himages, hpoints⟩
    exact ⟨hfinite, fun pt hpt => (hpoints pt hpt).1, hcounts, himages,
      fun pt hpt => (hpoints pt hpt).2⟩
  · rintro ⟨-, hids, hcounts, himages, hpoints⟩
    exact ⟨hcounts, himages, fun pt hpt => ⟨hids pt hpt, hpoints pt hpt⟩⟩

/-- A report that was rendered is read back as it was exactly when its numbers
have texts and its ids and counts fit in 32 bits. -/
theorem qualityReport_read_back_iff (json : JsonLibrary) (report : QualityReport)
    (hprint : json.parse (qualityReportToJson json report) = .ok report.toJson.printed) :
    qualityReportFromJson json (qualityReportToJson json report) = .ok report ↔ report.Narrow := by
  rw [qualityReportFromJson, hprint]
  refine (reportFromDocument_printed report report).trans ⟨fun h => ?_, fun h => ?_⟩
  · exact (QualityReport.reread_eq_self h.1).mp h.2
  · exact ⟨h.numbers, (QualityReport.reread_eq_self h.numbers).mpr h⟩

/-! A report with one point. -/

private def pointReport (id : UInt64) : QualityReport where
  pipelineHash := "p"
  stageId := "validate"
  engineName := "spatial-platform"
  engineVersion := "1.0"
  engineGitCommit := "c"
  thresholds := {}
  reprojection := {
    rmsePx := 0.5, meanErrorPx := 0.5, medianErrorPx := 0.5, thresholdPx := 2
    totalCount := 2, inlierCount := 2
    perPoint := [{ point3dId := id, errorPx := 0.5, totalCount := 2, inlierCount := 2 }] }
  coverage := { completenessPct := 90, baselineRatio := 0.25 }
  geometry := { pointCount := 1, meanConfidence := 0.5 }
  qualityScore := 90
  verdict := .pass
  generatedAt := "2026-01-01T00:00:00Z"

/-- What `dump` prints for it. -/
private def pointText (id : UInt64) : String :=
  "\n".intercalate [
    "\x7b",
    "  \"generated_at\": \"2026-01-01T00:00:00Z\",",
    "  \"metrics\": \x7b",
    "    \"coverage\": \x7b",
    "      \"baseline_ratio\": 0.25,",
    "      \"completeness_pct\": 90.0",
    "    \x7d,",
    "    \"geometry\": \x7b",
    "      \"mean_confidence\": 0.5,",
    "      \"point_count\": 1.0",
    "    \x7d,",
    "    \"reprojection\": \x7b",
    "      \"inlier_count\": 2,",
    "      \"mean_error_px\": 0.5,",
    "      \"median_error_px\": 0.5,",
    "      \"outlier_count\": 0,",
    "      \"per_image\": [],",
    "      \"per_point\": [",
    "        \x7b",
    "          \"count\": 2,",
    "          \"error_px\": 0.5,",
    "          \"inlier_count\": 2,",
    "          \"point3d_id\": " ++ toString id,
    "        \x7d",
    "      ],",
    "      \"rmse_px\": 0.5,",
    "      \"threshold_px\": 2.0,",
    "      \"total_count\": 2",
    "    \x7d",
    "  \x7d,",
    "  \"pipeline_hash\": \"p\",",
    "  \"quality_engine\": \x7b",
    "    \"git_commit\": \"c\",",
    "    \"name\": \"spatial-platform\",",
    "    \"version\": \"1.0\"",
    "  \x7d,",
    "  \"quality_score\": 90.0,",
    "  \"stage_id\": \"validate\",",
    "  \"thresholds\": \x7b",
    "    \"quality_score\": \x7b",
    "      \"pass\": 80.0,",
    "      \"warn\": 50.0",
    "    \x7d",
    "  \x7d,",
    "  \"verdict\": \"pass\"",
    "\x7d"]

/-- A library that knows this text. -/
private def pointLibrary (id : UInt64) : JsonLibrary where
  parse text :=
    if text = pointText id then .ok (pointReport id).toJson.printed
    else .error (.parseError "syntax error")
  dump _ _ := pointText id

private theorem pointLibrary_prints (id : UInt64) :
    (pointLibrary id).parse (qualityReportToJson (pointLibrary id) (pointReport id)) =
      .ok (pointReport id).toJson.printed := by
  simp only [pointLibrary, qualityReportToJson, if_true]

private theorem narrow_pointReport : (pointReport 7).Narrow := by
  have hpoint : ∀ pt ∈ (pointReport 7).reprojection.perPoint,
      pt = { point3dId := 7, errorPx := 0.5, totalCount := 2, inlierCount := 2 } :=
    fun pt hpt => List.mem_singleton.mp hpt
  have hreprojection : (pointReport 7).reprojection.Finite := by
    refine ⟨by decide +kernel, by decide +kernel, by decide +kernel, by decide +kernel,
      fun img himg => absurd himg List.not_mem_nil, fun pt hpt => ?_⟩
    rw [hpoint pt hpt]
    decide +kernel
  have hfinite : (pointReport 7).Finite :=
    ⟨⟨by decide +kernel, by decide +kernel⟩, hreprojection, ⟨by decide +kernel, by decide +kernel⟩,
      ⟨by decide +kernel, by decide +kernel⟩, by decide +kernel⟩
  refine ⟨hfinite, fun pt hpt => ?_, by decide, fun img himg => absurd himg List.not_mem_nil,
    fun pt hpt => ?_⟩
  · rw [hpoint pt hpt]
    decide
  · rw [hpoint pt hpt]
    decide

/-- The point has the id 7. -/
theorem small_id_read_back :
    qualityReportFromJson (pointLibrary 7) (qualityReportToJson (pointLibrary 7) (pointReport 7)) =
      .ok (pointReport 7) :=
  (qualityReport_read_back_iff (pointLibrary 7) (pointReport 7) (pointLibrary_prints 7)).mpr
    narrow_pointReport

/-- The point has the id 4294967296, which comes back as zero. -/
theorem large_id_cut :
    (pointLibrary 4294967296).parse
        (qualityReportToJson (pointLibrary 4294967296) (pointReport 4294967296)) =
      .ok (pointReport 4294967296).toJson.printed ∧
    qualityReportFromJson (pointLibrary 4294967296)
        (qualityReportToJson (pointLibrary 4294967296) (pointReport 4294967296)) ≠
      .ok (pointReport 4294967296) := by
  refine ⟨pointLibrary_prints _, fun h => ?_⟩
  rw [qualityReportFromJson, pointLibrary_prints] at h
  obtain ⟨hfinite, hreread⟩ := (reportFromDocument_printed _ _).mp h
  have hid := ((QualityReport.reread_eq_self hfinite).mp hreread).ids _ (List.mem_singleton.mpr rfl)
  exact absurd hid (by decide)

end SpatialPlatform.Engine
