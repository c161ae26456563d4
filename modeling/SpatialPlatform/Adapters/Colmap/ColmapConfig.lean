import SpatialPlatform.Core.JsonPrinted

/-!
# The configuration of COLMAP

`adapters/colmap/colmap_config.{h,cpp}`: the settings of a COLMAP task, the
strict reader of `config_json`, the writer, and the plan of the stages that are
run.
-/

namespace SpatialPlatform.Adapters.Colmap

open SpatialPlatform.Core SpatialPlatform.Lib

/-! ## Settings -/

structure FeatureExtractorOptions where
  maxImageSize : Int32 := 3200
  maxNumFeatures : Int32 := 8192
  detector : String := "SIFT"
  descriptor : String := "SIFT"
  siftScaleSpaceOctaves : String := "auto"
  siftDomainSizePooling : String := "auto"

structure MatcherOptions where
  guidedMatching : Bool := true
  maxRatio : Float := 0.8
  maxDistance : Float := 0.7
  crossCheck : Bool := true

structure MapperOptions where
  minNumMatches : Int32 := 15
  baRefinePrincipalPoint : Bool := false
  baMinNumResidualsForMultithreading : Int32 := 50000

structure BundleAdjusterOptions where
  lossFunction : String := "SoftL1"
  lossScalePx : Float := 0.0
  maxNumIterations : Int32 := 100
  refineFocalLength : Bool := false
  refinePrincipalPoint : Bool := false
  refineExtraParams : Bool := false
  refineExtrinsics : Bool := true
  refineIntrinsics : Bool := false

structure ColmapConfig where
  threads : Int32 := -1
  seed : String := ""
  featureExtractor : FeatureExtractorOptions := {}
  matcher : MatcherOptions := {}
  mapper : MapperOptions := {}
  bundleAdjuster : BundleAdjusterOptions := {}
  enabledStages : List String := []

/-! ## Keys -/

/-- `CalibrationKeys`. -/
def calibrationKeys : List String :=
  ["fx", "fy", "cx", "cy", "distortion", "intrinsics", "extrinsics", "calibration"]

/-- `TopLevelKeys`. -/
def topLevelKeys : List String :=
  ["threads", "seed", "feature_extractor", "matcher", "mapper", "bundle_adjuster", "enabled_stages"]

/-- `FeatureExtractorKeys`. -/
def featureExtractorKeys : List String :=
  ["max_image_size", "max_num_features", "detector", "descriptor", "sift_scale_space_octaves",
    "sift_domain_size_pooling"]

/-- `MatcherKeys`. -/
def matcherKeys : List String := ["guided_matching", "max_ratio", "max_distance", "cross_check"]

/-- `MapperKeys`. -/
def mapperKeys : List String :=
  ["min_num_matches", "ba_refine_principal_point", "ba_min_num_residuals_for_multithreading"]

/-- `BundleAdjusterKeys`. -/
def bundleAdjusterKeys : List String :=
  ["loss_function", "loss_scale_px", "max_num_iterations", "refine_focal_length",
    "refine_principal_point", "refine_extra_params", "refine_extrinsics", "refine_intrinsics"]

/-- The stages in the order of `ColmapStage`, by their names. -/
def stageOrder : List String := ["feature_extractor", "matcher", "mapper", "bundle_adjuster"]

/-- `IsKnownStage`. -/
def isKnownStage (name : String) : Bool :=
  name = "feature_extractor" || name = "matcher" || name = "mapper" || name = "bundle_adjuster"

/-! ## Reading

Section by section, in the order of the source, since the first complaint is the
one that is thrown. A section that is missing has its defaults; a member that is
unknown is refused with its path. -/

/-- `Violation` and `CalibrationViolation`, which differ in their hints. -/
def violation (message : String) : ReadException := .project ⟨.validationDomain, message⟩

/-- `if (bad) throw Violation(message)`. -/
def rejectIf (bad : Prop) [Decidable bad] (message : String) : Except ReadException Unit :=
  if bad then throw (violation message) else return ()

mutual

/-- `RejectCalibrationVocabulary`. -/
def rejectCalibrationVocabulary : Json → Except ReadException Unit
  | .obj members => rejectMembers members
  | .arr elements => rejectElements elements
  | _ => return ()

def rejectElements : List Json → Except ReadException Unit
  | [] => return ()
  | item :: items => do
      rejectCalibrationVocabulary item
      rejectElements items

def rejectMembers : List (String × Json) → Except ReadException Unit
  | [] => return ()
  | m :: ms => do
      rejectMember m
      rejectMembers ms

def rejectMember : String × Json → Except ReadException Unit
  | (key, value) =>
      if key ∈ calibrationKeys then
        throw (violation ("calibration value '" ++ key ++
          "' in the configuration surface is a contract violation (RFC-0009 §6)"))
      else rejectCalibrationVocabulary value

end

/-- `RejectUnknownKeys`. -/
def rejectUnknownKeys (obj : Json) (sectionName : String) (allowed : List String) :
    Except ReadException Unit :=
  match obj with
  | .obj members =>
      match members.find? (·.1 ∉ allowed) with
      | some m => throw (violation ("unknown key '" ++ m.1 ++ "' in section '" ++ sectionName ++ "'"))
      | none => return ()
  | _ => return ()

/-- A section of the document, or its defaults. -/
def readSection {α : Type} (doc : Json) (name : String) (keys : List String)
    (read : Json → Except ReadException α) (defaults : α) : Except ReadException α :=
  match doc.member? name with
  | none => return defaults
  | some j =>
      do
        rejectIf (!j.isObject) ("'" ++ name ++ "' must be an object")
        rejectUnknownKeys j name keys
        read j

def readFeatureExtractor (j : Json) : Except ReadException FeatureExtractorOptions := do
  let maxImageSize ← j.valueOr getInt32 "max_image_size" 3200
  let maxNumFeatures ← j.valueOr getInt32 "max_num_features" 8192
  let detector ← j.valueOr Json.getString "detector" "SIFT"
  let descriptor ← j.valueOr Json.getString "descriptor" "SIFT"
  let siftScaleSpaceOctaves ← j.valueOr Json.getString "sift_scale_space_octaves" "auto"
  let siftDomainSizePooling ← j.valueOr Json.getString "sift_domain_size_pooling" "auto"
  return { maxImageSize, maxNumFeatures, detector, descriptor, siftScaleSpaceOctaves
           siftDomainSizePooling }

def readMatcher (j : Json) : Except ReadException MatcherOptions := do
  let guidedMatching ← j.valueOr getBool "guided_matching" true
  let maxRatio ← j.valueOr getDouble "max_ratio" 0.8
  let maxDistance ← j.valueOr getDouble "max_distance" 0.7
  let crossCheck ← j.valueOr getBool "cross_check" true
  return { guidedMatching, maxRatio, maxDistance, crossCheck }

def readMapper (j : Json) : Except ReadException MapperOptions := do
  let minNumMatches ← j.valueOr getInt32 "min_num_matches" 15
  let baRefinePrincipalPoint ← j.valueOr getBool "ba_refine_principal_point" false
  let baMinNumResidualsForMultithreading ←
    j.valueOr getInt32 "ba_min_num_residuals_for_multithreading" 50000
  return { minNumMatches, baRefinePrincipalPoint, baMinNumResidualsForMultithreading }

/-- The defaults pass the checks, so it does not matter that the source checks only what is there. -/
def readBundleAdjuster (j : Json) : Except ReadException BundleAdjusterOptions := do
  let lossFunction ← j.valueOr Json.getString "loss_function" "SoftL1"
  rejectIf (lossFunction ≠ "SoftL1" ∧ lossFunction ≠ "Trivial" ∧ lossFunction ≠ "Cauchy")
    "'bundle_adjuster.loss_function' must be one of \x7bSoftL1, Trivial, Cauchy\x7d"
  let lossScalePx ← j.valueOr getDouble "loss_scale_px" 0.0
  rejectIf (lossScalePx < 0.0)
    ("'bundle_adjuster.loss_scale_px' must be >= 0 (0 = auto, the D5 threshold of the v3 " ++
      "observation set); a negative robust loss scale is invalid (P8)")
  let maxNumIterations ← j.valueOr getInt32 "max_num_iterations" 100
  rejectIf (maxNumIterations < 1) "'bundle_adjuster.max_num_iterations' must be >= 1"
  let refineFocalLength ← j.valueOr getBool "refine_focal_length" false
  let refinePrincipalPoint ← j.valueOr getBool "refine_principal_point" false
  let refineExtraParams ← j.valueOr getBool "refine_extra_params" false
  let refineExtrinsics ← j.valueOr getBool "refine_extrinsics" true
  let refineIntrinsics ← j.valueOr getBool "refine_intrinsics" false
  rejectIf (refineFocalLength || refinePrincipalPoint || refineExtraParams || refineIntrinsics)
    ("bundle_adjuster intrinsics refinement (refine_focal_length / refine_principal_point / " ++
      "refine_extra_params / refine_intrinsics) is out of scope for 8c: 8c keeps intrinsics FIXED " ++
      "(D3), so every intrinsics-refine toggle must be false (P5/D-8c-3)")
  return { lossFunction, lossScalePx, maxNumIterations, refineFocalLength, refinePrincipalPoint
           refineExtraParams, refineExtrinsics, refineIntrinsics }

/-- The loop over the names of `enabled_stages`, with those it has seen. -/
def readStages : List Json → List String → Except ReadException (List String)
  | [], seen => return seen
  | .str name :: entries, seen =>
      if !isKnownStage name then
        throw (violation ("unknown stage '" ++ name ++ "' in 'enabled_stages'"))
      else if name ∈ seen then
        throw (violation ("duplicate stage '" ++ name ++ "' in 'enabled_stages'"))
      else readStages entries (seen ++ [name])
  | _ :: _, _ => throw (violation "'enabled_stages' entries must be strings")

def readEnabledStages (doc : Json) : Except ReadException (List String) :=
  match doc.member? "enabled_stages" with
  | none => return []
  | some (.arr entries) => readStages entries []
  | some _ => throw (violation "'enabled_stages' must be an array of stage names")

/-- `FromJson`, of a document. -/
def readConfig (doc : Json) : Except ReadException ColmapConfig := do
  rejectCalibrationVocabulary doc
  rejectIf (!doc.isObject) "config_json must be a JSON object"
  rejectUnknownKeys doc "config" topLevelKeys
  let threads ← doc.valueOr getInt32 "threads" (-1)
  rejectIf (threads = 0 ∨ threads < -1) "'threads' must be -1 or >= 1"
  let seed ← doc.valueOr Json.getString "seed" ""
  let featureExtractor ←
    readSection doc "feature_extractor" featureExtractorKeys readFeatureExtractor {}
  let matcher ← readSection doc "matcher" matcherKeys readMatcher {}
  let mapper ← readSection doc "mapper" mapperKeys readMapper {}
  let bundleAdjuster ← readSection doc "bundle_adjuster" bundleAdjusterKeys readBundleAdjuster {}
  let enabledStages ← readEnabledStages doc
  rejectIf ("bundle_adjuster" ∈ enabledStages ∧ seed = "")
    ("a bundle_adjuster plan requires a non-empty 'seed': 8c is deterministic only with a pinned " ++
      "random seed (D6/P9)")
  return { threads, seed, featureExtractor, matcher, mapper, bundleAdjuster, enabledStages }

/-- A document without a value. -/
def isBlank (text : String) : Bool := text.toList.all fun c => c ∈ [' ', '\t', '\r', '\n']

/-- The settings inside the envelope of the pipeline compiler. -/
def unwrapEnvelope (doc : Json) : Json :=
  match doc with
  | .obj members =>
      if members.length = 4 ∧ (doc.member? "pipeline_id").isSome ∧
          (doc.member? "pipeline_version").isSome ∧ (doc.member? "stage").isSome then
        match doc.member? "config" with
        | some config => if config.isObject then config else doc
        | none => doc
      else doc
  | doc => doc

/-- What is thrown in the end. Only `get` throws exceptions of the library here. -/
def configError : ReadException → ProjectError
  | .project e => e
  | .json what =>
      ⟨.validationDomain, "invalid configuration value: [json.exception.type_error.302] " ++ what⟩

/-- `ColmapConfig::FromJson`. -/
def ColmapConfig.fromJson (json : JsonLibrary) (configJson : String) :
    Except ProjectError ColmapConfig :=
  if isBlank configJson then (readConfig (unwrapEnvelope (.obj []))).mapError configError
  else
    match json.parse configJson with
    | .error _ => throw ⟨.validationDomain, "config_json is not valid JSON"⟩
    | .ok doc => (readConfig (unwrapEnvelope doc)).mapError configError

/-! ## Writing

The members in the order of their keys, which is how the library keeps them. -/

def FeatureExtractorOptions.members (o : FeatureExtractorOptions) : List (String × Json) := [
  ("max_image_size", .int o.maxImageSize.toInt),
  ("max_num_features", .int o.maxNumFeatures.toInt),
  ("detector", .str o.detector),
  ("descriptor", .str o.descriptor),
  ("sift_scale_space_octaves", .str o.siftScaleSpaceOctaves),
  ("sift_domain_size_pooling", .str o.siftDomainSizePooling)]

def MatcherOptions.members (o : MatcherOptions) : List (String × Json) := [
  ("guided_matching", .bool o.guidedMatching),
  ("max_ratio", .float o.maxRatio),
  ("max_distance", .float o.maxDistance),
  ("cross_check", .bool o.crossCheck)]

def MapperOptions.members (o : MapperOptions) : List (String × Json) := [
  ("min_num_matches", .int o.minNumMatches.toInt),
  ("ba_refine_principal_point", .bool o.baRefinePrincipalPoint),
  ("ba_min_num_residuals_for_multithreading", .int o.baMinNumResidualsForMultithreading.toInt)]

def BundleAdjusterOptions.members (o : BundleAdjusterOptions) : List (String × Json) := [
  ("loss_function", .str o.lossFunction),
  ("loss_scale_px", .float o.lossScalePx),
  ("max_num_iterations", .int o.maxNumIterations.toInt),
  ("refine_focal_length", .bool o.refineFocalLength),
  ("refine_principal_point", .bool o.refinePrincipalPoint),
  ("refine_extra_params", .bool o.refineExtraParams),
  ("refine_extrinsics", .bool o.refineExtrinsics),
  ("refine_intrinsics", .bool o.refineIntrinsics)]

def ColmapConfig.members (c : ColmapConfig) : List (String × Json) := [
  ("threads", .int c.threads.toInt),
  ("seed", .str c.seed),
  ("feature_extractor", .object c.featureExtractor.members),
  ("matcher", .object c.matcher.members),
  ("mapper", .object c.mapper.members),
  ("bundle_adjuster", .object c.bundleAdjuster.members),
  ("enabled_stages", .arr (c.enabledStages.map .str))]

/-- `ColmapConfig::ToJson`. -/
def ColmapConfig.toJson (json : JsonLibrary) (c : ColmapConfig) : String :=
  json.dump none (.object c.members)

/-- `ColmapConfig::Plan`. The default plan does not have the bundle adjustment. -/
def ColmapConfig.plan (c : ColmapConfig) : List String :=
  if c.enabledStages.isEmpty then stageOrder.take 3
  else stageOrder.filter (· ∈ c.enabledStages)

end SpatialPlatform.Adapters.Colmap
