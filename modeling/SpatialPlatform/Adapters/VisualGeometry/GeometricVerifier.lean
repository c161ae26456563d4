import SpatialPlatform.Adapters.VisualGeometry.EssentialDecomposition
import SpatialPlatform.Core.LoopClosure.CorrespondenceReconstruction

/-!
# The two geometric verifiers

`Verify` of `adapters/visual_geometry/fundamental_verifier.cpp` and of
`essential_verifier.cpp`, with the input and the result of
`core/loop_closure/geometric_verifier.h`. The first works without calibration,
the second one needs it and finds the direction of the relative pose.

* `verify_evidence` — what stands behind a result, for both of them.
-/

namespace SpatialPlatform.Adapters.VisualGeometry

open SpatialPlatform.Core SpatialPlatform.Core.Geometry SpatialPlatform.Core.LoopClosureDetection
open SpatialPlatform.Lib

/-- `LoopClosureVerificationInput`. -/
structure LoopClosureVerificationInput (R : Type) where
  candidate : LoopClosureCandidate R
  source : MatchingFrameDescriptors R
  target : MatchingFrameDescriptors R
  correspondences : List (FeatureCorrespondence R)
  sourceCamera : Option (ReconCamera R) := none
  targetCamera : Option (ReconCamera R) := none

/-- `GeometricVerificationResult`. -/
structure GeometricVerificationResult (R : Type) where
  verified : Bool := false
  closure : LoopClosure R
  geometricModel : String := ""
  correspondenceCount : Nat := 0
  inlierCount : Nat := 0
  inlierRatio : R
  geometricResidual : R
  confidence : R
  rejectionReason : String := ""
  hasRelativePose : Bool := false
  relativePositionXyz : Vector R 3
  relativeRotationXyzw : Quat R
  unitRelativePose : Option (UnitRelativePose R) := none

/-- The result as a rejection. -/
def GeometricVerificationResult.reject {R : Type} (res : GeometricVerificationResult R)
    (reason : String) : GeometricVerificationResult R :=
  { res with closure := { res.closure with status := "rejected" }, rejectionReason := reason }

/-- The result as an acceptance, with the pose that was found. -/
def GeometricVerificationResult.accept {R : Type} (res : GeometricVerificationResult R)
    (pose : Option (UnitRelativePose R)) : GeometricVerificationResult R :=
  { res with
    verified := true
    closure := { res.closure with status := "accepted" }
    hasRelativePose := false
    unitRelativePose := pose
    rejectionReason := "" }

section

variable {R : Type} [DoubleArith R]

/-! ## The input

The gates in front of any estimation, with the result that a rejection carries. -/

/-- Malformed input. -/
def checkInput (input : LoopClosureVerificationInput R) : Except ProjectError Unit :=
  let src := input.source
  let tgt := input.target
  if src.descriptors.isEmpty || tgt.descriptors.isEmpty ||
      src.keypoints.length != src.descriptors.length ||
      tgt.keypoints.length != tgt.descriptors.length then
    .error ⟨.validationDomain, "loop closure verifier: malformed feature data (empty or keypoint/" ++
      "descriptor count mismatch)"⟩
  else if src.frameId ≠ input.candidate.sourceFrameId ∨
      tgt.frameId ≠ input.candidate.targetFrameId then
    .error ⟨.validationDomain, "loop closure verifier: feature frame id does not match candidate"⟩
  else if input.correspondences.any fun c =>
      src.descriptors.length ≤ c.sourceIndex.toNat || tgt.descriptors.length ≤ c.targetIndex.toNat then
    .error ⟨.validationDomain, "loop closure verifier: out-of-range correspondence index"⟩
  else .ok ()

/-- The result before any estimation. -/
def initialResult (input : LoopClosureVerificationInput R) : GeometricVerificationResult R :=
  let sep := input.source.timestampNs - input.target.timestampNs
  { closure :=
      { trajectoryId := input.candidate.trajectoryId
        candidateId := input.candidate.candidateId
        sourceFrameId := input.candidate.sourceFrameId
        targetFrameId := input.candidate.targetFrameId
        status := "rejected"
        inlierRatio := 0.0
        inlierCount := 0
        confidence := 0.0
        temporalSeparationNs := if sep < 0 then -sep else sep
        spatialSeparationM := 0.0
        relativePositionXyz := .triple 0.0 0.0 0.0
        relativeRotationXyzw := .quadruple 0.0 0.0 0.0 1.0
        geometricResidual := 0.0 }
    correspondenceCount := input.correspondences.length
    inlierRatio := 0.0
    geometricResidual := 0.0
    confidence := 0.0
    rejectionReason := "temporal_separation"
    relativePositionXyz := .triple 0.0 0.0 0.0
    relativeRotationXyzw := .quadruple 0.0 0.0 0.0 0.0 }

/-- The result when a kind of models is estimated. -/
def estimationResult (input : LoopClosureVerificationInput R) (geometricModel : String) :
    GeometricVerificationResult R :=
  { initialResult input with geometricModel := geometricModel }

/-- The gates before any estimation. -/
def earlyRejection (input : LoopClosureVerificationInput R) (options : GeometricVerificationOptions R) :
    Option String :=
  if (initialResult input).closure.temporalSeparationNs < options.minimumTemporalSeparationNs then
    some "temporal_separation_below_minimum"
  else if input.correspondences.length < options.minCorrespondences then
    some "insufficient_correspondences"
  else none

/-- The keypoint of an index. -/
def keypointAt (frame : MatchingFrameDescriptors R) (i : UInt32) : FeatureKeypoint R :=
  (frame.keypoints[i.toNat]?).getD ⟨0.0, 0.0⟩

/-- The coordinates in pixels. -/
def pixelPoint (keypoint : FeatureKeypoint R) : Vector R 3 := .triple keypoint.x keypoint.y 1.0

/-! ## The quality -/

/-- `std::clamp`. -/
def clamp (v lo hi : R) : R := if v < lo then lo else if hi < v then hi else v

/-- `conf`, clamped. -/
def combinedConfidence (options : GeometricVerificationOptions R) (inlierRatio residual : R) : R :=
  clamp
    (if (0.0 : R) < options.maxResidual then
      inlierRatio * ((0.5 : R) + (0.5 : R) *
        clamp ((1.0 : R) - residual / options.maxResidual) (0.0 : R) (1.0 : R))
    else inlierRatio) (0.0 : R) (1.0 : R)

/-- The measures of a model. -/
def measured (options : GeometricVerificationOptions R) (res : GeometricVerificationResult R)
    (s : ScoredModel R) : GeometricVerificationResult R :=
  let inlierRatio : R := ((s.inlierCount : Int) : R) / ((res.correspondenceCount : Int) : R)
  let confidence := combinedConfidence options inlierRatio s.meanResidual
  { res with
    inlierCount := s.inlierCount
    inlierRatio := inlierRatio
    geometricResidual := s.meanResidual
    confidence := confidence
    closure :=
      { res.closure with
        confidence := confidence
        inlierCount := Int64.ofNat s.inlierCount
        inlierRatio := inlierRatio } }

/-- The gates behind the estimation. -/
def qualityRejection (options : GeometricVerificationOptions R) (res : GeometricVerificationResult R) :
    Option String :=
  if res.inlierCount < options.minInliers then some "below_minimum_inliers"
  else if ¬ options.minInlierRatio - (1e-9 : R) ≤ res.inlierRatio then
    some "below_minimum_inlier_ratio"
  else if ¬ res.geometricResidual ≤ options.maxResidual then some "geometric_error_above_max"
  else if res.confidence < options.verifyMinConfidence then some "below_minimum_confidence"
  else none

/-! ## `FundamentalGeometricVerifier` -/

/-- The correspondences for the fundamental matrix. -/
def fundamentalPairs (input : LoopClosureVerificationInput R) : List (PointPair R) :=
  input.correspondences.map fun c =>
    let src := pixelPoint (keypointAt input.source c.sourceIndex)
    let tgt := pixelPoint (keypointAt input.target c.targetIndex)
    ⟨src, tgt, src, tgt⟩

/-- `FundamentalGeometricVerifier::Verify`, past the first gates. -/
def fundamentalResult (lib : NumericLibrary R) (input : LoopClosureVerificationInput R)
    (options : GeometricVerificationOptions R) : GeometricVerificationResult R :=
  let res := estimationResult input "fundamental"
  match robustFundamental lib (fundamentalPairs input) options with
  | none => res.reject "no_valid_model"
  | some ransac =>
      let res := measured options res ransac
      match qualityRejection options res with
      | some reason => res.reject reason
      | none => res.accept none

/-- `FundamentalGeometricVerifier::Verify`. -/
def verifyFundamental (lib : NumericLibrary R) (input : LoopClosureVerificationInput R)
    (options : GeometricVerificationOptions R) :
    Except ProjectError (GeometricVerificationResult R) := do
  checkInput input
  match earlyRejection input options with
  | some reason => return (initialResult input).reject reason
  | none => return fundamentalResult lib input options

/-! ## `EssentialGeometricVerifier`

The part of `Verify` behind the calibration: rays, the search, and the pose of
the winner. -/

/-- The ray of a normalized point. -/
def rayOf (xn : Vector R 3) : Vector R 3 := div3 xn (norm3 xn)

/-- The pose of an essential matrix, or why there is none. -/
def poseOf (lib : NumericLibrary R) (pairs : List (PointPair R)) (ransac : ScoredModel R) :
    Except String (UnitRelativePose R) :=
  if !ransac.model.toList.all allFinite || decide (norm9 ransac.model < (1e-12 : R)) then
    .error "no_valid_model"
  else
    let rays := List.zipWith (fun pair inlier => ⟨rayOf pair.src, rayOf pair.tgt, inlier⟩) pairs
      ransac.inlier
    match voteCheirality (decomposeEssential lib ransac.model) rays with
    | none => .error "ambiguous_cheirality"
    | some winner => toUnitRelativePose winner.1 winner.2

end

section

variable {R : Type} [DoubleTrig R]

/-- `IntrinsicsMatrix`. -/
def intrinsicsMatrix (camera : ReconCamera R) : Mat3 R :=
  .triple (.triple camera.fx 0.0 camera.cx) (.triple 0.0 camera.fy camera.cy) (.triple 0.0 0.0 1.0)

/-- The cofactor of the rows `i` and `i'` and the columns `j` and `j'`, which
follow the row and the column that are left out. -/
def cofactor3 (m : Mat3 R) (i i' j j' : Nat) [HasPlace i 3] [HasPlace i' 3] [HasPlace j 3]
    [HasPlace j' 3] : R :=
  (m i) j * (m i') j' - (m i) j' * (m i') j

/-- `inverse`. -/
def inverse3 (m : Mat3 R) : Mat3 R :=
  let det := cofactor3 m 1 2 1 2 * (m 0) 0 + cofactor3 m 2 0 1 2 * (m 1) 0 +
    cofactor3 m 0 1 1 2 * (m 2) 0
  let row (j j' : Nat) [HasPlace j 3] [HasPlace j' 3] : Vector R 3 :=
    scale3 ((1.0 : R) / det)
      (.triple (cofactor3 m 1 2 j j') (cofactor3 m 2 0 j j') (cofactor3 m 0 1 j j'))
  .triple (row 1 2) (row 2 0) (row 0 1)

/-- `NormalizedPoint`. -/
def normalizedPoint (model : CameraModel R) (keypoint : FeatureKeypoint R) : Vector R 3 :=
  let xn := model.distortion.undistortUnit
    (pixelToNormalized model.intrinsics (keypoint.x, keypoint.y))
  .triple xn.1 xn.2 1.0

/-- The correspondences for the essential matrix. -/
def essentialPairs (input : LoopClosureVerificationInput R) (srcModel tgtModel : CameraModel R) :
    List (PointPair R) :=
  input.correspondences.map fun c =>
    let src := keypointAt input.source c.sourceIndex
    let tgt := keypointAt input.target c.targetIndex
    ⟨normalizedPoint srcModel src, normalizedPoint tgtModel tgt, pixelPoint src, pixelPoint tgt⟩

/-- `EssentialGeometricVerifier::Verify`, past the gate for the calibration. -/
def essentialResult (lib : NumericLibrary R) (input : LoopClosureVerificationInput R)
    (options : GeometricVerificationOptions R) (sourceCamera targetCamera : ReconCamera R)
    (srcModel tgtModel : CameraModel R) : GeometricVerificationResult R :=
  let ksInv := inverse3 (intrinsicsMatrix sourceCamera)
  let ktInvT := transpose3 (inverse3 (intrinsicsMatrix targetCamera))
  let pairs := essentialPairs input srcModel tgtModel
  if !(pairs.all fun pair => allFinite (rayOf pair.src)) ||
      !(pairs.all fun pair => allFinite (rayOf pair.tgt)) then
    (initialResult input).reject "no_valid_model"
  else
    let res := estimationResult input "essential"
    match robustEssential lib ksInv ktInvT pairs options with
    | none => res.reject "no_valid_model"
    | some ransac =>
        let res := measured options res ransac
        match qualityRejection options res with
        | some reason => res.reject reason
        | none =>
            match poseOf lib pairs ransac with
            | .error reason => res.reject reason
            | .ok pose => res.accept (some pose)

/-- `EssentialGeometricVerifier::Verify`. -/
def verifyEssential (lib : NumericLibrary R) (input : LoopClosureVerificationInput R)
    (options : GeometricVerificationOptions R) :
    Except ProjectError (GeometricVerificationResult R) := do
  checkInput input
  match earlyRejection input options with
  | some reason => return (initialResult input).reject reason
  | none =>
      match input.sourceCamera, input.targetCamera with
      | some sourceCamera, some targetCamera =>
          let srcModel ← CameraModel.fromReconCamera sourceCamera
          let tgtModel ← CameraModel.fromReconCamera targetCamera
          return essentialResult lib input options sourceCamera targetCamera srcModel tgtModel
      | _, _ => return (initialResult input).reject "missing_calibration"

/-! ## What stands behind a result

The verifiers run through the same gates in the same order: early rejections,
the search, the gates of quality, the closure record. `Sound` is kept by each
way out, so a verifier is gone through once, and the facts about its results are
read off at the end. -/

/-- `GeometricVerifier`. -/
abbrev GeometricVerifier (R : Type) := LoopClosureVerificationInput R → GeometricVerificationOptions R →
  Except ProjectError (GeometricVerificationResult R)

/-- The reasons of a rejection. -/
def rejectionReasons : List String :=
  ["temporal_separation_below_minimum", "insufficient_correspondences", "missing_calibration",
    "no_valid_model", "below_minimum_inliers", "below_minimum_inlier_ratio",
    "geometric_error_above_max", "below_minimum_confidence", "ambiguous_cheirality",
    "degenerate_translation"]

/-- The evidence for a verified closure. -/
structure Evidence (input : LoopClosureVerificationInput R) (options : GeometricVerificationOptions R)
    (res : GeometricVerificationResult R) : Prop where
  /-- One matrix relates as many correspondences, within the threshold, as there are inliers. -/
  consensus : ∃ f, (fundamentalPairs input).countP
    (fun pair => (inlierDistance options.ransacInlierThreshold f pair).isSome) = res.inlierCount
  inliers : 8 ≤ res.inlierCount ∧ options.minInliers ≤ res.inlierCount
  correspondences : options.minCorrespondences ≤ input.correspondences.length
  separation : ¬ res.closure.temporalSeparationNs < options.minimumTemporalSeparationNs
  ratio : res.inlierRatio = ((res.inlierCount : Int) : R) / ((input.correspondences.length : Int) : R) ∧
    options.minInlierRatio - (1e-9 : R) ≤ res.inlierRatio
  residual : res.geometricResidual ≤ options.maxResidual
  confidence : ¬ res.confidence < options.verifyMinConfidence
  copied : res.closure.inlierCount = Int64.ofNat res.inlierCount ∧
    res.closure.inlierRatio = res.inlierRatio ∧ res.closure.confidence = res.confidence

/-- A result is verified on evidence, or rejected for a reason and without a pose. -/
inductive Justified (input : LoopClosureVerificationInput R) (options : GeometricVerificationOptions R)
    (res : GeometricVerificationResult R) : Prop where
  | accepted (verified : res.verified = true) (status : res.closure.status = "accepted")
      (reason : res.rejectionReason = "") (evidence : Evidence input options res)
  | rejected (verified : res.verified = false) (status : res.closure.status = "rejected")
      (reason : res.rejectionReason ∈ rejectionReasons) (pose : res.unitRelativePose = none)

variable {input : LoopClosureVerificationInput R} {options : GeometricVerificationOptions R}

theorem earlyRejection_mem {reason : String} (h : earlyRejection input options = some reason) :
    reason ∈ rejectionReasons := by
  unfold earlyRejection at h
  split_ifs at h <;> cases h <;> simp [rejectionReasons]

theorem qualityRejection_mem {res : GeometricVerificationResult R} {reason : String}
    (h : qualityRejection options res = some reason) : reason ∈ rejectionReasons := by
  unfold qualityRejection at h
  split_ifs at h <;> cases h <;> simp [rejectionReasons]

theorem poseOf_mem {lib : NumericLibrary R} {pairs : List (PointPair R)} {ransac : ScoredModel R}
    {reason : String} (h : poseOf lib pairs ransac = .error reason) : reason ∈ rejectionReasons := by
  unfold poseOf at h
  simp only at h
  split at h
  · cases h
    simp [rejectionReasons]
  · split at h
    · cases h
      simp [rejectionReasons]
    · unfold toUnitRelativePose at h
      simp only at h
      split_ifs at h <;> cases h <;> simp [rejectionReasons]

/-- The pixels alone decide about an inlier. -/
theorem countP_inlierDistance (threshold : R) (f : Mat3 R) {pairs pairs' : List (PointPair R)}
    (h : pairs.map (fun pair => (pair.srcPx, pair.tgtPx)) =
      pairs'.map fun pair => (pair.srcPx, pair.tgtPx)) :
    pairs.countP (fun pair => (inlierDistance threshold f pair).isSome) =
      pairs'.countP fun pair => (inlierDistance threshold f pair).isSome := by
  have hpixels : ∀ l : List (PointPair R),
      l.countP (fun pair => (inlierDistance threshold f pair).isSome) =
        (l.map fun pair => (pair.srcPx, pair.tgtPx)).countP fun px =>
          ((sampsonSq px.1 px.2 f).filter fun d =>
            decide (d ≤ threshold * threshold) && Double.isFinite d).isSome := by
    intro l
    rw [List.countP_map]
    rfl
  rw [hpixels, hpixels, h]

/-- What both verifiers do with a model that passes the gates. -/
theorem evidence_accept {est : RobustEstimator R} {pairs : List (PointPair R)} {s : ScoredModel R}
    {kind : String} (hearly : earlyRejection input options = none)
    (hpairs : pairs.map (fun pair => (pair.srcPx, pair.tgtPx)) =
      (fundamentalPairs input).map fun pair => (pair.srcPx, pair.tgtPx))
    (hsearch : est.robustSearch pairs options = some s)
    (hgates : qualityRejection options
      (measured options (estimationResult input kind) s) = none)
    (pose : Option (UnitRelativePose R)) :
    Evidence input options
      ((measured options (estimationResult input kind) s).accept pose) := by
  obtain ⟨height, hscore⟩ := est.robustSearch_eq_some hsearch
  unfold earlyRejection at hearly
  unfold qualityRejection at hgates
  split_ifs at hearly with hseparation hcorrespondences
  split_ifs at hgates with hinliers hratio hresidual hconfidence
  exact {
    consensus := by
      refine ⟨est.inPixels s.model, ?_⟩
      rw [← countP_inlierDistance _ _ hpairs]
      exact (congrArg ScoredModel.inlierCount hscore).symm
    inliers := ⟨height, Nat.le_of_not_lt hinliers⟩
    correspondences := Nat.le_of_not_lt hcorrespondences
    separation := hseparation
    ratio := ⟨rfl, hratio⟩
    residual := hresidual
    confidence := hconfidence
    copied := ⟨rfl, rfl, rfl⟩ }

/-- A justified result has no metric pose, and one up to scale only if it is verified. -/
structure Sound (input : LoopClosureVerificationInput R) (options : GeometricVerificationOptions R)
    (res : GeometricVerificationResult R) : Prop where
  justified : Justified input options res
  notMetric : res.hasRelativePose = false
  pose : res.verified = false → res.unitRelativePose = none

theorem Sound.reject {res : GeometricVerificationResult R} {reason : String}
    (hverified : res.verified = false) (hmetric : res.hasRelativePose = false)
    (hpose : res.unitRelativePose = none) (hreason : reason ∈ rejectionReasons) :
    Sound input options (res.reject reason) :=
  ⟨.rejected hverified rfl hreason hpose, hmetric, fun _ => hpose⟩

/-- The fundamental matrix never has a pose. -/
theorem fundamentalResult_sound (lib : NumericLibrary R)
    (hearly : earlyRejection input options = none) :
    Sound input options (fundamentalResult lib input options) ∧
      (fundamentalResult lib input options).unitRelativePose = none := by
  unfold fundamentalResult
  simp only
  split
  · exact ⟨.reject rfl rfl rfl (by simp [rejectionReasons]), rfl⟩
  · next ransac hsearch =>
      split
      · next reason hgates => exact ⟨.reject rfl rfl rfl (qualityRejection_mem hgates), rfl⟩
      · next hgates =>
          have hevidence := evidence_accept hearly rfl hsearch hgates none
          exact ⟨⟨.accepted rfl rfl rfl hevidence, rfl, fun hnot => (by cases hnot)⟩, rfl⟩

/-- The essential matrix has one exactly if it is verified. -/
theorem essentialResult_sound (lib : NumericLibrary R) {sourceCamera targetCamera : ReconCamera R}
    {srcModel tgtModel : CameraModel R} (hearly : earlyRejection input options = none) :
    let res := essentialResult lib input options sourceCamera targetCamera srcModel tgtModel
    Sound input options res ∧ (res.unitRelativePose.isSome = true ↔ res.verified = true) := by
  have hpairs : (essentialPairs input srcModel tgtModel).map (fun pair => (pair.srcPx, pair.tgtPx)) =
      (fundamentalPairs input).map fun pair => (pair.srcPx, pair.tgtPx) := by
    rw [essentialPairs, fundamentalPairs, List.map_map, List.map_map]
    rfl
  have hneither : (none : Option (UnitRelativePose R)).isSome = true ↔ false = true := Iff.rfl
  intro res
  simp only [res]
  unfold essentialResult
  simp only
  split
  · exact ⟨.reject rfl rfl rfl (by simp [rejectionReasons]), hneither⟩
  · split
    · exact ⟨.reject rfl rfl rfl (by simp [rejectionReasons]), hneither⟩
    · next ransac hsearch =>
        split
        · next reason hgates => exact ⟨.reject rfl rfl rfl (qualityRejection_mem hgates), hneither⟩
        · next hgates =>
            split
            · next reason hpose => exact ⟨.reject rfl rfl rfl (poseOf_mem hpose), hneither⟩
            · next pose hpose =>
                have hevidence := evidence_accept hearly hpairs hsearch hgates (some pose)
                exact ⟨⟨.accepted rfl rfl rfl hevidence, rfl, fun hnot => (by cases hnot)⟩, Iff.rfl⟩

/-- **The evidence behind a result.** Whatever one of the verifiers returns, it
is verified on evidence that meets every option, or rejected for one of ten
reasons and without a pose; it never has a metric pose, and one up to scale
exactly if an essential matrix was verified. -/
theorem verify_evidence (lib : NumericLibrary R) (input : LoopClosureVerificationInput R)
    (options : GeometricVerificationOptions R) (res : GeometricVerificationResult R) :
    (verifyFundamental lib input options = .ok res →
      Sound input options res ∧ res.unitRelativePose = none) ∧
    (verifyEssential lib input options = .ok res →
      Sound input options res ∧ (res.unitRelativePose.isSome = true ↔ res.verified = true)) := by
  have hneither : (none : Option (UnitRelativePose R)).isSome = true ↔ false = true := Iff.rfl
  refine ⟨fun h => ?_, fun h => ?_⟩
  · obtain ⟨-, -, h⟩ := bind_eq_ok_iff.mp h
    split at h
    · next reason hearly =>
        cases h
        exact ⟨.reject rfl rfl rfl (earlyRejection_mem hearly), rfl⟩
    · next hearly =>
        cases h
        exact fundamentalResult_sound lib hearly
  · obtain ⟨-, -, h⟩ := bind_eq_ok_iff.mp h
    split at h
    · next reason hearly =>
        cases h
        exact ⟨.reject rfl rfl rfl (earlyRejection_mem hearly), hneither⟩
    · next hearly =>
        split at h
        -- both images have a calibrated camera
        · obtain ⟨srcModel, -, h⟩ := bind_eq_ok_iff.mp h
          obtain ⟨tgtModel, -, h⟩ := bind_eq_ok_iff.mp h
          cases h
          exact essentialResult_sound lib hearly
        · cases h
          exact ⟨.reject rfl rfl rfl (by simp [rejectionReasons]), hneither⟩

/-! Eight points that two cameras side by side see. -/

section

/-- A pinhole camera needs no trigonometry. -/
private abbrev pinholeTrig : DoubleTrig Rat where
  tan x := x
  atan x := x
  acos x := x
  max := 1

private def raisedLibrary : NumericLibrary Rat where
  hypot x y := Rat.sqrt (x * x + y * y)
  lastColumn _ := ⟨#[0, 0, 0, 0, 0, -2, 0, 2, 0], rfl⟩
  svd3 m := (.triple (.triple 0 0 1) (.triple 1 0 0) (.triple 0 1 0), .triple (m 2 1) (m 2 1) 0,
    .triple (.triple 0 0 1) (.triple 0 1 0) (.triple (-1) 0 0))

private def raisedPoints : List (Rat × Rat) :=
  [(3, 4), (-3, 4), (3, -4), (-3, -4), (4, 3), (-4, 3), (4, -3), (-4, -3)]

/-- The image of the second camera is shifted by a pixel. -/
private def raisedCamera (cy : Rat) : ReconCamera Rat where
  intrinsicModel := "pinhole"
  fx := 1
  fy := 1
  cx := 0
  cy := cy
  distortionModel := "none"

private def raisedFrame (id : String) (points : List (Rat × Rat)) : MatchingFrameDescriptors Rat where
  frameId := id
  keypoints := points.map fun point => ⟨point.1, point.2⟩
  descriptors := points.map fun _ => []

private def raisedInput : LoopClosureVerificationInput Rat where
  candidate := { sourceFrameId := "s", targetFrameId := "t", featureMatchScore := 1, matcher := "" }
  source := raisedFrame "s" raisedPoints
  target := raisedFrame "t" (raisedPoints.map fun point => (point.1 - 1, point.2 + 1))
  correspondences := (List.range 8).map fun i => ⟨UInt32.ofNat i, UInt32.ofNat i, 0⟩
  sourceCamera := some (raisedCamera 0)
  targetCamera := some (raisedCamera 1)

private def raisedOptions : GeometricVerificationOptions Rat where
  minCorrespondences := 8
  minInlierRatio := 0.7
  maxResidual := 4.0
  maxRansacIterations := 1
  ransacInlierThreshold := 1.0
  verifyMinConfidence := 0.6

/-- Both verifiers accept them, on evidence. -/
theorem verify_evidence_raised : ∃ fundamental essential,
    @verifyFundamental _ pinholeTrig.toDoubleArith raisedLibrary raisedInput raisedOptions =
      .ok fundamental ∧
      fundamental.verified = true ∧ @Sound _ pinholeTrig raisedInput raisedOptions fundamental ∧
    @verifyEssential _ pinholeTrig raisedLibrary raisedInput raisedOptions = .ok essential ∧
      essential.unitRelativePose.isSome = true ∧
      @Sound _ pinholeTrig raisedInput raisedOptions essential := by
  have hfundamental : (@verifyFundamental _ pinholeTrig.toDoubleArith raisedLibrary raisedInput
      raisedOptions).toOption.any GeometricVerificationResult.verified = true := by decide +kernel
  have hessential : (@verifyEssential _ pinholeTrig raisedLibrary raisedInput raisedOptions).toOption.any
      GeometricVerificationResult.verified = true := by decide +kernel
  have hok : ∀ {run : Except ProjectError (GeometricVerificationResult Rat)},
      run.toOption.any GeometricVerificationResult.verified = true →
        ∃ res, run = .ok res ∧ res.verified = true := by
    intro run h
    cases run with
    | error e => cases h
    | ok res => exact ⟨res, rfl, h⟩
  obtain ⟨fundamental, hf, hverified⟩ := hok hfundamental
  obtain ⟨essential, he, haccepted⟩ := hok hessential
  obtain ⟨hsound, -⟩ :=
    (@verify_evidence _ pinholeTrig raisedLibrary raisedInput raisedOptions fundamental).1 hf
  obtain ⟨hsound', hpose⟩ :=
    (@verify_evidence _ pinholeTrig raisedLibrary raisedInput raisedOptions essential).2 he
  exact ⟨fundamental, essential, hf, hverified, hsound, he, hpose.mpr haccepted, hsound'⟩

end

end

end SpatialPlatform.Adapters.VisualGeometry
