import SpatialPlatform.Adapters.VisualGeometry.EssentialVerifier
import SpatialPlatform.Core.Trajectory.InformationMatrix
import SpatialPlatform.Lib.Coordinates

/-!
# Measured edges without rounding

From the winner of `adapters/visual_geometry/essential_verifier.cpp` over its
metric translation to the edge of `core/trajectory/pose_graph_helpers.h`: for
exact poses the edge is the relative pose that the odometry edges between the
same nodes have.

* `measuredEdge_eq_some` — the edge that the three steps make, and when they
  make one.
* `measuredEdge_isRelativePose` — it is the relative pose.
-/

namespace SpatialPlatform.Adapters.VisualGeometry

open SpatialPlatform.Core SpatialPlatform.Core.Geometry

/-- The conversion, the resolution and the building of an edge, one after the other. -/
def measuredEdge {R : Type} [DoubleArith R] (determinant : Vector R 36 → R) (lc : LoopClosure R)
    (nodes : List (TrajectoryPoseNode R)) (winnerR : Mat3 R) (winnerT : Vector R 3)
    (geometricResidual : R) (edgeId : Int64) (configurationHash : String) (basis : MetricBasis) :
    Option (PoseGraphEdge R) := do
  let pose ← (toUnitRelativePose winnerR winnerT).toOption
  let measurement ← resolveMetricTranslationFromUnitDirection lc nodes pose.translationDirectionXyz
    pose.rotationXyzw geometricResidual
  buildMetricLoopClosureEdge determinant lc nodes measurement edgeId configurationHash basis

/-! ## The relative pose -/

/-- The nodes of an accepted closure, with rotations, and the winner that their poses have. -/
structure Observed (lc : LoopClosure ℝ) (nodes : List (TrajectoryPoseNode ℝ)) (basis : MetricBasis)
    (source target : TrajectoryPoseNode ℝ × Nat) (winnerR : Mat3 ℝ) (winnerT : Vector ℝ 3) :
    Prop where
  accepted : lc.status = "accepted"
  distinct : lc.sourceFrameId ≠ lc.targetFrameId
  eligible : metricEligibleTrajectoryBasis basis = true
  sourceNode : lastNode nodes lc.sourceFrameId = some source
  targetNode : lastNode nodes lc.targetFrameId = some target
  sourceRotation : 0 < squaredNorm source.1.rotationXyzw
  targetRotation : 0 < squaredNorm target.1.rotationXyzw
  solves : Solves (poseFromNode source.1) (poseFromNode target.1) winnerR winnerT

/-- The translation between two nodes, in the camera of the first. -/
noncomputable def translationBetween (source target : TrajectoryPoseNode ℝ) : Vector ℝ 3 :=
  rotateDirection (conj (poseFromNode source).rotation)
    (sub3 target.positionXyz source.positionXyz)

/-- The rotation between two nodes. -/
noncomputable def rotationBetween (source target : TrajectoryPoseNode ℝ) : Quat ℝ :=
  quatMul (conj (poseFromNode source).rotation) (poseFromNode target).rotation

theorem relativePoseBetween_real {source target : TrajectoryPoseNode ℝ}
    (h : squaredNorm (poseFromNode source).rotation = 1) :
    relativePoseBetween source target =
      ⟨rotationBetween source target, translationBetween source target⟩ := by
  have hsub : sub3 target.positionXyz source.positionXyz =
      add3 target.positionXyz (neg3 source.positionXyz) := by
    apply vec3_ext <;> simp [sub3, add3, neg3] <;> ring
  unfold relativePoseBetween translationBetween rotationBetween
  rw [hsub, rotateDirection_add3, rotateDirection_neg3, ← inverse_of_unit h]
  rfl

/-! ## The three steps

Each step for exact poses: the direction of the closure agrees with the
baseline, its length is resolved to that of the baseline, and the edge is built
from the resolved translation. -/

section

variable {source target : TrajectoryPoseNode ℝ}

theorem baselineBetween_mul_self (source target : TrajectoryPoseNode ℝ) :
    baselineBetween source target * baselineBetween source target =
      dot3 (sub3 target.positionXyz source.positionXyz)
        (sub3 target.positionXyz source.positionXyz) :=
  norm3_mul_self _

/-- A translation that points along the baseline agrees with it. -/
theorem directionAgreement_eq_one {d : Vector ℝ 3} {k : ℝ}
    (hbaseline : 0 < baselineBetween source target) (hk : 0 < k)
    (hd : rotateDirection (poseFromNode source).rotation d =
      scale3 k (sub3 target.positionXyz source.positionXyz))
    (hlength : (1e-12 : ℝ) < k * baselineBetween source target) :
    directionAgreement source target d = 1 := by
  have hnorm : norm3 (scale3 k (sub3 target.positionXyz source.positionXyz)) =
      k * baselineBetween source target := norm3_scale3 hk.le _
  have hrotated : rotateDirection
      (makeCameraPose source.positionXyz source.rotationXyzw).rotation d =
      scale3 k (sub3 target.positionXyz source.positionXyz) := hd
  unfold directionAgreement
  simp only [hrotated, hnorm]
  rw [if_pos hlength]
  show dot3 (div3 _ _) (div3 _ (baselineBetween source target)) = 1
  rw [div3_eq_scale3, div3_eq_scale3, dot3_scale3, dot3_scale3, dot3_comm, dot3_scale3,
    ← baselineBetween_mul_self]
  field_simp

theorem norm3_translationBetween (h : squaredNorm (poseFromNode source).rotation = 1) :
    norm3 (translationBetween source target) = baselineBetween source target :=
  norm3_rotateDirection ((squaredNorm_conj _).trans h) _

theorem rotateDirection_translationBetween (h : squaredNorm (poseFromNode source).rotation = 1) :
    rotateDirection (poseFromNode source).rotation (translationBetween source target) =
      sub3 target.positionXyz source.positionXyz :=
  rotateDirection_self_conj h _

/-- The resolution of the unit direction gives the translation back. -/
theorem resolve_translationBetween {lc : LoopClosure ℝ} {nodes : List (TrajectoryPoseNode ℝ)}
    {i j : Nat} (haccepted : lc.status = "accepted")
    (hdistinct : lc.sourceFrameId ≠ lc.targetFrameId)
    (hsource : lastNode nodes lc.sourceFrameId = some (source, i))
    (htarget : lastNode nodes lc.targetFrameId = some (target, j))
    (hunit : squaredNorm (poseFromNode source).rotation = 1) (rotationCst : Quat ℝ)
    (geometricResidual : ℝ) :
    resolveMetricTranslationFromUnitDirection lc nodes
        (scale3 (baselineBetween source target)⁻¹ (translationBetween source target)) rotationCst
        geometricResidual =
      if baselineBetween source target ≤ (1e-9 : ℝ) then none
      else some ⟨translationBetween source target, rotationCst, geometricResidual⟩ := by
  unfold resolveMetricTranslationFromUnitDirection
  rw [if_neg (not_not_intro haccepted), if_neg hdistinct, hsource, htarget]
  simp only
  by_cases hshort : baselineBetween source target ≤ (1e-9 : ℝ)
  · rw [if_pos hshort, if_pos hshort, ite_self]
  have hlong : (1e-9 : ℝ) < baselineBetween source target := lt_of_not_ge hshort
  have hbaseline : 0 < baselineBetween source target := lt_trans (by norm_num) hlong
  -- beyond the shortest baseline the direction has length one, and its agreement is perfect
  have hnorm : norm3 (scale3 (baselineBetween source target)⁻¹
      (translationBetween source target)) = 1 := by
    rw [norm3_scale3 (inv_nonneg.mpr hbaseline.le), norm3_translationBetween hunit,
      inv_mul_cancel₀ hbaseline.ne']
  have hrotated : rotateDirection (poseFromNode source).rotation
      (scale3 (baselineBetween source target)⁻¹ (translationBetween source target)) =
      scale3 (baselineBetween source target)⁻¹ (sub3 target.positionXyz source.positionXyz) := by
    rw [rotateDirection_scale3, rotateDirection_translationBetween hunit]
  have hagrees : directionAgreement source target (scale3 (baselineBetween source target)⁻¹
      (translationBetween source target)) = 1 := by
    apply directionAgreement_eq_one hbaseline (inv_pos.mpr hbaseline) hrotated
    rw [inv_mul_cancel₀ hbaseline.ne']
    norm_num
  have hlambda : dot3 (rotateDirection (makeCameraPose source.positionXyz
      source.rotationXyzw).rotation (scale3 (baselineBetween source target)⁻¹
      (translationBetween source target))) (sub3 target.positionXyz source.positionXyz) =
      baselineBetween source target := by
    rw [show rotateDirection (makeCameraPose source.positionXyz source.rotationXyzw).rotation
      (scale3 (baselineBetween source target)⁻¹ (translationBetween source target)) = _ from
      hrotated, dot3_scale3, ← baselineBetween_mul_self]
    field_simp
  rw [hnorm, if_neg (by norm_num), if_neg hshort, hagrees, if_neg (by norm_num), hlambda,
    if_neg (by norm_num; exact hbaseline), scale3_scale3, mul_inv_cancel₀ hbaseline.ne', scale3_one,
    if_neg hshort]

/-- The edge of a resolved translation, unless the matrix of the closure is not valid. -/
theorem build_translationBetween {determinant : Vector ℝ 36 → ℝ} {lc : LoopClosure ℝ}
    {nodes : List (TrajectoryPoseNode ℝ)} {basis : MetricBasis} {i j : Nat}
    (haccepted : lc.status = "accepted") (hdistinct : lc.sourceFrameId ≠ lc.targetFrameId)
    (heligible : metricEligibleTrajectoryBasis basis = true)
    (hsource : lastNode nodes lc.sourceFrameId = some (source, i))
    (htarget : lastNode nodes lc.targetFrameId = some (target, j))
    (hunit : squaredNorm (poseFromNode source).rotation = 1)
    (hlong : (1e-9 : ℝ) < baselineBetween source target) (rotationCst : Quat ℝ)
    (geometricResidual : ℝ) (edgeId : Int64) (configurationHash : String) :
    buildMetricLoopClosureEdge determinant lc nodes
        ⟨translationBetween source target, rotationCst, geometricResidual⟩ edgeId configurationHash
        basis =
      if validateInformationMatrix determinant (makeDeterministicLoopInfo6 lc.inlierRatio
          lc.inlierCount geometricResidual 1 (baselineBetween source target)) = none then
        some (metricLoopClosureEdge lc ⟨translationBetween source target, rotationCst,
          geometricResidual⟩ edgeId configurationHash (source, i) (target, j))
      else none := by
  have hbaseline : 0 < baselineBetween source target := lt_trans (by norm_num) hlong
  -- the translation is the baseline itself
  have hagrees : directionAgreement source target (translationBetween source target) = 1 := by
    apply directionAgreement_eq_one hbaseline one_pos
    · rw [rotateDirection_translationBetween hunit, scale3_one]
    · rw [one_mul]
      exact lt_trans (by norm_num) hlong
  have hinfo : edgeInformation lc ⟨translationBetween source target, rotationCst,
      geometricResidual⟩ source target = makeDeterministicLoopInfo6 lc.inlierRatio lc.inlierCount
      geometricResidual 1 (baselineBetween source target) := by
    unfold edgeInformation
    rw [hagrees]
  unfold buildMetricLoopClosureEdge
  rw [if_neg (not_not_intro haccepted), if_neg hdistinct, if_neg (by simp [heligible]), hsource,
    htarget]
  simp only [hinfo, norm3_translationBetween hunit, hagrees]
  rw [if_neg (not_le.mpr hlong), if_neg (not_le.mpr hlong), if_neg (by norm_num)]
  cases validateInformationMatrix determinant (makeDeterministicLoopInfo6 lc.inlierRatio
    lc.inlierCount geometricResidual 1 (baselineBetween source target)) <;> simp

end

/-! ## The edge

The three steps in a row. The rotation comes from a matrix, so the quaternion
may be the other one of the same rotation. -/

section

variable {determinant : Vector ℝ 36 → ℝ} {lc : LoopClosure ℝ} {nodes : List (TrajectoryPoseNode ℝ)}
  {basis : MetricBasis} {source target : TrajectoryPoseNode ℝ × Nat} {winnerR : Mat3 ℝ}
  {winnerT : Vector ℝ 3} {geometricResidual : ℝ} {edgeId : Int64} {configurationHash : String}

/-- The rotation that the matrix of the relative rotation gives. -/
noncomputable def measuredRotation (source target : TrajectoryPoseNode ℝ) : Quat ℝ :=
  normalized (fromRotationMatrix (toRotationMatrix (rotationBetween source target)))

/-- The matrix of the closure, for nodes in agreement with it. -/
noncomputable def closureInformation (lc : LoopClosure ℝ) (geometricResidual : ℝ)
    (source target : TrajectoryPoseNode ℝ) : Vector ℝ 36 :=
  makeDeterministicLoopInfo6 lc.inlierRatio lc.inlierCount geometricResidual 1
    (baselineBetween source target)

theorem measuredEdge_eq_some (h : Observed lc nodes basis source target winnerR winnerT)
    (edge : PoseGraphEdge ℝ) :
    measuredEdge determinant lc nodes winnerR winnerT geometricResidual edgeId configurationHash
        basis = some edge ↔
      (1e-9 : ℝ) < baselineBetween source.1 target.1 ∧
      validateInformationMatrix determinant
        (closureInformation lc geometricResidual source.1 target.1) = none ∧
      edge = metricLoopClosureEdge lc ⟨translationBetween source.1 target.1,
        measuredRotation source.1 target.1, geometricResidual⟩ edgeId configurationHash source
        target := by
  have hsource : squaredNorm (poseFromNode source.1).rotation = 1 :=
    squaredNorm_normalized h.sourceRotation
  have htarget : squaredNorm (poseFromNode target.1).rotation = 1 :=
    squaredNorm_normalized h.targetRotation
  unfold measuredEdge
  rw [toUnitRelativePose_of_solves h.solves hsource htarget]
  show ((resolveMetricTranslationFromUnitDirection lc nodes
    (scale3 (baselineBetween source.1 target.1)⁻¹ (translationBetween source.1 target.1))
    (measuredRotation source.1 target.1) geometricResidual).bind _ = some edge) ↔ _
  rw [resolve_translationBetween h.accepted h.distinct h.sourceNode h.targetNode hsource]
  -- a baseline that is too short ends the resolution
  by_cases hlong : baselineBetween source.1 target.1 ≤ (1e-9 : ℝ)
  · rw [if_pos hlong]
    constructor
    · intro hnone
      cases hnone
    · intro hedge
      exact absurd hedge.1 (not_lt.mpr hlong)
  · have hlt := lt_of_not_ge hlong
    rw [if_neg hlong, Option.bind_some,
      build_translationBetween h.accepted h.distinct h.eligible h.sourceNode h.targetNode hsource hlt]
    unfold closureInformation
    by_cases hvalid : validateInformationMatrix determinant (makeDeterministicLoopInfo6
        lc.inlierRatio lc.inlierCount geometricResidual 1 (baselineBetween source.1 target.1)) = none
    · rw [if_pos hvalid]
      simp only [hlt, hvalid, true_and, Option.some.injEq]
      exact eq_comm
    · rw [if_neg hvalid]
      simp [hvalid]

/-- The rotation is the relative one, or the other quaternion of the same rotation. -/
theorem measuredRotation_cases (h : Observed lc nodes basis source target winnerR winnerT) :
    measuredRotation source.1 target.1 = rotationBetween source.1 target.1 ∨
      measuredRotation source.1 target.1 = negQuat (rotationBetween source.1 target.1) := by
  have hunit : squaredNorm (rotationBetween source.1 target.1) = 1 := by
    unfold rotationBetween
    rw [squaredNorm_quatMul, squaredNorm_conj]
    show squaredNorm (normalized source.1.rotationXyzw) *
      squaredNorm (normalized target.1.rotationXyzw) = 1
    rw [squaredNorm_normalized h.sourceRotation, squaredNorm_normalized h.targetRotation, one_mul]
  unfold measuredRotation
  obtain hsame | hother := fromRotationMatrix_toRotationMatrix hunit
  · rw [hsame]
    exact Or.inl (normalized_of_unit hunit)
  · rw [hother]
    exact Or.inr (normalized_of_unit ((squaredNorm_negQuat _).trans hunit))

end

/-- The edge joins the nodes and measures the pose that an odometry edge between
them has; the rotation may be the other quaternion of the same rotation. -/
structure IsRelativePose (edge : PoseGraphEdge ℝ) (source target : TrajectoryPoseNode ℝ × Nat) :
    Prop where
  sourceNodeId : edge.sourceNodeId = Int64.ofNat source.2
  targetNodeId : edge.targetNodeId = Int64.ofNat target.2
  position : edge.relativePositionXyz = (relativePoseBetween source.1 target.1).translation
  rotation : edge.relativeRotationXyzw = (relativePoseBetween source.1 target.1).rotation ∨
    edge.relativeRotationXyzw = negQuat (relativePoseBetween source.1 target.1).rotation

/-- For exact poses with a baseline above the threshold and a closure with a
valid matrix, the three steps make an edge, and it is the relative pose. -/
theorem measuredEdge_isRelativePose (determinant : Vector ℝ 36 → ℝ) (lc : LoopClosure ℝ)
    (nodes : List (TrajectoryPoseNode ℝ)) (basis : MetricBasis)
    (source target : TrajectoryPoseNode ℝ × Nat) (winnerR : Mat3 ℝ) (winnerT : Vector ℝ 3)
    (geometricResidual : ℝ) (edgeId : Int64) (configurationHash : String)
    (h : Observed lc nodes basis source target winnerR winnerT)
    (hbaseline : (1e-9 : ℝ) < baselineBetween source.1 target.1)
    (hvalid : validateInformationMatrix determinant
      (closureInformation lc geometricResidual source.1 target.1) = none) :
    ∃ edge, measuredEdge determinant lc nodes winnerR winnerT geometricResidual edgeId
        configurationHash basis = some edge ∧ IsRelativePose edge source target := by
  refine ⟨_, (measuredEdge_eq_some h _).mpr ⟨hbaseline, hvalid, rfl⟩, ?_⟩
  have hrelative : relativePoseBetween source.1 target.1 =
      ⟨rotationBetween source.1 target.1, translationBetween source.1 target.1⟩ :=
    relativePoseBetween_real (squaredNorm_normalized h.sourceRotation)
  exact {
    sourceNodeId := rfl
    targetNodeId := rfl
    position := by rw [hrelative]; rfl
    rotation := by rw [hrelative]; exact measuredRotation_cases h }

/-! ## Two cameras side by side

A family of closures with one parameter, the baseline: for a metre the edge is
the relative pose, for smaller and larger ones there is none. -/

/-- Two cameras a baseline apart along the first axis; neither is turned,
whatever the sign of the scalar in the second quaternion. -/
noncomputable def sampleNodes (baseline scalar : ℝ) : List (TrajectoryPoseNode ℝ) := [
  { frameId := "first", positionXyz := .triple 0 0 0, rotationXyzw := .quadruple 0 0 0 1 },
  { frameId := "second", positionXyz := .triple baseline 0 0, rotationXyzw := .quadruple 0 0 0 scalar }]

noncomputable def sampleSource : TrajectoryPoseNode ℝ × Nat :=
  ({ frameId := "first", positionXyz := .triple 0 0 0, rotationXyzw := .quadruple 0 0 0 1 }, 0)

noncomputable def sampleTarget (baseline scalar : ℝ) : TrajectoryPoseNode ℝ × Nat :=
  ({ frameId := "second", positionXyz := .triple baseline 0 0, rotationXyzw := .quadruple 0 0 0 scalar },
    1)

noncomputable def sampleClosure : LoopClosure ℝ where
  sourceFrameId := "first"
  targetFrameId := "second"
  status := "accepted"
  inlierRatio := 0.6
  inlierCount := 40
  confidence := 1
  spatialSeparationM := 0
  relativePositionXyz := .triple 0 0 0
  relativeRotationXyzw := .quadruple 0 0 0 1
  geometricResidual := 0

def sampleBasis : MetricBasis where
  declared := true
  scaleCalibrationRef := "calibration"
  provenance := { configurationHash := "configuration" }

noncomputable def identityMatrix : Mat3 ℝ := .triple (.triple 1 0 0) (.triple 0 1 0) (.triple 0 0 1)

theorem sample_observed {baseline scalar : ℝ} (hbaseline : 0 < baseline) (hscalar : scalar * scalar = 1) :
    Observed sampleClosure (sampleNodes baseline scalar) sampleBasis sampleSource
      (sampleTarget baseline scalar) identityMatrix #v[-1, 0, 0] := by
  have hsource : squaredNorm (#v[0, 0, 0, 1] : Quat ℝ) = 1 := by simp [squaredNorm_real]
  have htarget : squaredNorm (#v[0, 0, 0, scalar] : Quat ℝ) = 1 := by
    simp [squaredNorm_real, hscalar]
  have hsourcePose : poseFromNode sampleSource.1 = ⟨#v[0, 0, 0, 1], #v[0, 0, 0]⟩ :=
    congrArg (Rigid.mk · _) (normalized_of_unit hsource)
  have htargetPose : poseFromNode (sampleTarget baseline scalar).1 =
      ⟨#v[0, 0, 0, scalar], #v[baseline, 0, 0]⟩ :=
    congrArg (Rigid.mk · _) (normalized_of_unit htarget)
  exact {
    accepted := rfl
    distinct := by decide
    eligible := rfl
    sourceNode := rfl
    targetNode := rfl
    sourceRotation := by
      show 0 < squaredNorm (#v[0, 0, 0, 1] : Quat ℝ)
      rw [hsource]
      norm_num
    targetRotation := by
      show 0 < squaredNorm (#v[0, 0, 0, scalar] : Quat ℝ)
      rw [htarget]
      norm_num
    solves := by
      rw [hsourcePose, htargetPose]
      refine ⟨by simp [norm3_real, dot3_real], baseline, hbaseline, ?_⟩
      intro x
      rw [inverse_transformPoint htarget, inverse_transformPoint hsource]
      simp only [rotateDirection_real]
      apply vec3_ext <;> simp [conj, sub3, add3, mulVec3, identityMatrix, dot3_real, scale3]
      ring }

theorem baselineBetween_sample {baseline : ℝ} (scalar : ℝ) (hbaseline : 0 < baseline) :
    baselineBetween sampleSource.1 (sampleTarget baseline scalar).1 = baseline := by
  have hdot : dot3 (sub3 (sampleTarget baseline scalar).1.positionXyz sampleSource.1.positionXyz)
      (sub3 (sampleTarget baseline scalar).1.positionXyz sampleSource.1.positionXyz) =
      baseline * baseline := by
    simp [dot3_real, sub3, sampleSource, sampleTarget]
  unfold baselineBetween
  rw [norm3_real, hdot, Real.sqrt_mul_self hbaseline.le]

/-- The quality of the sample is full, so its matrix depends on the baseline alone. -/
theorem closureInformation_sample {baseline : ℝ} (scalar : ℝ) (hbaseline : 0 < baseline) :
    closureInformation sampleClosure 0 sampleSource.1 (sampleTarget baseline scalar).1 =
      diagonal6 (16 / (baseline * baseline)) 400 := by
  unfold closureInformation
  rw [baselineBetween_sample scalar hbaseline]
  have hfull : ∀ v : ℝ, 1 ≤ v → clamp01 v = 1 := by
    intro v hv
    unfold clamp01
    rw [if_neg (by norm_num; linarith)]
    split
    · norm_num
    · linarith
  have hcount : ((sampleClosure.inlierCount - 15).toInt : ℝ) / (25.0 : ℝ) = 1 := by
    have hint : (sampleClosure.inlierCount - 15).toInt = 25 := by decide
    rw [hint]
    norm_num
  have hratio : sampleClosure.inlierRatio / (0.6 : ℝ) = 1 := by
    show (0.6 : ℝ) / 0.6 = 1
    norm_num
  unfold makeDeterministicLoopInfo6
  simp only [hcount, hratio]
  rw [hfull 1 le_rfl, hfull _ (by norm_num), hfull _ (by norm_num)]
  norm_num
  congr 1
  field_simp
  norm_num

theorem validate_sample {baseline : ℝ} (scalar : ℝ) (hbaseline : 0 < baseline) :
    validateInformationMatrix exactDeterminant (closureInformation sampleClosure 0 sampleSource.1
      (sampleTarget baseline scalar).1) = none ↔ (1e-9 : ℝ) ≤ 16 / (baseline * baseline) := by
  rw [closureInformation_sample scalar hbaseline]
  exact validate_diagonal6 (by norm_num)

/-- Cameras one metre apart are given their relative pose. -/
theorem one_metre_isRelativePose : ∃ edge,
    measuredEdge exactDeterminant sampleClosure (sampleNodes 1 1) identityMatrix #v[-1, 0, 0] 0 0 ""
      sampleBasis = some edge ∧ IsRelativePose edge sampleSource (sampleTarget 1 1) :=
  measuredEdge_isRelativePose exactDeterminant sampleClosure (sampleNodes 1 1) sampleBasis
    sampleSource (sampleTarget 1 1) identityMatrix #v[-1, 0, 0] 0 0 ""
    (sample_observed one_pos (one_mul 1))
    (by rw [baselineBetween_sample 1 one_pos]; norm_num)
    ((validate_sample 1 one_pos).mpr (by norm_num))

theorem rotationBetween_turned :
    rotationBetween sampleSource.1 (sampleTarget 1 (-1)).1 = #v[0, 0, 0, -1] := by
  have hsource : squaredNorm (#v[0, 0, 0, 1] : Quat ℝ) = 1 := by simp [squaredNorm_real]
  have htarget : squaredNorm (#v[0, 0, 0, -1] : Quat ℝ) = 1 := by simp [squaredNorm_real]
  show quatMul (conj (normalized #v[0, 0, 0, 1])) (normalized #v[0, 0, 0, -1]) = #v[0, 0, 0, -1]
  rw [normalized_of_unit hsource, normalized_of_unit htarget]
  apply quat_ext <;> simp [quatMul, conj]

theorem measuredRotation_turned :
    measuredRotation sampleSource.1 (sampleTarget 1 (-1)).1 ≠ #v[0, 0, 0, -1] := by
  have htarget : squaredNorm (#v[0, 0, 0, -1] : Quat ℝ) = 1 := by simp [squaredNorm_real]
  have hnonneg : (0 : ℝ) ≤ (fromRotationMatrix (toRotationMatrix (#v[0, 0, 0, -1] : Quat ℝ)))[3] := by
    apply fromRotationMatrix_scalar_nonneg
    simp [toRotationMatrix]
    norm_num
  unfold measuredRotation
  rw [rotationBetween_turned]
  obtain hsame | hother := fromRotationMatrix_toRotationMatrix htarget
  · rw [hsame] at hnonneg
    norm_num at hnonneg
  · rw [hother, normalized_of_unit ((squaredNorm_negQuat _).trans htarget)]
    intro h
    have hscalar := congrArg (fun q : Quat ℝ => q[3]) h
    norm_num [negQuat] at hscalar

/-- Cameras a tenth of a nanometre apart have no edge, nor have cameras a
thousand kilometres apart; and of cameras one metre apart the edge may hold the
other quaternion of the relative rotation. -/
theorem other_measurements :
    (Observed sampleClosure (sampleNodes 1e-10 1) sampleBasis sampleSource (sampleTarget 1e-10 1)
        identityMatrix #v[-1, 0, 0] ∧
      0 < baselineBetween sampleSource.1 (sampleTarget 1e-10 1).1 ∧
      measuredEdge exactDeterminant sampleClosure (sampleNodes 1e-10 1) identityMatrix #v[-1, 0, 0]
        0 0 "" sampleBasis = none) ∧
    (Observed sampleClosure (sampleNodes 1e6 1) sampleBasis sampleSource (sampleTarget 1e6 1)
        identityMatrix #v[-1, 0, 0] ∧
      0 < baselineBetween sampleSource.1 (sampleTarget 1e6 1).1 ∧
      measuredEdge exactDeterminant sampleClosure (sampleNodes 1e6 1) identityMatrix #v[-1, 0, 0]
        0 0 "" sampleBasis = none) ∧
    Observed sampleClosure (sampleNodes 1 (-1)) sampleBasis sampleSource (sampleTarget 1 (-1))
        identityMatrix #v[-1, 0, 0] ∧
      0 < baselineBetween sampleSource.1 (sampleTarget 1 (-1)).1 ∧
      ∃ edge, measuredEdge exactDeterminant sampleClosure (sampleNodes 1 (-1)) identityMatrix
          #v[-1, 0, 0] 0 0 "" sampleBasis = some edge ∧
        edge.relativeRotationXyzw ≠
          (relativePoseBetween sampleSource.1 (sampleTarget 1 (-1)).1).rotation := by
  have hnear : (0 : ℝ) < 1e-10 := by norm_num
  have hfar : (0 : ℝ) < 1e6 := by norm_num
  have hnearObserved := sample_observed hnear (one_mul (1 : ℝ))
  have hfarObserved := sample_observed hfar (one_mul (1 : ℝ))
  have hturned : Observed _ _ _ _ _ _ _ := sample_observed one_pos (by norm_num : (-1 : ℝ) * -1 = 1)
  refine ⟨⟨hnearObserved, ?_, ?_⟩, ⟨hfarObserved, ?_, ?_⟩, hturned, ?_, ?_⟩
  · -- too short for the edge builder
    rwa [baselineBetween_sample 1 hnear]
  · apply Option.eq_none_iff_forall_ne_some.mpr
    intro edge hedge
    have hlong := ((measuredEdge_eq_some hnearObserved edge).mp hedge).1
    rw [baselineBetween_sample 1 hnear] at hlong
    norm_num at hlong
  · -- too far for its information matrix
    rwa [baselineBetween_sample 1 hfar]
  · apply Option.eq_none_iff_forall_ne_some.mpr
    intro edge hedge
    have hvalid := (validate_sample 1 hfar).mp ((measuredEdge_eq_some hfarObserved edge).mp hedge).2.1
    norm_num at hvalid
  · -- between turned nodes the rotation comes out wrong
    rw [baselineBetween_sample (-1) one_pos]
    exact one_pos
  · refine ⟨_, (measuredEdge_eq_some hturned _).mpr ⟨?_, ?_, rfl⟩, ?_⟩
    · rw [baselineBetween_sample (-1) one_pos]
      norm_num
    · exact (validate_sample (-1) one_pos).mpr (by norm_num)
    · rw [relativePoseBetween_real (squaredNorm_normalized hturned.sourceRotation),
        rotationBetween_turned]
      exact measuredRotation_turned

end SpatialPlatform.Adapters.VisualGeometry
