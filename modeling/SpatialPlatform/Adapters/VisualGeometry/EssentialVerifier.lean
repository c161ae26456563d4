import SpatialPlatform.Core.Geometry.ExactRotations
import SpatialPlatform.Core.Trajectory.PoseGraphHelpers

/-!
# The pose of an essential matrix

The end of `adapters/visual_geometry/essential_verifier.cpp`: the rotation and
the translation that win the cheirality vote, which take coordinates of the
source camera to coordinates of the target camera, become the relative transform
of the platform, which goes the other way.

* `toUnitRelativePose_of_solves` — without rounding, the result is the direction
  of the relative pose and its rotation.
-/

namespace SpatialPlatform.Adapters.VisualGeometry

open SpatialPlatform.Core SpatialPlatform.Core.Geometry

/-- `UnitRelativePose`. -/
structure UnitRelativePose (R : Type) where
  rotationXyzw : Quat R
  translationDirectionXyz : Vector R 3

section

variable {R : Type} [DoubleArith R]

def allFinite {n : Nat} (a : Vector R n) : Bool := a.toList.all Double.isFinite

/-- The conversion of the winner, or the reason to reject the closure. -/
def toUnitRelativePose (winnerR : Mat3 R) (winnerT : Vector R 3) :
    Except String (UnitRelativePose R) :=
  if !winnerR.toList.all allFinite || !allFinite winnerT then .error "ambiguous_cheirality"
  else
    let tNorm := norm3 winnerT
    if ¬ (1e-9 : R) < tNorm ∨ !Double.isFinite tNorm then .error "degenerate_translation"
    else
      let rSt := transpose3 winnerR
      let tSt := mulVec3 (rSt.map neg3) (div3 winnerT tNorm)
      let tStNorm := norm3 tSt
      if ¬ (1e-9 : R) < tStNorm ∨ !Double.isFinite tStNorm ∨ !rSt.toList.all allFinite ∨
          !allFinite tSt then
        .error "degenerate_translation"
      else
        let tHat := div3 tSt tStNorm
        let q := normalized (fromRotationMatrix rSt)
        if !allFinite q then .error "ambiguous_cheirality"
        else .ok ⟨q, tHat⟩

end

/-! ## Without rounding

The winner of the vote solves the equation of the two camera poses up to the
length of the translation. From that equation its rotation and its direction are
computed. -/

/-- The winner takes coordinates of the source camera to coordinates of the
target camera, up to the length of the translation, which no image shows. -/
structure Solves (source target : Rigid ℝ) (winnerR : Mat3 ℝ) (winnerT : Vector ℝ 3) : Prop where
  unit : norm3 winnerT = 1
  maps : ∃ scale : ℝ, 0 < scale ∧ ∀ x, target.inverse.transformPoint x =
    add3 (mulVec3 winnerR (source.inverse.transformPoint x)) (scale3 scale winnerT)

theorem allFinite_real {n : Nat} (a : Vector ℝ n) : allFinite a = true :=
  List.all_eq_true.mpr fun _ _ => rfl

/-- What is left of the conversion when every number is finite. -/
theorem toUnitRelativePose_real {winnerR : Mat3 ℝ} {winnerT tSt : Vector ℝ 3}
    (hunit : norm3 winnerT = 1)
    (htSt : neg3 (mulVec3 (transpose3 winnerR) winnerT) = tSt) (hnorm : norm3 tSt = 1) :
    toUnitRelativePose winnerR winnerT =
      .ok ⟨normalized (fromRotationMatrix (transpose3 winnerR)), tSt⟩ := by
  have hdiv : ∀ a : Vector ℝ 3, div3 a (1 : ℝ) = a := by
    intro a
    rw [div3_eq_scale3, inv_one, scale3_one]
  have hneg : mulVec3 ((transpose3 winnerR).map neg3) winnerT = tSt := by
    rw [← htSt]
    apply vec3_ext <;> simp [mulVec3, neg3, dot3_real] <;> ring
  have hlt : (1e-9 : ℝ) < 1 := by norm_num
  have hall : ∀ m : Mat3 ℝ, m.toList.all allFinite = true :=
    fun m => List.all_eq_true.mpr fun a _ => allFinite_real a
  have hfinite : ∀ a : ℝ, Double.isFinite a = true := fun _ => rfl
  unfold toUnitRelativePose
  simp only [hunit, hdiv, hneg, hnorm, hall, hfinite, allFinite_real, hlt]
  simp

theorem add3_neg3_cancel (a b : Vector ℝ 3) : add3 (add3 a b) (neg3 b) = a := by
  apply vec3_ext <;> simp [add3, neg3]

theorem inverse_transformPoint {a : Rigid ℝ} (h : squaredNorm a.rotation = 1) (x : Vector ℝ 3) :
    a.inverse.transformPoint x = rotateDirection (conj a.rotation) (sub3 x a.translation) := by
  have hsub : sub3 x a.translation = add3 x (neg3 a.translation) := by
    apply vec3_ext <;> simp [sub3, add3, neg3] <;> ring
  rw [hsub, rotateDirection_add3, rotateDirection_neg3, ← inverse_of_unit h]
  rfl

section

variable {source target : Rigid ℝ} {winnerR : Mat3 ℝ} {winnerT : Vector ℝ 3}

/-- The rotation and the translation of the winner, in terms of the poses. -/
theorem Solves.eq_relative (h : Solves source target winnerR winnerT)
    (hsource : squaredNorm source.rotation = 1) (htarget : squaredNorm target.rotation = 1) :
    winnerR = toRotationMatrix (quatMul (conj target.rotation) source.rotation) ∧
      ∃ scale : ℝ, 0 < scale ∧ scale3 scale winnerT =
        rotateDirection (conj target.rotation) (sub3 source.translation target.translation) := by
  obtain ⟨scale, hpos, hmaps⟩ := h.maps
  simp only [inverse_transformPoint hsource, inverse_transformPoint htarget] at hmaps
  -- At the centre of the source camera only the translation is left.
  have hcentre : scale3 scale winnerT =
      rotateDirection (conj target.rotation) (sub3 source.translation target.translation) := by
    rw [hmaps source.translation]
    have hzero : sub3 source.translation source.translation = scale3 (0 : ℝ) source.translation := by
      apply vec3_ext <;> simp [sub3, scale3]
    rw [hzero, rotateDirection_scale3]
    apply vec3_ext <;> simp [add3, mulVec3, dot3_real, scale3]
  refine ⟨?_, scale, hpos, hcentre⟩
  apply mulVec3_injective
  intro d
  have hpoint := hmaps (add3 (rotateDirection source.rotation d) source.translation)
  have hlocal : sub3 (add3 (rotateDirection source.rotation d) source.translation)
      source.translation = rotateDirection source.rotation d := by
    apply vec3_ext <;> simp [sub3, add3]
  have htogether : sub3 (add3 (rotateDirection source.rotation d) source.translation)
      target.translation =
      add3 (rotateDirection source.rotation d) (sub3 source.translation target.translation) := by
    apply vec3_ext <;> simp [sub3, add3] <;> ring
  rw [hlocal, htogether, rotateDirection_conj_self hsource, rotateDirection_add3, hcentre] at hpoint
  have hcancel := congrArg (add3 · (neg3
    (rotateDirection (conj target.rotation) (sub3 source.translation target.translation)))) hpoint
  simp only [add3_neg3_cancel] at hcancel
  rw [mulVec3_toRotationMatrix,
    rotateDirection_quatMul ((squaredNorm_conj _).trans htarget) hsource, hcancel]

/-- Without rounding, the conversion gives the direction of the relative pose in
the source camera, and the rotation that its matrix gives. -/
theorem toUnitRelativePose_of_solves (h : Solves source target winnerR winnerT)
    (hsource : squaredNorm source.rotation = 1) (htarget : squaredNorm target.rotation = 1) :
    toUnitRelativePose winnerR winnerT = .ok
      ⟨normalized (fromRotationMatrix (toRotationMatrix (quatMul (conj source.rotation)
          target.rotation))),
        scale3 (norm3 (sub3 target.translation source.translation))⁻¹
          (rotateDirection (conj source.rotation)
            (sub3 target.translation source.translation))⟩ := by
  obtain ⟨hrotation, scale, hpos, hscale⟩ := h.eq_relative hsource htarget
  have htranspose : transpose3 winnerR =
      toRotationMatrix (quatMul (conj source.rotation) target.rotation) := by
    rw [hrotation, transpose3_toRotationMatrix, conj_quatMul, conj_conj]
  have hopposite : sub3 source.translation target.translation =
      neg3 (sub3 target.translation source.translation) := by
    apply vec3_ext <;> simp [sub3, neg3]
  -- rotations keep lengths, so the scale is the length of the baseline
  have hlength : scale = norm3 (sub3 target.translation source.translation) := by
    have hnorm := congrArg norm3 hscale
    have hneg : ∀ a : Vector ℝ 3, norm3 (neg3 a) = norm3 a := by
      intro a
      simp [norm3_real, dot3_real, neg3]
    rwa [norm3_scale3 hpos.le, h.unit, mul_one,
      norm3_rotateDirection ((squaredNorm_conj _).trans htarget), hopposite, hneg] at hnorm
  have hdirection : winnerT = scale3 scale⁻¹ (neg3 (rotateDirection (conj target.rotation)
      (sub3 target.translation source.translation))) := by
    rw [← rotateDirection_neg3, ← hopposite, ← hscale, scale3_scale3, inv_mul_cancel₀ hpos.ne',
      scale3_one]
  rw [← htranspose, ← hlength]
  apply toUnitRelativePose_real h.unit
  · rw [htranspose, mulVec3_toRotationMatrix, hdirection, rotateDirection_scale3,
      rotateDirection_neg3, rotateDirection_quatMul ((squaredNorm_conj _).trans hsource) htarget,
      rotateDirection_self_conj htarget]
    apply vec3_ext <;> simp [scale3, neg3]
  · rw [norm3_scale3 (inv_nonneg.mpr hpos.le),
      norm3_rotateDirection ((squaredNorm_conj _).trans hsource), ← hlength,
      inv_mul_cancel₀ hpos.ne']

end

end SpatialPlatform.Adapters.VisualGeometry
