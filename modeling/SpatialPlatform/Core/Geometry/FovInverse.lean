import Mathlib.Analysis.Real.Pi.Bounds
import SpatialPlatform.Core.Geometry.DistortionDivisions

/-!
# The inverse of the field of view

`DistortUnit` of a field of view takes the tangent of the radius times omega,
and `UndistortUnit` the arc tangent. So a point comes back as long as that angle
stays below a right one, unless its distortion is so close to the centre that
`UndistortUnit` leaves it there; beyond, the tangent starts again, and different
points are taken to one.

* `CameraModel.undistortUnit_distortUnit_iff` — which points come back.
-/

namespace SpatialPlatform.Core.Geometry

/-! ## The two functions

Both functions move a point along its ray, so each is a factor that depends on
the distance alone. One factor after the other is one exactly where the arc
tangent undoes the tangent. -/

theorem norm2_scale2 (x : ℝ × ℝ) (c : ℝ) : norm2 (scale2 x c) = |c| * norm2 x := by
  rw [Distortion.norm2_real, Distortion.norm2_real, ← Real.sqrt_sq_eq_abs, ← Real.sqrt_mul (sq_nonneg c)]
  congr 1
  simp only [scale2]
  ring

theorem scale2_scale2 (x : ℝ × ℝ) (c c' : ℝ) : scale2 (scale2 x c) c' = scale2 x (c * c') := by
  simp only [scale2, mul_assoc]

/-- A point that is not the centre keeps its place only under the factor one. -/
theorem scale2_eq_self_iff {x : ℝ × ℝ} (hx : norm2 x ≠ 0) {c : ℝ} : scale2 x c = x ↔ c = 1 := by
  constructor
  · intro h
    by_contra hc
    apply hx
    have hfirst : x.1 * (c - 1) = 0 := by
      have hkept : x.1 * c = x.1 := congrArg Prod.fst h
      linear_combination hkept
    have hsecond : x.2 * (c - 1) = 0 := by
      have hkept : x.2 * c = x.2 := congrArg Prod.snd h
      linear_combination hkept
    have hne : c - 1 ≠ 0 := sub_ne_zero.mpr hc
    rw [Distortion.norm2_real, (mul_eq_zero.mp hfirst).resolve_right hne,
      (mul_eq_zero.mp hsecond).resolve_right hne]
    simp
  · rintro rfl
    simp [scale2]

/-- The arc tangent undoes the tangent between the right angles only. -/
theorem arctan_tan_eq_iff (angle : ℝ) : Real.arctan (Real.tan angle) = angle ↔ |angle| < Real.pi / 2 := by
  rw [abs_lt]
  constructor
  · intro h
    rw [← h]
    exact ⟨Real.neg_pi_div_two_lt_arctan _, Real.arctan_lt_pi_div_two _⟩
  · rintro ⟨hlow, hhigh⟩
    exact Real.arctan_tan hlow hhigh

namespace Distortion

/-- The factor by which a field of view moves a point at a distance from the centre. -/
noncomputable def fovFactor (omega r : ℝ) : ℝ :=
  Real.tan (r * omega) / (twice r * Real.tan (half omega))

theorem distortUnit_fov {omega : ℝ} {x : ℝ × ℝ} (hlong : 1e-12 ≤ norm2 x) :
    distortUnit x (.fov omega) = scale2 x (fovFactor omega (norm2 x)) := by
  have hhalf : (0.5 : ℝ) * omega = omega / 2 := by norm_num; ring
  have htwo : (2.0 : ℝ) = 2 := by norm_num
  rw [distortUnit, if_neg (not_lt.mpr hlong), hhalf, htwo]
  rfl

theorem undistortUnit_fov {omega : ℝ} {xd : ℝ × ℝ} (hlong : 1e-12 ≤ norm2 xd) :
    undistortUnit xd (.fov omega) =
      scale2 xd (Real.arctan (2 * norm2 xd * Real.tan (omega / 2)) / omega / norm2 xd) := by
  have hhalf : (0.5 : ℝ) * omega = omega / 2 := by norm_num; ring
  have htwo : (2.0 : ℝ) = 2 := by norm_num
  rw [undistortUnit, if_neg (not_lt.mpr hlong), hhalf, htwo]
  rfl

/-- `DistortUnit` of a field of view is defined at a point: the tangent of its
radius has a value, and the tangent by which it divides has one other than zero.
(A pole of the latter counts as zero.) -/
def TangentsAt (omega : ℝ) (x : ℝ × ℝ) : Prop :=
  norm2 x < 1e-12 ∨ Real.tan (half omega) ≠ 0 ∧ Real.cos (norm2 x * omega) ≠ 0

/-- The angle is below a right one, and the distorted point is not taken for the centre. -/
def OnFirstBranch (omega : ℝ) (x : ℝ × ℝ) : Prop :=
  norm2 x < 1e-12 ∨
    norm2 x * |omega| < half Real.pi ∧
      2e-12 * |Real.tan (half omega)| ≤ |Real.tan (norm2 x * omega)|

section

variable {omega r : ℝ}

/-- How far from the centre a point is taken. -/
theorem fovFactor_mul (hr : 0 < r) :
    |fovFactor omega r| * r = |Real.tan (r * omega)| / (2 * |Real.tan (omega / 2)|) := by
  rw [fovFactor, abs_div, abs_mul, abs_mul, abs_of_pos hr, abs_two]
  by_cases htan : Real.tan (omega / 2) = 0
  · simp [htan]
  · field_simp

/-- One factor after the other: the signs cancel, and the angle is what the arc tangent makes of it. -/
theorem fovFactor_mul_back (hr : 0 < r) (htan : Real.tan (omega / 2) ≠ 0)
    (hfactor : fovFactor omega r ≠ 0) :
    fovFactor omega r * (Real.arctan (2 * (|fovFactor omega r| * r) * Real.tan (omega / 2)) / omega /
        (|fovFactor omega r| * r)) =
      Real.arctan (Real.tan (r * omega)) / (r * omega) := by
  have htangent : 2 * (fovFactor omega r * r) * Real.tan (omega / 2) = Real.tan (r * omega) := by
    rw [fovFactor]
    field_simp
  rcases lt_or_gt_of_ne hfactor with hneg | hpos
  · rw [abs_of_neg hneg, show 2 * (-fovFactor omega r * r) * Real.tan (omega / 2) =
      -Real.tan (r * omega) by rw [← htangent]; ring, Real.arctan_neg]
    field_simp
  · rw [abs_of_pos hpos, htangent]
    field_simp

end

/-- A point comes back exactly when it is on the first branch. -/
theorem undistortUnit_distortUnit_fov {omega : ℝ} {x : ℝ × ℝ} (hdefined : TangentsAt omega x) :
    undistortUnit (distortUnit x (.fov omega)) (.fov omega) = x ↔ OnFirstBranch omega x := by
  by_cases hshort : norm2 x < 1e-12
  · -- near the centre both functions leave the point as it is
    refine iff_of_true ?_ (.inl hshort)
    have hstays : distortUnit x (.fov omega) = x := by
      rw [distortUnit]
      exact if_pos hshort
    rw [hstays, undistortUnit]
    exact if_pos hshort
  obtain ⟨htan, -⟩ := hdefined.resolve_left hshort
  have hlong : 1e-12 ≤ norm2 x := not_lt.mp hshort
  have hr : 0 < norm2 x := lt_of_lt_of_le (by norm_num) hlong
  have hangle : |norm2 x * omega| = norm2 x * |omega| := by rw [abs_mul, abs_of_pos hr]
  have hfar : norm2 (scale2 x (fovFactor omega (norm2 x))) =
      |Real.tan (norm2 x * omega)| / (2 * |Real.tan (omega / 2)|) := by
    rw [norm2_scale2, fovFactor_mul hr]
  have hseen : 1e-12 ≤ norm2 (scale2 x (fovFactor omega (norm2 x))) ↔
      2e-12 * |Real.tan (omega / 2)| ≤ |Real.tan (norm2 x * omega)| := by
    rw [hfar, le_div_iff₀ (mul_pos two_pos (abs_pos.mpr htan))]
    norm_num [← mul_assoc]
  rw [distortUnit_fov hlong, OnFirstBranch, or_iff_right hshort, ← hseen]
  by_cases hcentre : 1e-12 ≤ norm2 (scale2 x (fovFactor omega (norm2 x)))
  · have hfactor : fovFactor omega (norm2 x) ≠ 0 := by
      intro hzero
      rw [norm2_scale2, hzero] at hcentre
      norm_num at hcentre
    have homega : omega ≠ 0 := by
      rintro rfl
      simp at htan
    rw [undistortUnit_fov hcentre, scale2_scale2, scale2_eq_self_iff hr.ne', norm2_scale2,
      fovFactor_mul_back hr htan hfactor, div_eq_one_iff_eq (mul_ne_zero hr.ne' homega),
      arctan_tan_eq_iff, hangle, ← norm2_scale2, and_iff_left hcentre]
  · -- what is taken for the centre stays there, and the point was farther away
    refine iff_of_false (fun h => ?_) fun h => hcentre h.2
    rw [undistortUnit, if_pos (not_le.mp hcentre)] at h
    rw [h] at hcentre
    exact hcentre hlong

/-! ## Points that are taken to one

Angles that differ by half turns have one tangent. So two points whose angles do
are taken to places that differ by nothing but their distance, which the factor
makes the same. -/

/-- A point on the first axis whose angle is an eighth of a turn, and half turns. -/
noncomputable def afterTurns (omega : ℝ) (n : ℕ) : ℝ × ℝ := ((Real.pi / 4 + n * Real.pi) / |omega|, 0)

section

variable {omega : ℝ} {n : ℕ}

theorem turns_pos (n : ℕ) : 0 < Real.pi / 4 + n * Real.pi := by positivity

theorem norm2_afterTurns (omega : ℝ) (n : ℕ) :
    norm2 (afterTurns omega n) = (Real.pi / 4 + n * Real.pi) / |omega| := by
  have hnonneg : 0 ≤ (Real.pi / 4 + n * Real.pi) / |omega| :=
    div_nonneg (turns_pos n).le (abs_nonneg omega)
  rw [norm2_real, afterTurns]
  simp only [mul_zero, add_zero]
  exact Real.sqrt_mul_self hnonneg

/-- The tangent does not see the half turns. -/
theorem tan_afterTurns (homega : omega ≠ 0) (n : ℕ) :
    Real.tan (norm2 (afterTurns omega n) * omega) = if 0 < omega then 1 else -1 := by
  have hturns : Real.tan (Real.pi / 4 + n * Real.pi) = 1 := by
    rw [Real.tan_add_nat_mul_pi, Real.tan_pi_div_four]
  rw [norm2_afterTurns]
  split_ifs with hpos
  · rw [abs_of_pos hpos, div_mul_cancel₀ _ homega, hturns]
  · have hneg : omega < 0 := lt_of_le_of_ne (not_lt.mp hpos) homega
    rw [abs_of_neg hneg, div_neg, neg_mul, div_mul_cancel₀ _ homega, Real.tan_neg, hturns]

theorem long_afterTurns (homega : omega ≠ 0) (hn : |omega| ≤ n) : 1e-12 ≤ norm2 (afterTurns omega n) := by
  have hone : (1 : ℝ) ≤ Real.pi := by linarith [Real.two_le_pi]
  have hfar : 1 ≤ norm2 (afterTurns omega n) := by
    rw [norm2_afterTurns, one_le_div (abs_pos.mpr homega)]
    calc |omega| ≤ n * 1 := by rwa [mul_one]
      _ ≤ n * Real.pi := mul_le_mul_of_nonneg_left hone n.cast_nonneg
      _ ≤ Real.pi / 4 + n * Real.pi := by linarith [Real.pi_pos]
  exact le_trans (by norm_num) hfar

theorem tangentsAt_afterTurns (htan : Real.tan (omega / 2) ≠ 0) (homega : omega ≠ 0) (n : ℕ) :
    TangentsAt omega (afterTurns omega n) := by
  refine .inr ⟨htan, fun hcos => ?_⟩
  have hvalue := tan_afterTurns homega n
  rw [Real.tan_eq_sin_div_cos, hcos, div_zero] at hvalue
  split_ifs at hvalue
  · exact zero_ne_one hvalue
  · norm_num at hvalue

theorem distortUnit_afterTurns (homega : omega ≠ 0) (hn : |omega| ≤ n) :
    distortUnit (afterTurns omega n) (.fov omega) =
      ((if 0 < omega then 1 else -1) / (2 * Real.tan (omega / 2)), 0) := by
  have hlong := long_afterTurns homega hn
  have hr : norm2 (afterTurns omega n) ≠ 0 := fun hzero => by
    rw [hzero] at hlong
    norm_num at hlong
  rw [distortUnit_fov hlong, fovFactor, tan_afterTurns homega]
  unfold scale2
  have hfirst : (afterTurns omega n).1 = norm2 (afterTurns omega n) := by
    rw [norm2_afterTurns]
    rfl
  have hsecond : (afterTurns omega n).2 = 0 := rfl
  rw [hfirst, hsecond, zero_mul]
  congr 1
  by_cases htan : Real.tan (omega / 2) = 0
  · simp [htan]
  · field_simp

/-- Two points that are half a turn apart become one. -/
theorem exists_distorted_alike (htan : Real.tan (omega / 2) ≠ 0) :
    ∃ x y, TangentsAt omega x ∧ TangentsAt omega y ∧
      distortUnit x (.fov omega) = distortUnit y (.fov omega) ∧ x ≠ y := by
  have homega : omega ≠ 0 := by
    rintro rfl
    simp at htan
  obtain ⟨n, hn⟩ := exists_nat_ge |omega|
  have hnext : |omega| ≤ ((n + 1 : ℕ) : ℝ) := hn.trans (by push_cast; linarith)
  refine ⟨afterTurns omega n, afterTurns omega (n + 1), tangentsAt_afterTurns htan homega n,
    tangentsAt_afterTurns htan homega (n + 1), ?_, fun heq => ?_⟩
  · rw [distortUnit_afterTurns homega hn, distortUnit_afterTurns homega hnext]
  · have hsame := congrArg norm2 heq
    rw [norm2_afterTurns, norm2_afterTurns, div_left_inj' (abs_ne_zero.mpr homega)] at hsame
    push_cast at hsame
    linarith [Real.pi_pos]

/-- A field of view keeps all points apart only if it is defined nowhere but in the centre. -/
theorem distortUnit_injective_iff (omega : ℝ) :
    (∀ x y, TangentsAt omega x → TangentsAt omega y →
        distortUnit x (.fov omega) = distortUnit y (.fov omega) → x = y) ↔
      Real.tan (omega / 2) = 0 := by
  constructor
  · intro hinjective
    by_contra htan
    obtain ⟨x, y, hx, hy, halike, hne⟩ := exists_distorted_alike htan
    exact hne (hinjective x y hx hy halike)
  · intro htan x y hx hy halike
    have hcentre : ∀ {z}, TangentsAt omega z → distortUnit z (.fov omega) = z := by
      intro z hz
      rw [distortUnit]
      exact if_pos (hz.resolve_right fun h => h.1 htan)
    rwa [hcentre hx, hcentre hy] at halike

end

end Distortion

namespace CameraModel

open Distortion (TangentsAt OnFirstBranch)

/-- What the factory makes of the coefficients it accepts. -/
theorem fov_eq_ok {R : Type} [DoubleTrig R] {i : CameraIntrinsics R} {coefficients : List R}
    {model : CameraModel R} (h : fov i coefficients = .ok model) :
    ∃ omega, coefficients = [omega] ∧ model.distortion = .fov omega := by
  unfold fov at h
  obtain ⟨_, -, h⟩ := Lib.bind_eq_ok_iff.mp h
  split at h
  · obtain ⟨distortion, hdistortion, h⟩ := Lib.bind_eq_ok_iff.mp h
    obtain ⟨_, -, h⟩ := Lib.bind_eq_ok_iff.mp h
    cases hdistortion
    exact ⟨_, rfl, withIntrinsics_eq_ok h⟩
  · obtain ⟨distortion, hdistortion, h⟩ := Lib.bind_eq_ok_iff.mp h
    cases hdistortion

/-- Of a camera with a field of view, the points at which `DistortUnit` is
defined come back if they are on the first branch; and it takes no two of them
to one only if there are none but in the centre. -/
theorem undistortUnit_distortUnit_iff {i : CameraIntrinsics ℝ} {coefficients : List ℝ}
    {model : CameraModel ℝ} (hmodel : fov i coefficients = .ok model) :
    ∃ omega, coefficients = [omega] ∧
      (∀ x, TangentsAt omega x →
        (model.distortion.undistortUnit (model.distortion.distortUnit x) = x ↔
          OnFirstBranch omega x)) ∧
      ((∀ x y, TangentsAt omega x → TangentsAt omega y →
          model.distortion.distortUnit x = model.distortion.distortUnit y → x = y) ↔
        Real.tan (omega / 2) = 0) := by
  obtain ⟨omega, hcoefficients, hdistortion⟩ := fov_eq_ok hmodel
  refine ⟨omega, hcoefficients, ?_⟩
  rw [hdistortion]
  exact ⟨fun x => Distortion.undistortUnit_distortUnit_fov, Distortion.distortUnit_injective_iff omega⟩

theorem fov_twoPixels (omega : ℝ) :
    fov twoPixels [omega] = .ok ⟨.fov omega, twoPixels, twoPixels_valid⟩ := by
  simp only [fov, withIntrinsics, twoPixels_valid, dif_pos]
  rfl

/-- A point at distance one half, with an omega of one, is on the first branch and comes back. -/
theorem undistortUnit_distortUnit_half :
    ∃ model, fov twoPixels [1] = .ok model ∧
      model.distortion.undistortUnit (model.distortion.distortUnit (1 / 2, 0)) = (1 / 2, 0) := by
  refine ⟨_, fov_twoPixels 1, ?_⟩
  obtain ⟨omega, hcoefficients, hback, -⟩ := undistortUnit_distortUnit_iff (fov_twoPixels 1)
  cases hcoefficients
  have hnear : norm2 ((1 / 2, 0) : ℝ × ℝ) = 1 / 2 := by
    rw [norm2_axis, abs_of_pos (by norm_num)]
  have hsmall : (1 / 2 : ℝ) < Real.pi / 2 := by linarith [Real.two_le_pi]
  have htan : 0 < Real.tan (1 / 2) := Real.tan_pos_of_pos_of_lt_pi_div_two (by norm_num) hsmall
  have hcos : 0 < Real.cos (1 / 2) := Real.cos_pos_of_mem_Ioo ⟨by linarith [Real.two_le_pi], hsmall⟩
  have hdefined : TangentsAt 1 (1 / 2, 0) := by
    refine .inr ⟨htan.ne', ?_⟩
    rw [hnear, mul_one]
    exact hcos.ne'
  refine (hback (1 / 2, 0) hdefined).mpr (.inr ?_)
  rw [hnear, mul_one, abs_one, mul_one, abs_of_pos htan]
  exact ⟨hsmall, by linarith⟩

/-- A point at distance two, with an omega of one, is beyond the right angle. -/
theorem fov_wraps :
    ∃ model, fov twoPixels [1] = .ok model ∧ TangentsAt 1 (2, 0) ∧
      model.distortion.undistortUnit (model.distortion.distortUnit (2, 0)) ≠ (2, 0) := by
  have hfar : norm2 ((2, 0) : ℝ × ℝ) = 2 := by
    rw [Distortion.norm2_real, show (2 : ℝ) * 2 + 0 * 0 = 2 ^ 2 by norm_num]
    exact Real.sqrt_sq two_pos.le
  have hright : Real.pi / 2 < 2 := by linarith [Real.pi_lt_d2]
  have hdefined : TangentsAt 1 (2, 0) := by
    refine .inr ⟨fun htan => ?_, (Real.cos_neg_of_pi_div_two_lt_of_lt ?_ ?_).ne⟩
    · exact one_ne_zero ((Distortion.tan_half_eq_zero_iff 1).mp (by simpa using htan))
    · rwa [hfar, mul_one]
    · rw [hfar]
      linarith [Real.two_le_pi]
  refine ⟨_, fov_twoPixels 1, hdefined, fun hback => ?_⟩
  rcases (Distortion.undistortUnit_distortUnit_fov hdefined).mp hback with hshort | ⟨hangle, -⟩
  · rw [hfar] at hshort
    norm_num at hshort
  · rw [hfar, abs_one] at hangle
    have hacute : 2 * 1 < Real.pi / 2 := hangle
    linarith

end CameraModel

end SpatialPlatform.Core.Geometry
