import SpatialPlatform.Core.Geometry.CameraModel
import SpatialPlatform.Lib.Approach
import SpatialPlatform.Lib.Fallible

/-!
# The inverse of the radial distortion

`UndistortUnit` of a radial camera goes from `x` to `xd - (D(x) - x)` until
`D(x)` is within `1e-10` of `xd`, and after a hundred rounds it returns the
point it has reached without looking at it. So the point is good for exactly
those `xd` from which one of the first hundred steps arrives; where the steps
cycle or grow, what is returned is no inverse.
-/

namespace SpatialPlatform.Core.Geometry

namespace Distortion

section

variable {R : Type} [DoubleTrig R]

/-- How far the distortion of `x` is from the point seen. -/
def residual (distortion : Distortion R) (xd x : R × R) : R × R :=
  ((distortion.distortUnit x).1 - xd.1, (distortion.distortUnit x).2 - xd.2)

/-- The step of the fixed-point iteration. -/
def correct (distortion : Distortion R) (xd x : R × R) : R × R :=
  (x.1 - (distortion.residual xd x).1, x.2 - (distortion.residual xd x).2)

/-- The documented criterion of convergence. -/
def Inverts (distortion : Distortion R) (xd x : R × R) : Prop :=
  norm2 (distortion.residual xd x) < (1e-10 : R)

instance (distortion : Distortion R) (xd : R × R) : DecidablePred (distortion.Inverts xd) :=
  fun x => inferInstanceAs (Decidable (norm2 (distortion.residual xd x) < (1e-10 : R)))

theorem fixedPoint_eq_settle (distortion : Distortion R) (xd : R × R) (rounds : Nat) (x : R × R) :
    distortion.fixedPoint xd rounds x =
      Lib.Approach.settle (distortion.Inverts xd) (distortion.correct xd) rounds x := by
  induction rounds generalizing x with
  | zero => rfl
  | succ rounds ih =>
    rw [Lib.Approach.settle, ← ih]
    rfl

end

/-! ## Without rounding

`UndistortUnit` runs a fixed-point iteration and stops early only at a residual
of zero, up to its tolerance. So what it returns is decided by the orbit of the
point; where the steps contract, a hundred of them are enough, and where they do
not, the orbit may come round without an inverse. -/

theorem inverts_undistortUnit_iff (k1 k2 p1 p2 k3 : ℝ) (xd : ℝ × ℝ) :
    (openCvRadial k1 k2 p1 p2 k3).Inverts xd (undistortUnit xd (openCvRadial k1 k2 p1 p2 k3)) ↔
      ∃ n < 101, (openCvRadial k1 k2 p1 p2 k3).Inverts xd
        (((openCvRadial k1 k2 p1 p2 k3).correct xd)^[n] xd) := by
  rw [undistortUnit, fixedPoint_eq_settle]
  exact Lib.Approach.stop_settle_iff _ _ 100 xd

theorem norm2_real (x : ℝ × ℝ) : norm2 x = Real.sqrt (x.1 * x.1 + x.2 * x.2) := rfl

/-- The residual at a point is the way from the next one. -/
theorem residual_eq_sub_correct (distortion : Distortion ℝ) (xd x : ℝ × ℝ) :
    distortion.residual xd x = x - distortion.correct xd x := by
  ext <;> simp [correct]

/-- Where the steps shorten every distance by a factor, the residuals shrink with its powers. -/
theorem norm2_residual_iterate_le {distortion : Distortion ℝ} {xd : ℝ × ℝ} {near : Set (ℝ × ℝ)} {c : ℝ}
    (hc : 0 ≤ c) (hstays : Set.MapsTo (distortion.correct xd) near near)
    (hshort : ∀ x ∈ near, ∀ y ∈ near,
      norm2 (distortion.correct xd x - distortion.correct xd y) ≤ c * norm2 (x - y))
    {x : ℝ × ℝ} (hx : x ∈ near) (n : Nat) :
    norm2 (distortion.residual xd ((distortion.correct xd)^[n] x)) ≤
      c ^ n * norm2 (distortion.residual xd x) := by
  induction n with
  | zero => simp
  | succ n ih =>
    have hn : (distortion.correct xd)^[n] x ∈ near := hstays.iterate n hx
    rw [Function.iterate_succ_apply', residual_eq_sub_correct distortion xd (distortion.correct xd _)]
    calc norm2 (distortion.correct xd ((distortion.correct xd)^[n] x) -
          distortion.correct xd (distortion.correct xd ((distortion.correct xd)^[n] x)))
        ≤ c * norm2 ((distortion.correct xd)^[n] x -
          distortion.correct xd ((distortion.correct xd)^[n] x)) := hshort _ hn _ (hstays hn)
      _ = c * norm2 (distortion.residual xd ((distortion.correct xd)^[n] x)) := by
          rw [residual_eq_sub_correct]
      _ ≤ c * (c ^ n * norm2 (distortion.residual xd x)) := mul_le_mul_of_nonneg_left ih hc
      _ = c ^ (n + 1) * norm2 (distortion.residual xd x) := by ring

end Distortion

namespace CameraModel

theorem withIntrinsics_eq_ok {R : Type} [DoubleTrig R] {i : CameraIntrinsics R}
    {distortion : Distortion R} {model : CameraModel R} (h : withIntrinsics i distortion = .ok model) :
    model.distortion = distortion := by
  unfold withIntrinsics at h
  split at h
  · obtain rfl := Except.ok.inj h
    rfl
  · cases h

/-- What the factory makes of the coefficients it accepts. -/
theorem openCvRadial_eq_ok {R : Type} [DoubleTrig R] {i : CameraIntrinsics R} {coefficients : List R}
    {model : CameraModel R} (h : openCvRadial i coefficients = .ok model) :
    ∃ k1 k2 p1 p2 k3, model.distortion = .openCvRadial k1 k2 p1 p2 k3 := by
  unfold openCvRadial at h
  obtain ⟨_, -, h⟩ := Lib.bind_eq_ok_iff.mp h
  split at h
  · obtain ⟨distortion, hdistortion, h⟩ := Lib.bind_eq_ok_iff.mp h
    obtain ⟨_, -, h⟩ := Lib.bind_eq_ok_iff.mp h
    cases hdistortion
    exact ⟨_, _, _, _, _, withIntrinsics_eq_ok h⟩
  · obtain ⟨distortion, hdistortion, h⟩ := Lib.bind_eq_ok_iff.mp h
    obtain ⟨_, -, h⟩ := Lib.bind_eq_ok_iff.mp h
    cases hdistortion
    exact ⟨_, _, _, _, _, withIntrinsics_eq_ok h⟩
  · obtain ⟨distortion, hdistortion, h⟩ := Lib.bind_eq_ok_iff.mp h
    cases hdistortion

/-- What a radial camera returns is an inverse if one of the first hundred steps
from the point seen reaches one. -/
theorem undistortUnit_inverts_iff {i : CameraIntrinsics ℝ} {coefficients : List ℝ}
    {model : CameraModel ℝ} (hmodel : openCvRadial i coefficients = .ok model) (xd : ℝ × ℝ) :
    norm2 (model.distortion.distortUnit (model.distortion.undistortUnit xd) - xd) < 1e-10 ↔
      ∃ n ≤ 100, norm2 (model.distortion.distortUnit ((model.distortion.correct xd)^[n] xd) - xd) <
        1e-10 := by
  obtain ⟨k1, k2, p1, p2, k3, hradial⟩ := openCvRadial_eq_ok hmodel
  rw [hradial]
  have hsettle := Distortion.inverts_undistortUnit_iff k1 k2 p1 p2 k3 xd
  simp only [Nat.lt_succ_iff] at hsettle
  exact hsettle

/-- Intrinsics of a camera with two pixels a side. -/
noncomputable def twoPixels : CameraIntrinsics ℝ := ⟨1, 1, 1, 1, 2.0, 2.0⟩

theorem twoPixels_valid : twoPixels.valid = true := by
  simp only [CameraIntrinsics.valid, twoPixels, Double.isFinite, Bool.true_and, Bool.and_eq_true]
  norm_num

theorem openCvRadial_twoPixels (k1 k2 p1 p2 : ℝ) :
    openCvRadial twoPixels [k1, k2, p1, p2] =
      .ok ⟨.openCvRadial k1 k2 p1 p2 0.0, twoPixels, twoPixels_valid⟩ := by
  simp only [openCvRadial, withIntrinsics, twoPixels_valid, dif_pos]
  rfl

theorem norm2_axis (u : ℝ) : norm2 ((u, 0) : ℝ × ℝ) = |u| := by
  rw [Distortion.norm2_real, mul_zero, add_zero, Real.sqrt_mul_self_eq_abs]

theorem correct_mild (t : ℝ) :
    (Distortion.openCvRadial (1 / 10) 0 0 0 0.0).correct (1 / 2, 0) (t, 0) = (1 / 2 - t ^ 3 / 10, 0) := by
  ext
  · norm_num [Distortion.correct, Distortion.residual, Distortion.distortUnit]
    ring
  · norm_num [Distortion.correct, Distortion.residual, Distortion.distortUnit]

/-- Along the first axis the steps of a mild distortion shorten distances by a
factor of three tenths, so a hundred of them are enough. -/
theorem undistortUnit_inverts_mild :
    ∃ model, openCvRadial twoPixels [1 / 10, 0, 0, 0] = .ok model ∧
      norm2 (model.distortion.distortUnit (model.distortion.undistortUnit (1 / 2, 0)) - (1 / 2, 0)) <
        1e-10 := by
  refine ⟨_, openCvRadial_twoPixels (1 / 10) 0 0 0,
    (undistortUnit_inverts_iff (openCvRadial_twoPixels (1 / 10) 0 0 0) (1 / 2, 0)).mpr
      ⟨100, le_refl 100, ?_⟩⟩
  -- the step of the iteration keeps this part of the axis, and contracts it
  have hstays : Set.MapsTo ((Distortion.openCvRadial (1 / 10) 0 0 0 0.0).correct (1 / 2, 0))
      {x : ℝ × ℝ | x.2 = 0 ∧ |x.1| ≤ 1} {x | x.2 = 0 ∧ |x.1| ≤ 1} := by
    rintro ⟨t, u⟩ ⟨rfl, ht⟩
    rw [correct_mild]
    obtain ⟨hlow, hhigh⟩ := abs_le.mp ht
    refine ⟨rfl, abs_le.mpr ⟨?_, ?_⟩⟩
    · nlinarith [sq_nonneg t, sq_nonneg (t - 1), sq_nonneg (t + 1)]
    · nlinarith [sq_nonneg t, sq_nonneg (t - 1), sq_nonneg (t + 1)]
  have hshort : ∀ x ∈ {x : ℝ × ℝ | x.2 = 0 ∧ |x.1| ≤ 1}, ∀ y ∈ {x : ℝ × ℝ | x.2 = 0 ∧ |x.1| ≤ 1},
      norm2 ((Distortion.openCvRadial (1 / 10) 0 0 0 0.0).correct (1 / 2, 0) x -
        (Distortion.openCvRadial (1 / 10) 0 0 0 0.0).correct (1 / 2, 0) y) ≤ 3 / 10 * norm2 (x - y) := by
    rintro ⟨t, _⟩ ⟨rfl, ht⟩ ⟨s, _⟩ ⟨rfl, hs⟩
    obtain ⟨hlow, hhigh⟩ := abs_le.mp ht
    obtain ⟨hlow', hhigh'⟩ := abs_le.mp hs
    have hfactor : 1 / 2 - t ^ 3 / 10 - (1 / 2 - s ^ 3 / 10) =
        (t - s) * -((t ^ 2 + t * s + s ^ 2) / 10) := by
      ring
    have hsmall : |-((t ^ 2 + t * s + s ^ 2) / 10)| ≤ 3 / 10 := by
      rw [abs_neg, abs_le]
      constructor <;> nlinarith [sq_nonneg (t + s), sq_nonneg t, sq_nonneg s]
    rw [correct_mild, correct_mild, Prod.mk_sub_mk, Prod.mk_sub_mk, sub_self, norm2_axis, norm2_axis,
      hfactor, abs_mul, mul_comm (3 / 10)]
    exact mul_le_mul_of_nonneg_left hsmall (abs_nonneg _)
  -- a hundred rounds are far more than enough
  have hshrink := Distortion.norm2_residual_iterate_le (by norm_num) hstays hshort
    (x := (1 / 2, 0)) ⟨rfl, by norm_num [abs_le]⟩ 100
  refine lt_of_le_of_lt hshrink ?_
  rw [Distortion.residual_eq_sub_correct, correct_mild, Prod.mk_sub_mk, sub_self, norm2_axis]
  norm_num

/-- Between the centre and a point at distance one the steps of a strong
distortion go to and fro. What is returned for that point is the point itself,
which the distortion takes twice as far. -/
theorem undistortUnit_cycles :
    ∃ model, openCvRadial twoPixels [1, 0, 0, 0] = .ok model ∧
      ¬ norm2 (model.distortion.distortUnit (model.distortion.undistortUnit (1, 0)) - (1, 0)) < 1e-10 := by
  refine ⟨_, openCvRadial_twoPixels 1 0 0 0, fun hinverts => ?_⟩
  obtain ⟨n, -, hn⟩ := (Distortion.inverts_undistortUnit_iff 1 0 0 0 0.0 (1, 0)).mp hinverts
  obtain ⟨d, hd⟩ : ∃ d : Distortion ℝ, d = .openCvRadial 1 0 0 0 0.0 := ⟨_, rfl⟩
  rw [← hd] at hn
  have hout : d.residual (1, 0) (1, 0) = (1, 0) := by
    rw [hd]
    ext <;> norm_num [Distortion.residual, Distortion.distortUnit]
  have hin : d.residual (1, 0) (0, 0) = (-1, 0) := by
    rw [hd]
    ext <;> norm_num [Distortion.residual, Distortion.distortUnit]
  -- the two points, neither of which is an inverse
  have horbit : ∀ m, (d.correct (1, 0))^[m] (1, 0) = (1, 0) ∨ (d.correct (1, 0))^[m] (1, 0) = (0, 0) := by
    intro m
    induction m with
    | zero => exact .inl rfl
    | succ m ih =>
      rw [Function.iterate_succ_apply']
      obtain h | h := ih
      · right
        rw [h, Distortion.correct, hout]
        norm_num
      · left
        rw [h, Distortion.correct, hin]
        norm_num
  obtain h | h := horbit n <;> rw [h] at hn
  · rw [Distortion.Inverts, hout, Distortion.norm2_real] at hn
    norm_num at hn
  · rw [Distortion.Inverts, hin, Distortion.norm2_real] at hn
    norm_num at hn

end CameraModel

end SpatialPlatform.Core.Geometry
