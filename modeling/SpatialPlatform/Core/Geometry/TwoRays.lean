import SpatialPlatform.Core.Geometry.CameraModel
import SpatialPlatform.Lib.Coordinates

/-!
# Two rays that meet

`TriangulateTwoRays` of `core/geometry/triangulation.h` over the reals: the
closest points of two lines that meet are the point where they do, so this point
is what comes out.

* `triangulateTwoRays_of_meet` — the point is found, with the angle between the
  rays.
-/

namespace SpatialPlatform.Core.Geometry

variable {M : Type}

/-- A ray of the camera frame, in the world. -/
noncomputable def worldRay (view : CameraView M ℝ) (ray : Vector ℝ 3) : Vector ℝ 3 :=
  rotateDirection view.worldFromCamera.rotation ray

/-- How far a point is in front of the camera. -/
noncomputable def depth (view : CameraView M ℝ) (p : Vector ℝ 3) : ℝ :=
  (view.worldFromCamera.inverse.transformPoint p) 2

/-- The point at `t` on the line from `origin`. -/
noncomputable def alongLine (origin direction : Vector ℝ 3) (t : ℝ) : Vector ℝ 3 :=
  add3 origin (scale3 t direction)

/-- The determinant of the normal equations: zero for parallel directions, and
for directions of length one the square of the sine of their angle. -/
noncomputable def spread (u v : Vector ℝ 3) : ℝ := dot3 u u * dot3 v v - dot3 u v * dot3 u v

/-- The angle between two directions in degrees, with the decimal for π that the source has. -/
noncomputable def angleDegBetween (u v : Vector ℝ 3) : ℝ :=
  Real.arccos (dot3 u v / (norm3 u * norm3 v)) * 180.0 / 3.14159265358979323846

/-- The angles that are accepted: the directions are not almost parallel, and as
far apart as the option says. -/
structure AcceptedAngle (u v : Vector ℝ 3) (minParallaxDeg : ℝ) : Prop where
  notParallel : 1e-12 ≤ spread u v
  parallax : minParallaxDeg ≤ angleDegBetween u v

/-! ## The angle

The angle between two rays in terms of their spread, which is what the code
compares. -/

theorem dot3_mul_self_add_spread (u v : Vector ℝ 3) :
    dot3 u v * dot3 u v + spread u v = dot3 u u * dot3 v v := by
  unfold spread
  ring

/-- Lagrange's identity. -/
theorem spread_eq (u v : Vector ℝ 3) : spread u v =
    (u 1 * v 2 - u 2 * v 1) * (u 1 * v 2 - u 2 * v 1) +
      (u 2 * v 0 - u 0 * v 2) * (u 2 * v 0 - u 0 * v 2) +
      (u 0 * v 1 - u 1 * v 0) * (u 0 * v 1 - u 1 * v 0) := by
  simp only [spread, dot3_real]
  ring

theorem spread_nonneg (u v : Vector ℝ 3) : 0 ≤ spread u v := by
  rw [spread_eq]
  nlinarith [mul_self_nonneg (u 1 * v 2 - u 2 * v 1),
    mul_self_nonneg (u 2 * v 0 - u 0 * v 2), mul_self_nonneg (u 0 * v 1 - u 1 * v 0)]

/-- For directions of length one, `notParallel` is a bound on the sine of their angle. -/
theorem spread_eq_sin_sq {u v : Vector ℝ 3} (hu : norm3 u = 1) (hv : norm3 v = 1) :
    spread u v = Real.sin (Real.arccos (dot3 u v)) ^ 2 := by
  have hspread : spread u v = 1 - dot3 u v ^ 2 := by
    unfold spread
    rw [← norm3_mul_self u, ← norm3_mul_self v, hu, hv]
    ring
  rw [Real.sin_arccos, Real.sq_sqrt (hspread ▸ spread_nonneg u v), hspread]

/-- Directions that are not parallel are not zero. -/
theorem dot3_self_pos {u v : Vector ℝ 3} (h : 0 < spread u v) : 0 < dot3 u u ∧ 0 < dot3 v v := by
  have hproduct : 0 < dot3 u u * dot3 v v := by
    rw [← dot3_mul_self_add_spread]
    exact add_pos_of_nonneg_of_pos (mul_self_nonneg _) h
  exact ⟨pos_of_mul_pos_left hproduct (dot3_self_nonneg v),
    pos_of_mul_pos_right hproduct (dot3_self_nonneg u)⟩

/-- The cosine of an angle is between -1 and 1. -/
theorem abs_cosine_le_one (u v : Vector ℝ 3) : |dot3 u v / (norm3 u * norm3 v)| ≤ 1 := by
  have hnorm : ∀ a : Vector ℝ 3, 0 ≤ norm3 a := fun a => Real.sqrt_nonneg _
  rw [abs_div, abs_of_nonneg (mul_nonneg (hnorm u) (hnorm v))]
  refine div_le_one_of_le₀ ?_ (mul_nonneg (hnorm u) (hnorm v))
  apply abs_le_of_sq_le_sq _ (mul_nonneg (hnorm u) (hnorm v))
  calc dot3 u v ^ 2 = dot3 u v * dot3 u v := sq _
    _ ≤ dot3 u u * dot3 v v := by linarith [dot3_mul_self_add_spread u v, spread_nonneg u v]
    _ = (norm3 u * norm3 v) ^ 2 := by rw [← norm3_mul_self u, ← norm3_mul_self v]; ring

theorem unit3_eq {a : Vector ℝ 3} (h : 0 < dot3 a a) : unit3 a = div3 a (norm3 a) := by
  unfold unit3
  rw [if_pos]
  norm_num
  exact h

/-- The cosine as it is computed. -/
theorem dot3_unit3 {u v : Vector ℝ 3} (hu : 0 < dot3 u u) (hv : 0 < dot3 v v) :
    dot3 (unit3 u) (unit3 v) = dot3 u v / (norm3 u * norm3 v) := by
  rw [unit3_eq hu, unit3_eq hv, div3_eq_scale3, div3_eq_scale3, dot3_scale3, dot3_comm, dot3_scale3,
    dot3_comm]
  ring

/-! ## The closest points

The normal equations of two lines that meet are solved by the two places where
they do. The rest of the function is checks, which an accepted angle and depths
in front of the cameras pass. -/

section Closest

variable {u v : Vector ℝ 3} {origin₁ origin₂ : Vector ℝ 3} {t s : ℝ}

/-- The lines meet at `t` and `s`, so the origins are apart by the one way minus the other. -/
theorem sub3_origins (h : alongLine origin₁ u t = alongLine origin₂ v s) :
    sub3 origin₂ origin₁ = sub3 (scale3 t u) (scale3 s v) := by
  have hcoordinate : ∀ i (hi : i < 3), origin₁[i] + t * u[i] = origin₂[i] + s * v[i] := by
    intro i hi
    have hi' := congrArg (fun p : Vector ℝ 3 => p[i]) h
    interval_cases i <;> simpa [alongLine, add3, scale3] using hi'
  apply vec3_ext
  · simp only [sub3, scale3, Vector.getElem_mk, List.getElem_toArray, List.getElem_cons_zero]
    linarith [hcoordinate 0 (by decide)]
  · simp only [sub3, scale3, Vector.getElem_mk, List.getElem_toArray, List.getElem_cons_succ,
      List.getElem_cons_zero]
    linarith [hcoordinate 1 (by decide)]
  · simp only [sub3, scale3, Vector.getElem_mk, List.getElem_toArray, List.getElem_cons_succ,
      List.getElem_cons_zero]
    linarith [hcoordinate 2 (by decide)]

theorem dot3_sub3 (a b c : Vector ℝ 3) : dot3 a (sub3 b c) = dot3 a b - dot3 a c := by
  simp [dot3_real, sub3]
  ring

/-- The normal equations have the two places as their solution, by Cramer's rule. -/
theorem closest_of_meet (h : alongLine origin₁ u t = alongLine origin₂ v s) (hspread : spread u v ≠ 0) :
    (dot3 v v * dot3 u (sub3 origin₂ origin₁) - dot3 u v * dot3 v (sub3 origin₂ origin₁)) /
        spread u v = t ∧
      (dot3 u v * dot3 u (sub3 origin₂ origin₁) - dot3 u u * dot3 v (sub3 origin₂ origin₁)) /
        spread u v = s := by
  have hu : dot3 u (sub3 origin₂ origin₁) = t * dot3 u u - s * dot3 u v := by
    rw [sub3_origins h, dot3_sub3, dot3_comm, dot3_scale3, dot3_comm u (scale3 s v), dot3_scale3,
      dot3_comm v u]
  have hv : dot3 v (sub3 origin₂ origin₁) = t * dot3 u v - s * dot3 v v := by
    rw [sub3_origins h, dot3_sub3, dot3_comm, dot3_scale3, dot3_comm v (scale3 s v), dot3_scale3]
  constructor
  · rw [div_eq_iff hspread, hu, hv]
    unfold spread
    ring
  · rw [div_eq_iff hspread, hu, hv]
    unfold spread
    ring

end Closest

/-- Cutting off what rounding may have added to a cosine. -/
theorem clamped_cosine {c : ℝ} (h : |c| ≤ 1) :
    (if (-1.0 : ℝ) < (if c < 1.0 then c else 1.0) then (if c < 1.0 then c else 1.0) else -1.0) = c := by
  obtain ⟨hlow, hhigh⟩ := abs_le.mp h
  have hbelow : (if c < (1.0 : ℝ) then c else 1.0) = c := by
    split
    · rfl
    · norm_num at *
      linarith
  rw [hbelow]
  split
  · rfl
  · norm_num at *
    linarith

/-- The middle of a point and itself. -/
theorem midpoint_self (p : Vector ℝ 3) : scale3 (0.5 : ℝ) (add3 p p) = p := by
  apply vec3_ext <;> simp [scale3, add3] <;> norm_num <;> ring

/-- Two rays whose lines meet in front of both cameras, at an accepted angle,
are triangulated to the point where they meet. -/
theorem triangulateTwoRays_of_meet (models : CameraModels M ℝ) (hacos : models.acos = Real.arccos)
    (view1 view2 : CameraView M ℝ) (pixel1 pixel2 : ℝ × ℝ) (minParallaxDeg : ℝ)
    (ray1 ray2 p : Vector ℝ 3) (t s : ℝ)
    (hray1 : models.unproject view1.model pixel1 = .ok ray1)
    (hray2 : models.unproject view2.model pixel2 = .ok ray2)
    (hline1 : p = alongLine view1.worldFromCamera.translation (worldRay view1 ray1) t)
    (hline2 : p = alongLine view2.worldFromCamera.translation (worldRay view2 ray2) s)
    (hfront1 : 0 < depth view1 p) (hfront2 : 0 < depth view2 p)
    (hangle : AcceptedAngle (worldRay view1 ray1) (worldRay view2 ray2) minParallaxDeg) :
    triangulateTwoRays models view1 pixel1 view2 pixel2 minParallaxDeg =
      .ok ⟨p, angleDegBetween (worldRay view1 ray1) (worldRay view2 ray2), .accepted⟩ := by
  generalize hu : worldRay view1 ray1 = u at *
  generalize hv : worldRay view2 ray2 = v at *
  have hspread : 0 < spread u v := lt_of_lt_of_le (by norm_num) hangle.notParallel
  -- where the lines meet, their closest points are one point
  obtain ⟨ht, hs⟩ := closest_of_meet (hline1.symm.trans hline2) hspread.ne'
  unfold triangulateTwoRays
  rw [hray1, hray2]
  simp only [bind, Except.bind]
  rw [show rotateDirection view1.worldFromCamera.rotation ray1 = u from hu,
    show rotateDirection view2.worldFromCamera.rotation ray2 = v from hv,
    show dot3 u u * dot3 v v - dot3 u v * dot3 u v = spread u v from rfl]
  have hxyz : scale3 (0.5 : ℝ) (add3 (alongLine view1.worldFromCamera.translation u t)
      (alongLine view2.worldFromCamera.translation v s)) = p := by
    rw [← hline1, ← hline2, midpoint_self]
  obtain ⟨hu0, hv0⟩ := dot3_self_pos hspread
  rw [ht, hs]
  simp only [alongLine] at hxyz
  rw [if_neg (show ¬ spread u v < (0.0 : ℝ) by norm_num; exact hspread.le),
    if_neg (not_lt.mpr hangle.notParallel), hxyz, if_neg (by simp [Double.isFinite]),
    dot3_unit3 hu0 hv0, clamped_cosine (abs_cosine_le_one u v), hacos]
  have hfront : ¬ (depth view1 p ≤ (0.0 : ℝ) ∨ depth view2 p ≤ (0.0 : ℝ)) := by
    norm_num
    exact ⟨hfront1, hfront2⟩
  exact (if_neg hfront).trans (if_neg (not_lt.mpr hangle.parallax))

/-- A pinhole that looks along the third axis, at a place on the first one. -/
noncomputable def pinholeAt (x : ℝ) : CameraView (CameraModel ℝ) ℝ where
  imageId := 1
  model := ⟨.pinhole, ⟨1, 1, 0, 0, 640, 480⟩, by
    simp [CameraIntrinsics.valid, Double.isFinite]
    norm_num⟩
  worldFromCamera := ⟨#v[0, 0, 0, 1], #v[x, 0, 0]⟩

/-- A ray to the right for `s = 1`, and to the left for `s = -1`. -/
noncomputable def sideRay (s : ℝ) : Vector ℝ 3 := .triple (s * 0.8) 0 0.6

theorem dot3_sideRay (s s' : ℝ) : dot3 (sideRay s) (sideRay s') = s * s' * (16 / 25) + 9 / 25 := by
  show s * 0.8 * (s' * 0.8) + 0 * 0 + 0.6 * 0.6 = (_ : ℝ)
  norm_num
  ring

theorem unproject_pinholeAt (x : ℝ) {s : ℝ} (hs : s * s = 1) :
    cameraModels.unproject (pinholeAt x).model (s * (4 / 3), 0) = .ok (sideRay s) := by
  have hpixel : CameraModel.atDepthOne ((pinholeAt x).model.undistorted (s * (4 / 3), 0)) =
      scale3 (5 / 3) (sideRay s) := by
    apply vec3_ext <;> simp [CameraModel.atDepthOne, CameraModel.undistorted, pinholeAt,
      Distortion.undistortUnit, pixelToNormalized, sideRay, scale3]
    · ring
    · norm_num
  have hunit : norm3 (sideRay s) = 1 := by
    rw [norm3_real, dot3_sideRay, hs]
    norm_num
  refine ((pinholeAt x).model.unproject_real (s * (4 / 3), 0)).trans ?_
  rw [hpixel, norm3_scale3 (by norm_num), hunit, mul_one, scale3_scale3, inv_mul_cancel₀ (by norm_num),
    scale3_one]

theorem worldRay_pinholeAt (x : ℝ) (ray : Vector ℝ 3) : worldRay (pinholeAt x) ray = ray := by
  unfold worldRay
  rw [rotateDirection_real]
  apply vec3_ext <;> simp [pinholeAt]

theorem depth_pinholeAt (x : ℝ) (p : Vector ℝ 3) : depth (pinholeAt x) p = p 2 := by
  unfold depth Rigid.inverse Rigid.transformPoint
  rw [inverse_of_unit (by simp [squaredNorm_real, pinholeAt])]
  simp only [rotateDirection_real]
  simp [pinholeAt, conj, add3, neg3]

/-- Two cameras eight metres apart see the point between them at a depth of three metres. -/
theorem pinholes_meet :
    triangulateTwoRays cameraModels (pinholeAt 0) (1 * (4 / 3), 0) (pinholeAt 8) (-1 * (4 / 3), 0) 2 =
      .ok ⟨#v[4, 0, 3], angleDegBetween (sideRay 1) (sideRay (-1)), .accepted⟩ := by
  have hangle : AcceptedAngle (sideRay 1) (sideRay (-1)) 2 := by
    constructor
    · unfold spread
      norm_num [dot3_sideRay]
    · have hright : Real.pi / 2 < Real.arccos (dot3 (sideRay 1) (sideRay (-1)) /
          (norm3 (sideRay 1) * norm3 (sideRay (-1)))) := by
        rw [← not_le, Real.arccos_le_pi_div_two, norm3_real, norm3_real]
        norm_num [dot3_sideRay]
      unfold angleDegBetween
      rw [le_div_iff₀ (by norm_num)]
      linarith [Real.two_le_pi]
  have hmeet := triangulateTwoRays_of_meet cameraModels rfl (pinholeAt 0) (pinholeAt 8)
    (1 * (4 / 3), 0) (-1 * (4 / 3), 0) 2 (sideRay 1) (sideRay (-1)) #v[4, 0, 3] 5 5
    (unproject_pinholeAt 0 (by norm_num)) (unproject_pinholeAt 8 (by norm_num))
  simp only [worldRay_pinholeAt, depth_pinholeAt] at hmeet
  refine hmeet ?_ ?_ (by norm_num) (by norm_num) hangle
  · apply vec3_ext <;> simp [alongLine, pinholeAt, sideRay, add3, scale3] <;> norm_num
  · apply vec3_ext <;> simp [alongLine, pinholeAt, sideRay, add3, scale3] <;> norm_num

end SpatialPlatform.Core.Geometry
