import Mathlib.Analysis.SpecialFunctions.Trigonometric.Arctan
import Mathlib.Analysis.SpecialFunctions.Trigonometric.Inverse
import SpatialPlatform.Core.Geometry.ExactRotations
import SpatialPlatform.Core.Geometry.Triangulation
import SpatialPlatform.Lib.Coordinates

/-!
# Camera models

`core/geometry/camera_model.h`: the four families of models, how they are
selected, and the way from a point in front of the camera to a pixel and back. A
distortion has the coefficients that its family needs, so that a model with too
few of them cannot be built.
-/

namespace SpatialPlatform.Core

/-- What `<cmath>` and `<limits>` add to `double`. -/
class DoubleTrig (R : Type) extends DoubleArith R where
  tan : R → R
  atan : R → R
  acos : R → R
  /-- `std::numeric_limits<double>::max()`. -/
  max : R

noncomputable instance : DoubleTrig ℝ where
  tan := Real.tan
  atan := Real.arctan
  acos := Real.arccos
  max := (2 ^ 53 - 1) * 2 ^ 971

/-- `x / 2`. -/
noncomputable abbrev half (x : ℝ) : ℝ := x / 2

/-- `2 * x`. -/
noncomputable abbrev twice (x : ℝ) : ℝ := 2 * x

namespace Geometry

/-! ## Intrinsics and distortions

The arithmetic is that of a class of numbers, so that it is the same for
`double`, for the reals and for numbers that watch their divisions. -/

structure CameraIntrinsics (R : Type) where
  fx : R
  fy : R
  cx : R
  cy : R
  width : R
  height : R

/-- The model families; the coefficients of `kOpenCvRadial` are `[k1, k2, p1, p2, (k3)]`. -/
inductive Distortion (R : Type) where
  | pinhole
  | openCvRadial (k1 k2 p1 p2 k3 : R)
  | openCvFisheye (k1 k2 k3 k4 : R)
  | fov (omega : R)

section

variable {R : Type} [DoubleTrig R]

/-- `Valid`. -/
def CameraIntrinsics.valid (i : CameraIntrinsics R) : Bool :=
  Double.isFinite i.fx && Double.isFinite i.fy && Double.isFinite i.cx && Double.isFinite i.cy &&
    Double.isFinite i.width && Double.isFinite i.height && decide ((0.0 : R) < i.fx) &&
    decide ((0.0 : R) < i.fy) && decide ((0.0 : R) ≤ i.width) && decide ((0.0 : R) ≤ i.height)

/-- `PixelToNormalized`. -/
def pixelToNormalized (k : CameraIntrinsics R) (pixel : R × R) : R × R :=
  ((pixel.1 - k.cx) / k.fx, (pixel.2 - k.cy) / k.fy)

/-- `NormalizedToPixel`. -/
def normalizedToPixel (k : CameraIntrinsics R) (x : R × R) : R × R :=
  (k.fx * x.1 + k.cx, k.fy * x.2 + k.cy)

/-- `std::abs`. -/
def absolute (x : R) : R := if x < (0.0 : R) then -x else x

/-- The length of a `Vector2d`. -/
def norm2 (x : R × R) : R := DoubleArith.sqrt (x.1 * x.1 + x.2 * x.2)

def scale2 (x : R × R) (factor : R) : R × R := (x.1 * factor, x.2 * factor)

namespace Distortion

/-- `DistortUnit`. -/
def distortUnit (x : R × R) : Distortion R → R × R
  | pinhole => x
  | openCvRadial k1 k2 p1 p2 k3 =>
      let x2 := x.1 * x.1
      let y2 := x.2 * x.2
      let r2 := x2 + y2
      let r4 := r2 * r2
      let r6 := r4 * r2
      let radial := (1.0 : R) + k1 * r2 + k2 * r4 + k3 * r6
      (x.1 * radial + (2.0 : R) * p1 * x.1 * x.2 + p2 * (r2 + (2.0 : R) * x2),
        x.2 * radial + (2.0 : R) * p2 * x.1 * x.2 + p1 * (r2 + (2.0 : R) * y2))
  | openCvFisheye k1 k2 k3 k4 =>
      let r := norm2 x
      if r < (1e-12 : R) then x
      else
        let theta := DoubleTrig.atan r
        let theta2 := theta * theta
        let theta4 := theta2 * theta2
        let theta6 := theta4 * theta2
        let theta8 := theta4 * theta4
        let thetaD := theta * ((1.0 : R) + k1 * theta2 + k2 * theta4 + k3 * theta6 + k4 * theta8)
        scale2 x (thetaD / r)
  | fov omega =>
      let rU := norm2 x
      if rU < (1e-12 : R) then x
      else scale2 x
        (DoubleTrig.tan (rU * omega) / ((2.0 : R) * rU * DoubleTrig.tan ((0.5 : R) * omega)))

/-- The fixed-point iteration that inverts a distortion, for so many rounds. -/
def fixedPoint (distortion : Distortion R) (xd : R × R) : Nat → R × R → R × R
  | 0, x => x
  | rounds + 1, x =>
      let distorted := distortion.distortUnit x
      let residual := (distorted.1 - xd.1, distorted.2 - xd.2)
      if norm2 residual < (1e-10 : R) then x
      else fixedPoint distortion xd rounds (x.1 - residual.1, x.2 - residual.2)

/-- Newton's method for the angle of a fisheye, for so many rounds. -/
def newton (k1 k2 k3 k4 rd : R) : Nat → R → R
  | 0, theta => theta
  | rounds + 1, theta =>
      let th2 := theta * theta
      let th4 := th2 * th2
      let th6 := th4 * th2
      let th8 := th4 * th4
      let f := theta * ((1.0 : R) + k1 * th2 + k2 * th4 + k3 * th6 + k4 * th8) - rd
      let df := (1.0 : R) + (3.0 : R) * k1 * th2 + (5.0 : R) * k2 * th4 + (7.0 : R) * k3 * th6 +
        (9.0 : R) * k4 * th8
      let step := f / df
      if absolute step < (1e-12 : R) then theta - step
      else newton k1 k2 k3 k4 rd rounds (theta - step)

/-- `UndistortUnit`. -/
def undistortUnit (xd : R × R) : Distortion R → R × R
  | pinhole => xd
  | fov omega =>
      let rD := norm2 xd
      if rD < (1e-12 : R) then xd
      else
        let rU := DoubleTrig.atan ((2.0 : R) * rD * DoubleTrig.tan ((0.5 : R) * omega)) / omega
        scale2 xd (rU / rD)
  | openCvRadial k1 k2 p1 p2 k3 => (openCvRadial k1 k2 p1 p2 k3).fixedPoint xd 100 xd
  | openCvFisheye k1 k2 k3 k4 =>
      let rd := norm2 xd
      if rd < (1e-12 : R) then xd
      else scale2 xd (DoubleTrig.tan (newton k1 k2 k3 k4 rd 50 rd) / rd)

end Distortion

/-- `CameraModel`. -/
structure CameraModel (R : Type) [DoubleTrig R] where
  distortion : Distortion R
  intrinsics : CameraIntrinsics R
  valid : intrinsics.valid = true

/-! ## Selecting a model

The checks of each family on its coefficients, and the model that they lead to. -/

namespace CameraModel

/-- `ValidateIntrinsics`, and the model with these intrinsics. -/
def withIntrinsics (i : CameraIntrinsics R) (distortion : Distortion R) :
    Except ProjectError (CameraModel R) :=
  if h : i.valid = true then .ok ⟨distortion, i, h⟩
  else .error ⟨.calibrationInvalid, "camera model: intrinsics degenerate (fx/fy must be positive and " ++
    "finite; cx/cy/width/height must be finite and non-negative)"⟩

/-- The check of the coefficients. -/
def requireFinite (coefficients : List R) (text : String) : Except ProjectError Unit :=
  if coefficients.all Double.isFinite then .ok () else .error ⟨.validationDomain, text⟩

/-- `OpenCvRadial`. -/
def openCvRadial (i : CameraIntrinsics R) (coefficients : List R) :
    Except ProjectError (CameraModel R) := do
  let _ ← withIntrinsics i .pinhole
  let distortion ← match coefficients with
    | [k1, k2, p1, p2] => .ok (.openCvRadial k1 k2 p1 p2 0.0)
    | [k1, k2, p1, p2, k3] => .ok (.openCvRadial k1 k2 p1 p2 k3)
    | _ => .error ⟨.validationDomain,
        "camera model: opencv radial requires 4 or 5 coefficients [k1,k2,p1,p2,(k3)]"⟩
  requireFinite coefficients "camera model: non-finite distortion coefficient"
  withIntrinsics i distortion

/-- `OpenCvFisheye`. -/
def openCvFisheye (i : CameraIntrinsics R) (coefficients : List R) :
    Except ProjectError (CameraModel R) := do
  let _ ← withIntrinsics i .pinhole
  let distortion ← match coefficients with
    | [k1, k2, k3, k4] => .ok (.openCvFisheye k1 k2 k3 k4)
    | _ => .error ⟨.validationDomain,
        "camera model: opencv_fisheye requires 4 coefficients [k1,k2,k3,k4]"⟩
  requireFinite coefficients "camera model: non-finite distortion coefficient"
  withIntrinsics i distortion

/-- `Fov`. -/
def fov (i : CameraIntrinsics R) (coefficients : List R) : Except ProjectError (CameraModel R) := do
  let _ ← withIntrinsics i .pinhole
  let distortion ← match coefficients with
    | [omega] => .ok (.fov omega)
    | _ => .error ⟨.validationDomain,
        "camera model: fov requires exactly one coefficient [omega]"⟩
  requireFinite coefficients "camera model: non-finite fov omega"
  withIntrinsics i distortion

/-- `FromReconCamera`. -/
def fromReconCamera (camera : ReconCamera R) : Except ProjectError (CameraModel R) :=
  let intr : CameraIntrinsics R :=
    { fx := camera.fx
      fy := camera.fy
      cx := camera.cx
      cy := camera.cy
      width := (camera.width.toInt : R)
      height := (camera.height.toInt : R) }
  if camera.intrinsicModel = "pinhole" then
    if camera.distortionModel ≠ "none" ∧ camera.distortionModel ≠ "" then
      .error ⟨.validationDomain, "camera model: pinhole requires distortion_model 'none' (got '" ++
        camera.distortionModel ++ "'); unsupported combination fails closed"⟩
    else withIntrinsics intr .pinhole
  else if camera.intrinsicModel = "opencv" then
    if camera.distortionModel ≠ "opencv_radial" then
      .error ⟨.validationDomain, "camera model: opencv requires distortion_model 'opencv_radial' " ++
        "(got '" ++ camera.distortionModel ++ "')"⟩
    else openCvRadial intr camera.distortionCoefficients
  else if camera.intrinsicModel = "opencv_fisheye" then
    if camera.distortionModel ≠ "opencv_fisheye" then
      .error ⟨.validationDomain, "camera model: opencv_fisheye requires distortion_model " ++
        "'opencv_fisheye' (got '" ++ camera.distortionModel ++ "')"⟩
    else openCvFisheye intr camera.distortionCoefficients
  else if camera.intrinsicModel = "fov" then fov intr camera.distortionCoefficients
  else
    .error ⟨.validationDomain, "camera model: unsupported intrinsic_model '" ++
      camera.intrinsicModel ++ "' is not first-class in 8a (pinhole/opencv/opencv_fisheye/fov); " ++
      "the model fails closed and is never approximated as another model"⟩

/-! ## Points and pixels -/

/-- `Project`. -/
def project (model : CameraModel R) (pC : Vector R 3) : Except ProjectError (R × R) :=
  if !pC.toList.all Double.isFinite then
    .error ⟨.validationDomain, "camera model: cannot project non-finite point"⟩
  else if pC 2 ≤ (0.0 : R) then
    .error ⟨.validationDomain, "camera model: cannot project point with non-positive camera-frame " ++
      "depth (w_C <= 0 violates cheirality §4.8)"⟩
  else
    .ok (normalizedToPixel model.intrinsics
      (model.distortion.distortUnit (pC 0 / pC 2, pC 1 / pC 2)))

/-- `Unproject`. -/
def unproject (model : CameraModel R) (pixel : R × R) : Except ProjectError (Vector R 3) :=
  if !Double.isFinite pixel.1 || !Double.isFinite pixel.2 then
    .error ⟨.validationDomain, "camera model: cannot back-project non-finite pixel"⟩
  else
    let x := model.distortion.undistortUnit (pixelToNormalized model.intrinsics pixel)
    let ray : Vector R 3 := #v[x.1, x.2, 1.0]
    let norm := norm3 ray
    if norm < (1e-12 : R) ∨ Double.isFinite norm = false then
      .error ⟨.validationDomain, "camera model: degenerate back-projection ray"⟩
    else .ok (div3 ray norm)

end CameraModel

/-- The camera models of the repository. -/
def cameraModels : CameraModels (CameraModel R) R where
  fromReconCamera := CameraModel.fromReconCamera
  project := CameraModel.project
  unproject := CameraModel.unproject
  acos := DoubleTrig.acos
  max := DoubleTrig.max

end

/-! ## Models without rounding

What the rounding of `double` hides: a ray has length one and leaves the camera
to the front, and a pinhole sees every point of the ray in the same pixel. -/

namespace CameraModel

/-- Behind the camera there are no pixels. -/
theorem project_eq_ok {R : Type} [DoubleTrig R] {model : CameraModel R} {pC : Vector R 3}
    {pixel : R × R} (h : model.project pC = .ok pixel) : ¬ pC 2 ≤ (0.0 : R) := by
  unfold project at h
  split at h
  · cases h
  split at h
  · cases h
  next hfront => exact hfront

/-- The normalized coordinates that a pixel has without the distortion. -/
noncomputable def undistorted (model : CameraModel ℝ) (pixel : ℝ × ℝ) : ℝ × ℝ :=
  model.distortion.undistortUnit (pixelToNormalized model.intrinsics pixel)

/-- The point of a ray at depth one. -/
noncomputable def atDepthOne (x : ℝ × ℝ) : Vector ℝ 3 := #v[x.1, x.2, 1]

theorem one_le_norm3_atDepthOne (x : ℝ × ℝ) : 1 ≤ norm3 (atDepthOne x) := by
  rw [norm3_real, Real.one_le_sqrt]
  show 1 ≤ x.1 * x.1 + x.2 * x.2 + 1 * 1
  nlinarith [mul_self_nonneg x.1, mul_self_nonneg x.2]

theorem unproject_real (model : CameraModel ℝ) (pixel : ℝ × ℝ) :
    model.unproject pixel = .ok (scale3 (norm3 (atDepthOne (model.undistorted pixel)))⁻¹
      (atDepthOne (model.undistorted pixel))) := by
  have hlong := one_le_norm3_atDepthOne (model.undistorted pixel)
  have hone : (#v[(model.undistorted pixel).1, (model.undistorted pixel).2, (1.0 : ℝ)] : Vector ℝ 3) =
      atDepthOne (model.undistorted pixel) := by
    unfold atDepthOne
    norm_num
  unfold unproject
  rw [if_neg (by simp [Double.isFinite]),
    show model.distortion.undistortUnit (pixelToNormalized model.intrinsics pixel) =
      model.undistorted pixel from rfl]
  simp only [hone]
  rw [← div3_eq_scale3]
  refine if_neg ?_
  simp only [Double.isFinite, Bool.true_eq_false, or_false, not_lt]
  exact le_trans (by norm_num) hlong

/-- A pixel becomes a ray of length one that leaves the camera to the front. -/
theorem unproject_unit {model : CameraModel ℝ} {pixel : ℝ × ℝ} {ray : Vector ℝ 3}
    (h : model.unproject pixel = .ok ray) : norm3 ray = 1 ∧ (0 : ℝ) < ray 2 := by
  have hpos : 0 < norm3 (atDepthOne (model.undistorted pixel)) :=
    lt_of_lt_of_le one_pos (one_le_norm3_atDepthOne _)
  obtain rfl := Except.ok.inj ((model.unproject_real pixel).symm.trans h)
  constructor
  · rw [norm3_scale3 (inv_nonneg.mpr hpos.le), inv_mul_cancel₀ hpos.ne']
  · have hz : (scale3 (norm3 (atDepthOne (model.undistorted pixel)))⁻¹
        (atDepthOne (model.undistorted pixel))) 2 =
          (norm3 (atDepthOne (model.undistorted pixel)))⁻¹ * 1 := rfl
    rw [hz, mul_one]
    exact inv_pos.mpr hpos

/-- A pinhole projects every point of the ray of a pixel to that pixel. -/
theorem project_unproject {model : CameraModel ℝ} (hpinhole : model.distortion = .pinhole)
    {pixel : ℝ × ℝ} {ray : Vector ℝ 3} (hray : model.unproject pixel = .ok ray) {d : ℝ} (hd : 0 < d) :
    model.project (scale3 d ray) = .ok pixel := by
  obtain ⟨-, hfront⟩ := unproject_unit hray
  have hfocal : model.intrinsics.fx ≠ 0 ∧ model.intrinsics.fy ≠ 0 := by
    have hvalid := model.valid
    simp only [CameraIntrinsics.valid, Bool.and_eq_true, decide_eq_true_eq] at hvalid
    norm_num at hvalid
    exact ⟨hvalid.1.1.1.2.ne', hvalid.1.1.2.ne'⟩
  obtain rfl := Except.ok.inj ((model.unproject_real pixel).symm.trans hray)
  obtain ⟨c, hc⟩ : ∃ c, c = (norm3 (atDepthOne (model.undistorted pixel)))⁻¹ := ⟨_, rfl⟩
  rw [← hc] at hfront ⊢
  have hc0 : c ≠ 0 := by
    rintro rfl
    simp [scale3] at hfront
  -- the depth cancels in the quotients
  have hback : ∀ i (hi : i < 2), (scale3 d (scale3 c (atDepthOne (model.undistorted pixel))))[i] /
      (scale3 d (scale3 c (atDepthOne (model.undistorted pixel)))) 2 =
        (atDepthOne (model.undistorted pixel))[i] := by
    intro i hi
    interval_cases i <;> simp [scale3, atDepthOne] <;> field_simp
  unfold project
  rw [if_neg (by simp [Double.isFinite]), if_neg, hpinhole, hback 0 (by decide), hback 1 (by decide)]
  · simp only [atDepthOne, undistorted, hpinhole, Distortion.undistortUnit, Distortion.distortUnit,
      pixelToNormalized, normalizedToPixel]
    congr 1
    ext
    · show model.intrinsics.fx * ((pixel.1 - _) / model.intrinsics.fx) + _ = _
      field_simp [hfocal.1]
      ring
    · show model.intrinsics.fy * ((pixel.2 - _) / model.intrinsics.fy) + _ = _
      field_simp [hfocal.2]
      ring
  · have hdepth : (scale3 d (scale3 c (atDepthOne (model.undistorted pixel)))) 2 =
        d * (scale3 c (atDepthOne (model.undistorted pixel))) 2 := rfl
    rw [hdepth]
    norm_num
    exact mul_pos hd hfront

end CameraModel

end Geometry

end SpatialPlatform.Core
