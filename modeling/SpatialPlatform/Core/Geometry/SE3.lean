import Mathlib.Algebra.Quaternion
import Mathlib.Tactic.Ring
import Mathlib.Tactic.LinearCombination

/-!
# Rigid transforms

`core/geometry/quaternion.h` and `core/geometry/se3.h`, over exact arithmetic:
the numbers are those of an ordered field. A rotation of length one is part of
the type, so the transforms form a group.
-/

namespace SpatialPlatform.Core

open Quaternion

/-- `Eigen::Vector3d`. -/
@[ext]
structure Vector3 (K : Type) where
  x : K
  y : K
  z : K
  deriving DecidableEq, Repr

namespace Vector3

variable {K : Type} [CommRing K]

instance : Zero (Vector3 K) := ⟨⟨0, 0, 0⟩⟩

instance : Add (Vector3 K) := ⟨fun v w => ⟨v.x + w.x, v.y + w.y, v.z + w.z⟩⟩

instance : Neg (Vector3 K) := ⟨fun v => ⟨-v.x, -v.y, -v.z⟩⟩

@[simp] theorem x_zero : (0 : Vector3 K).x = 0 := rfl
@[simp] theorem y_zero : (0 : Vector3 K).y = 0 := rfl
@[simp] theorem z_zero : (0 : Vector3 K).z = 0 := rfl
@[simp] theorem x_add (v w : Vector3 K) : (v + w).x = v.x + w.x := rfl
@[simp] theorem y_add (v w : Vector3 K) : (v + w).y = v.y + w.y := rfl
@[simp] theorem z_add (v w : Vector3 K) : (v + w).z = v.z + w.z := rfl
@[simp] theorem x_neg (v : Vector3 K) : (-v).x = -v.x := rfl
@[simp] theorem y_neg (v : Vector3 K) : (-v).y = -v.y := rfl
@[simp] theorem z_neg (v : Vector3 K) : (-v).z = -v.z := rfl

/-- `cross`. -/
def cross (v w : Vector3 K) : Vector3 K :=
  ⟨v.y * w.z - v.z * w.y, v.z * w.x - v.x * w.z, v.x * w.y - v.y * w.x⟩

end Vector3

section Rotation

variable {K : Type} [CommRing K]

/-- `Quaternion::Rotate`, as Eigen computes it. -/
def rotate (q : ℍ[K]) (p : Vector3 K) : Vector3 K :=
  let u : Vector3 K := ⟨q.imI, q.imJ, q.imK⟩
  let uv := u.cross p
  let uv := uv + uv
  p + ⟨q.re * uv.x, q.re * uv.y, q.re * uv.z⟩ + u.cross uv

theorem rotate_one (p : Vector3 K) : rotate 1 p = p := by
  ext <;> simp [rotate, Vector3.cross]

theorem rotate_add (q : ℍ[K]) (p r : Vector3 K) : rotate q (p + r) = rotate q p + rotate q r := by
  ext <;> simp [rotate, Vector3.cross] <;> ring

/-- A vector as a quaternion. -/
def Vector3.pure (p : Vector3 K) : ℍ[K] := ⟨0, p.x, p.y, p.z⟩

@[simp] theorem Vector3.re_pure (p : Vector3 K) : p.pure.re = 0 := rfl
@[simp] theorem Vector3.imI_pure (p : Vector3 K) : p.pure.imI = p.x := rfl
@[simp] theorem Vector3.imJ_pure (p : Vector3 K) : p.pure.imJ = p.y := rfl
@[simp] theorem Vector3.imK_pure (p : Vector3 K) : p.pure.imK = p.z := rfl

theorem Vector3.pure_injective : Function.Injective (Vector3.pure (K := K)) := by
  intro p r h
  have hx := congrArg QuaternionAlgebra.imI h
  have hy := congrArg QuaternionAlgebra.imJ h
  have hz := congrArg QuaternionAlgebra.imK h
  exact Vector3.ext hx hy hz

/-- For a quaternion of length one, the rotation is conjugation. -/
theorem pure_rotate {q : ℍ[K]} (hq : normSq q = 1) (p : Vector3 K) :
    (rotate q p).pure = q * p.pure * star q := by
  rw [normSq_def'] at hq
  apply Quaternion.ext
  · simp [rotate, Vector3.cross]
    ring
  · simp [rotate, Vector3.cross]
    linear_combination -p.x * hq
  · simp [rotate, Vector3.cross]
    linear_combination -p.y * hq
  · simp [rotate, Vector3.cross]
    linear_combination -p.z * hq

/-- A rotation by a product is one rotation after the other. -/
theorem rotate_mul {a b : ℍ[K]} (ha : normSq a = 1) (hb : normSq b = 1) (p : Vector3 K) :
    rotate (a * b) p = rotate a (rotate b p) := by
  have hab : normSq (a * b) = 1 := by rw [map_mul, ha, hb, one_mul]
  apply Vector3.pure_injective
  rw [pure_rotate hab, pure_rotate ha, pure_rotate hb, star_mul]
  simp only [mul_assoc]

end Rotation

/-- `SE3`: first the rotation, then the translation. -/
@[ext]
structure SE3 (K : Type) [Field K] where
  rotation : ℍ[K]
  translation : Vector3 K
  unit : normSq rotation = 1

namespace SE3

variable {K : Type} [Field K]

/-- `Identity`. -/
instance : One (SE3 K) := ⟨⟨1, 0, map_one normSq⟩⟩

/-- `operator*`. -/
instance : Mul (SE3 K) where
  mul a b :=
    { rotation := a.rotation * b.rotation
      translation := rotate a.rotation b.translation + a.translation
      unit := by rw [map_mul, a.unit, b.unit, one_mul] }

/-- `TransformPoint`. -/
def transformPoint (a : SE3 K) (p : Vector3 K) : Vector3 K :=
  rotate a.rotation p + a.translation

@[simp] theorem rotation_one : (1 : SE3 K).rotation = 1 := rfl
@[simp] theorem translation_one : (1 : SE3 K).translation = 0 := rfl
@[simp] theorem rotation_mul (a b : SE3 K) : (a * b).rotation = a.rotation * b.rotation := rfl
@[simp] theorem translation_mul (a b : SE3 K) :
    (a * b).translation = rotate a.rotation b.translation + a.translation := rfl

theorem inv_rotation (a : SE3 K) : a.rotation⁻¹ = star a.rotation := by
  rw [inv_def, a.unit, inv_one, one_smul]

section Ordered

variable [LinearOrder K] [IsStrictOrderedRing K]

/-- `Inverse`. -/
instance : Inv (SE3 K) where
  inv a :=
    { rotation := a.rotation⁻¹
      translation := -rotate a.rotation⁻¹ a.translation
      unit := by rw [normSq_inv, a.unit, inv_one] }

@[simp] theorem rotation_inv (a : SE3 K) : (a⁻¹).rotation = a.rotation⁻¹ := rfl
@[simp] theorem translation_inv (a : SE3 K) :
    (a⁻¹).translation = -rotate a.rotation⁻¹ a.translation := rfl

theorem inv_mul_rotation (a : SE3 K) : a.rotation⁻¹ * a.rotation = 1 := by
  rw [inv_rotation, star_mul_self, a.unit]
  rfl

instance : Group (SE3 K) where
  mul_assoc a b c := by
    apply SE3.ext
    · exact mul_assoc ..
    · show rotate (a.rotation * b.rotation) c.translation +
        (rotate a.rotation b.translation + a.translation) =
        rotate a.rotation (rotate b.rotation c.translation + b.translation) + a.translation
      rw [rotate_mul a.unit b.unit, rotate_add]
      ext <;> simp <;> ring
  one_mul a := by
    apply SE3.ext
    · exact one_mul _
    · show rotate 1 a.translation + 0 = a.translation
      rw [rotate_one]
      ext <;> simp
  mul_one a := by
    apply SE3.ext
    · exact mul_one _
    · show rotate a.rotation 0 + a.translation = a.translation
      ext <;> simp [rotate, Vector3.cross]
  inv_mul_cancel a := by
    apply SE3.ext
    · exact a.inv_mul_rotation
    · show rotate a.rotation⁻¹ a.translation + -rotate a.rotation⁻¹ a.translation = 0
      ext <;> simp

end Ordered

end SE3

end SpatialPlatform.Core
