import Mathlib.Algebra.BigOperators.Group.List.Basic
import SpatialPlatform.Core.Geometry.ExactRotations

/-!
# The group of rigid transforms

Over the reals, the transforms of `core/geometry/se3.h` whose quaternion has
length one form a group: its product is `operator*`, and its inverse is
`Inverse`.
-/

namespace SpatialPlatform.Core.Geometry

/-- `SE3::Identity`. -/
def Rigid.identity {R : Type} [DoubleArith R] : Rigid R :=
  ⟨#v[0.0, 0.0, 0.0, 1.0], #v[0.0, 0.0, 0.0]⟩

theorem Rigid.ext_parts {a b : Rigid ℝ} (hr : a.rotation = b.rotation)
    (ht : a.translation = b.translation) : a = b := by
  cases a
  cases b
  exact Rigid.mk.injEq _ _ _ _ |>.mpr ⟨hr, ht⟩

theorem identity_real : (Rigid.identity : Rigid ℝ) = ⟨#v[0, 0, 0, 1], #v[0, 0, 0]⟩ := by
  unfold Rigid.identity
  norm_num

/-! ## Quaternions under composition -/

theorem quatMul_assoc (a b c : Quat ℝ) : quatMul (quatMul a b) c = quatMul a (quatMul b c) := by
  apply quat_ext <;> simp [quatMul] <;> ring

theorem quatMul_identity (a : Quat ℝ) : quatMul a (Rigid.identity (R := ℝ)).rotation = a := by
  apply quat_ext <;> simp [quatMul, identity_real]

theorem identity_quatMul (a : Quat ℝ) : quatMul (Rigid.identity (R := ℝ)).rotation a = a := by
  apply quat_ext <;> simp [quatMul, identity_real]

theorem conj_quatMul_self {a : Quat ℝ} (h : squaredNorm a = 1) :
    quatMul (conj a) a = (Rigid.identity (R := ℝ)).rotation := by
  rw [squaredNorm_real] at h
  apply quat_ext <;> simp [quatMul, conj, identity_real]
  · ring
  · ring
  · ring
  · linear_combination h

theorem squaredNorm_identity : squaredNorm (Rigid.identity (R := ℝ)).rotation = 1 := by
  simp [squaredNorm_real, identity_real]

theorem rotateDirection_identity (d : Vector ℝ 3) :
    rotateDirection (Rigid.identity (R := ℝ)).rotation d = d := by
  rw [rotateDirection_real]
  apply vec3_ext <;> simp [identity_real]

/-! ## Transforms with a unit quaternion

The laws of a group, one by one; that the quaternion has length one is what
makes conjugation the inverse. -/

/-- A transform whose quaternion has length one. -/
structure UnitRigid where
  toRigid : Rigid ℝ
  unit : squaredNorm toRigid.rotation = 1

namespace UnitRigid

theorem toRigid_injective : Function.Injective toRigid := by
  intro a b h
  cases a
  cases b
  cases h
  rfl

noncomputable instance : Mul UnitRigid where
  mul a b := ⟨a.toRigid.mul b.toRigid, by
    show squaredNorm (quatMul _ _) = 1
    rw [squaredNorm_quatMul, a.unit, b.unit, one_mul]⟩

noncomputable instance : One UnitRigid where
  one := ⟨.identity, squaredNorm_identity⟩

noncomputable instance : Inv UnitRigid where
  inv a := ⟨a.toRigid.inverse, by
    show squaredNorm (Geometry.inverse a.toRigid.rotation) = 1
    rw [inverse_of_unit a.unit, squaredNorm_conj, a.unit]⟩

@[simp] theorem toRigid_mul (a b : UnitRigid) : (a * b).toRigid = a.toRigid.mul b.toRigid := rfl

@[simp] theorem toRigid_one : (1 : UnitRigid).toRigid = .identity := rfl

@[simp] theorem toRigid_inv (a : UnitRigid) : a⁻¹.toRigid = a.toRigid.inverse := rfl

theorem rigid_mul_assoc (a b c : UnitRigid) : a * b * c = a * (b * c) := by
  apply toRigid_injective
  apply Rigid.ext_parts
  · exact quatMul_assoc _ _ _
  · show add3 (rotateDirection (quatMul _ _) _) (add3 (rotateDirection _ _) _) =
      add3 (rotateDirection _ (add3 (rotateDirection _ _) _)) _
    rw [rotateDirection_quatMul a.unit b.unit, rotateDirection_add3]
    apply vec3_ext <;> simp [add3] <;> ring

theorem rigid_one_mul (a : UnitRigid) : 1 * a = a := by
  apply toRigid_injective
  apply Rigid.ext_parts
  · exact identity_quatMul _
  · show add3 (rotateDirection Rigid.identity.rotation _) Rigid.identity.translation = _
    rw [rotateDirection_identity]
    apply vec3_ext <;> simp [add3, identity_real]

theorem rigid_mul_one (a : UnitRigid) : a * 1 = a := by
  apply toRigid_injective
  apply Rigid.ext_parts
  · exact quatMul_identity _
  · show add3 (rotateDirection _ _) _ = _
    rw [rotateDirection_real]
    apply vec3_ext <;> simp [add3, identity_real]

theorem rigid_inv_mul (a : UnitRigid) : a⁻¹ * a = 1 := by
  apply toRigid_injective
  apply Rigid.ext_parts
  · show quatMul (Geometry.inverse a.toRigid.rotation) a.toRigid.rotation = _
    rw [inverse_of_unit a.unit, conj_quatMul_self a.unit]
    rfl
  · show add3 (rotateDirection (Geometry.inverse a.toRigid.rotation) a.toRigid.translation)
      (neg3 (rotateDirection (Geometry.inverse a.toRigid.rotation) a.toRigid.translation)) =
      Rigid.identity.translation
    apply vec3_ext <;> simp [add3, neg3, identity_real]

noncomputable instance : Group UnitRigid where
  mul_assoc := rigid_mul_assoc
  one_mul := rigid_one_mul
  mul_one := rigid_mul_one
  inv_mul_cancel := rigid_inv_mul

/-- The product of a list, composed from the left. -/
theorem toRigid_prod (l : List UnitRigid) :
    l.prod.toRigid = (l.map toRigid).foldl Rigid.mul .identity := by
  rw [List.prod_eq_foldl, List.foldl_map, ← toRigid_one]
  exact (List.foldl_hom toRigid fun _ _ => rfl).symm

/-- The product moves a point by one transform after the other. -/
theorem transformPoint_mul (a b : UnitRigid) (p : Vector ℝ 3) :
    (a * b).toRigid.transformPoint p = a.toRigid.transformPoint (b.toRigid.transformPoint p) := by
  show add3 (rotateDirection (quatMul _ _) p) (add3 (rotateDirection _ _) _) =
    add3 (rotateDirection _ (add3 (rotateDirection _ p) _)) _
  rw [rotateDirection_quatMul a.unit b.unit, rotateDirection_add3]
  apply vec3_ext <;> simp [add3] <;> ring

end UnitRigid

end SpatialPlatform.Core.Geometry
