import Mathlib.Analysis.Real.Sqrt
import Mathlib.Algebra.Quaternion
import Mathlib.Tactic.Ring
import Mathlib.Tactic.Linarith
import Mathlib.Tactic.LinearCombination
import Mathlib.Tactic.FieldSimp
import Mathlib.Tactic.Positivity
import SpatialPlatform.Core.Geometry.DirectionMath
import SpatialPlatform.Lib.Coordinates

/-!
# Rotations without rounding

What the vectors and quaternions of the code are over the reals: unit
quaternions rotate, as quaternions do, and a rotation matrix gives its
quaternion back up to the sign.
-/

namespace SpatialPlatform.Core

/-- Exact numbers with exact roots. -/
noncomputable instance : DoubleArith ℝ where
  decidableLT := Classical.decRel _
  decidableLE := Classical.decRel _
  isFinite _ := true
  formatNumber _ := ""
  sqrt := Real.sqrt

namespace Geometry

/-! ## The definitions, spelled out -/

theorem dot3_real (a b : Vector ℝ 3) : dot3 a b = a 0 * b 0 + a 1 * b 1 + a 2 * b 2 := rfl

theorem norm3_real (a : Vector ℝ 3) : norm3 a = Real.sqrt (dot3 a a) := rfl

theorem squaredNorm_real (q : Quat ℝ) :
    squaredNorm q = q 0 * q 0 + q 1 * q 1 + q 2 * q 2 + q 3 * q 3 := rfl

theorem vec3_ext {a b : Vector ℝ 3} (h0 : a 0 = b 0) (h1 : a 1 = b 1) (h2 : a 2 = b 2) :
    a = b := by
  apply Vector.ext
  intro i hi
  match i, hi with
  | 0, _ => exact h0
  | 1, _ => exact h1
  | 2, _ => exact h2

theorem quat_ext {a b : Quat ℝ} (h0 : a 0 = b 0) (h1 : a 1 = b 1) (h2 : a 2 = b 2)
    (h3 : a 3 = b 3) : a = b := by
  apply Vector.ext
  intro i hi
  match i, hi with
  | 0, _ => exact h0
  | 1, _ => exact h1
  | 2, _ => exact h2
  | 3, _ => exact h3

/-- The opposite rotation of a unit quaternion. -/
noncomputable def conj (q : Quat ℝ) : Quat ℝ := #v[-q 0, -q 1, -q 2, q 3]

/-- The other quaternion of the same rotation. -/
noncomputable def negQuat (q : Quat ℝ) : Quat ℝ := #v[-q 0, -q 1, -q 2, -q 3]

theorem rotateDirection_real (q : Quat ℝ) (d : Vector ℝ 3) :
    rotateDirection q d = #v[
      d 0 + 2 * q 3 * (q 1 * d 2 - q 2 * d 1) +
        2 * (q 1 * (q 0 * d 1 - q 1 * d 0) - q 2 * (q 2 * d 0 - q 0 * d 2)),
      d 1 + 2 * q 3 * (q 2 * d 0 - q 0 * d 2) +
        2 * (q 2 * (q 1 * d 2 - q 2 * d 1) - q 0 * (q 0 * d 1 - q 1 * d 0)),
      d 2 + 2 * q 3 * (q 0 * d 1 - q 1 * d 0) +
        2 * (q 0 * (q 2 * d 0 - q 0 * d 2) - q 1 * (q 1 * d 2 - q 2 * d 1))] := by
  apply vec3_ext <;> simp [rotateDirection, add3, cross3, scale3] <;> ring

/-! ## Lengths -/

theorem dot3_self_nonneg (a : Vector ℝ 3) : 0 ≤ dot3 a a := by
  rw [dot3_real]
  nlinarith [mul_self_nonneg (a 0), mul_self_nonneg (a 1), mul_self_nonneg (a 2)]

theorem norm3_mul_self (a : Vector ℝ 3) : norm3 a * norm3 a = dot3 a a :=
  Real.mul_self_sqrt (dot3_self_nonneg a)

theorem dot3_comm (a b : Vector ℝ 3) : dot3 a b = dot3 b a := by
  simp only [dot3_real]
  ring

theorem dot3_scale3 (s : ℝ) (a b : Vector ℝ 3) : dot3 (scale3 s a) b = s * dot3 a b := by
  simp [dot3_real, scale3]
  ring

theorem norm3_scale3 {s : ℝ} (hs : 0 ≤ s) (a : Vector ℝ 3) : norm3 (scale3 s a) = s * norm3 a := by
  rw [norm3_real, dot3_scale3, dot3_comm, dot3_scale3, ← mul_assoc, Real.sqrt_mul (mul_self_nonneg s),
    Real.sqrt_mul_self hs, norm3_real]

theorem div3_eq_scale3 (a : Vector ℝ 3) (s : ℝ) : div3 a s = scale3 s⁻¹ a := by
  apply vec3_ext <;> simp [div3, scale3] <;> ring

theorem scale3_scale3 (s t : ℝ) (a : Vector ℝ 3) : scale3 s (scale3 t a) = scale3 (s * t) a := by
  apply vec3_ext <;> simp [scale3] <;> ring

theorem scale3_one (a : Vector ℝ 3) : scale3 (1 : ℝ) a = a := by
  apply vec3_ext <;> simp [scale3]

/-! ## Unit quaternions -/

theorem squaredNorm_conj (q : Quat ℝ) : squaredNorm (conj q) = squaredNorm q := by
  simp [squaredNorm_real, conj]

theorem conj_conj (q : Quat ℝ) : conj (conj q) = q := by
  apply quat_ext <;> simp [conj]

theorem squaredNorm_quatMul (a b : Quat ℝ) :
    squaredNorm (quatMul a b) = squaredNorm a * squaredNorm b := by
  simp [squaredNorm_real, quatMul]
  ring

theorem conj_quatMul (a b : Quat ℝ) : conj (quatMul a b) = quatMul (conj b) (conj a) := by
  apply quat_ext <;> simp [conj, quatMul] <;> ring

theorem squaredNorm_normalized {q : Quat ℝ} (h : 0 < squaredNorm q) :
    squaredNorm (normalized q) = 1 := by
  have hroot : Real.sqrt (squaredNorm q) * Real.sqrt (squaredNorm q) = squaredNorm q :=
    Real.mul_self_sqrt h.le
  have hpos : 0 < Real.sqrt (squaredNorm q) := Real.sqrt_pos.mpr h
  have hz : (0.0 : ℝ) < squaredNorm q := by norm_num; exact h
  unfold normalized
  rw [if_pos hz, squaredNorm_real]
  show q 0 / Real.sqrt (squaredNorm q) * (q 0 / Real.sqrt (squaredNorm q)) +
    q 1 / Real.sqrt (squaredNorm q) * (q 1 / Real.sqrt (squaredNorm q)) +
    q 2 / Real.sqrt (squaredNorm q) * (q 2 / Real.sqrt (squaredNorm q)) +
    q 3 / Real.sqrt (squaredNorm q) * (q 3 / Real.sqrt (squaredNorm q)) = 1
  field_simp
  rw [sq (Real.sqrt _), hroot, squaredNorm_real]
  ring

theorem normalized_of_unit {q : Quat ℝ} (h : squaredNorm q = 1) : normalized q = q := by
  have hz : (0.0 : ℝ) < squaredNorm q := by rw [h]; norm_num
  have hroot : DoubleArith.sqrt (squaredNorm q) = 1 := by
    rw [h]
    exact Real.sqrt_one
  unfold normalized
  rw [if_pos hz, hroot]
  apply quat_ext <;> simp

theorem inverse_of_unit {q : Quat ℝ} (h : squaredNorm q = 1) : inverse q = conj q := by
  have hz : (0.0 : ℝ) < squaredNorm q := by rw [h]; norm_num
  unfold inverse
  rw [if_pos hz, h]
  apply quat_ext <;> simp [conj]

/-! ## Rotations

The arithmetic of the source is that of quaternions in Mathlib: a rotation is a
conjugation, so products, inverses and lengths come from there. -/

theorem rotateDirection_scale3 (q : Quat ℝ) (s : ℝ) (d : Vector ℝ 3) :
    rotateDirection q (scale3 s d) = scale3 s (rotateDirection q d) := by
  simp only [rotateDirection_real]
  apply vec3_ext <;> simp [scale3] <;> ring

theorem rotateDirection_add3 (q : Quat ℝ) (d e : Vector ℝ 3) :
    rotateDirection q (add3 d e) = add3 (rotateDirection q d) (rotateDirection q e) := by
  simp only [rotateDirection_real]
  apply vec3_ext <;> simp [add3] <;> ring

theorem rotateDirection_neg3 (q : Quat ℝ) (d : Vector ℝ 3) :
    rotateDirection q (neg3 d) = neg3 (rotateDirection q d) := by
  simp only [rotateDirection_real]
  apply vec3_ext <;> simp [neg3] <;> ring

/-- A rotation and the opposite one are adjoint. -/
theorem dot3_rotateDirection (q : Quat ℝ) (a b : Vector ℝ 3) :
    dot3 (rotateDirection q a) b = dot3 a (rotateDirection (conj q) b) := by
  simp only [rotateDirection_real, dot3_real, conj]
  simp
  ring

/-- A quaternion with the scalar first. -/
noncomputable def toQuaternion (q : Quat ℝ) : Quaternion ℝ := ⟨q 3, q 0, q 1, q 2⟩

/-- A vector as an imaginary quaternion. -/
noncomputable def imaginary (d : Vector ℝ 3) : Quaternion ℝ := ⟨0, d 0, d 1, d 2⟩

section

variable (q : Quat ℝ) (d : Vector ℝ 3)

@[simp] theorem toQuaternion_re : (toQuaternion q).re = q 3 := rfl

@[simp] theorem toQuaternion_imI : (toQuaternion q).imI = q 0 := rfl

@[simp] theorem toQuaternion_imJ : (toQuaternion q).imJ = q 1 := rfl

@[simp] theorem toQuaternion_imK : (toQuaternion q).imK = q 2 := rfl

@[simp] theorem imaginary_re : (imaginary d).re = 0 := rfl

@[simp] theorem imaginary_imI : (imaginary d).imI = d 0 := rfl

@[simp] theorem imaginary_imJ : (imaginary d).imJ = d 1 := rfl

@[simp] theorem imaginary_imK : (imaginary d).imK = d 2 := rfl

end

theorem toQuaternion_quatMul (a b : Quat ℝ) :
    toQuaternion (quatMul a b) = toQuaternion a * toQuaternion b := by
  ext <;> simp [quatMul] <;> ring

theorem toQuaternion_conj (q : Quat ℝ) : toQuaternion (conj q) = star (toQuaternion q) := by
  ext <;> simp [conj]

theorem imaginary_injective : Function.Injective imaginary := by
  intro a b h
  have hI := congrArg QuaternionAlgebra.imI h
  have hJ := congrArg QuaternionAlgebra.imJ h
  have hK := congrArg QuaternionAlgebra.imK h
  exact vec3_ext hI hJ hK

/-- Unit quaternions rotate by conjugation. -/
theorem imaginary_rotateDirection {q : Quat ℝ} (h : squaredNorm q = 1) (d : Vector ℝ 3) :
    imaginary (rotateDirection q d) = toQuaternion q * imaginary d * star (toQuaternion q) := by
  rw [squaredNorm_real] at h
  ext <;> simp [rotateDirection_real]
  · ring
  · linear_combination (-d 0) * h
  · linear_combination (-d 1) * h
  · linear_combination (-d 2) * h

theorem rotateDirection_quatMul {a b : Quat ℝ} (ha : squaredNorm a = 1) (hb : squaredNorm b = 1)
    (d : Vector ℝ 3) :
    rotateDirection (quatMul a b) d = rotateDirection a (rotateDirection b d) := by
  have hab : squaredNorm (quatMul a b) = 1 := by rw [squaredNorm_quatMul, ha, hb, one_mul]
  apply imaginary_injective
  rw [imaginary_rotateDirection hab, imaginary_rotateDirection ha, imaginary_rotateDirection hb,
    toQuaternion_quatMul, star_mul]
  simp only [mul_assoc]

theorem rotateDirection_conj_self {q : Quat ℝ} (h : squaredNorm q = 1) (d : Vector ℝ 3) :
    rotateDirection (conj q) (rotateDirection q d) = d := by
  have hone : star (toQuaternion q) * toQuaternion q = 1 := by
    have hnorm : Quaternion.normSq (toQuaternion q) = 1 := by
      rw [Quaternion.normSq_def']
      rw [squaredNorm_real] at h
      simp only [toQuaternion_re, toQuaternion_imI, toQuaternion_imJ, toQuaternion_imK]
      linear_combination h
    rw [Quaternion.star_mul_self, hnorm, Quaternion.coe_one]
  apply imaginary_injective
  rw [imaginary_rotateDirection ((squaredNorm_conj q).trans h), imaginary_rotateDirection h,
    toQuaternion_conj, star_star]
  calc star (toQuaternion q) * (toQuaternion q * imaginary d * star (toQuaternion q)) *
        toQuaternion q
      = (star (toQuaternion q) * toQuaternion q) * imaginary d *
        (star (toQuaternion q) * toQuaternion q) := by simp only [mul_assoc]
    _ = imaginary d := by rw [hone, one_mul, mul_one]

theorem rotateDirection_self_conj {q : Quat ℝ} (h : squaredNorm q = 1) (d : Vector ℝ 3) :
    rotateDirection q (rotateDirection (conj q) d) = d := by
  have hconj := rotateDirection_conj_self ((squaredNorm_conj q).trans h) d
  rwa [conj_conj] at hconj

/-- Rotations keep lengths. -/
theorem norm3_rotateDirection {q : Quat ℝ} (h : squaredNorm q = 1) (d : Vector ℝ 3) :
    norm3 (rotateDirection q d) = norm3 d := by
  rw [norm3_real, dot3_rotateDirection, rotateDirection_conj_self h, norm3_real]

/-! ## Rotation matrices

`FromRotationMatrix` divides by an entry that is not zero, and takes the largest
one. Whichever it takes, the quaternion comes back up to its sign. -/

theorem mulVec3_toRotationMatrix (q : Quat ℝ) (d : Vector ℝ 3) :
    mulVec3 (toRotationMatrix q) d = rotateDirection q d := by
  rw [rotateDirection_real]
  apply vec3_ext <;> simp [mulVec3, toRotationMatrix, dot3_real] <;> norm_num <;> ring

theorem transpose3_toRotationMatrix (q : Quat ℝ) :
    transpose3 (toRotationMatrix q) = toRotationMatrix (conj q) := by
  simp [transpose3, toRotationMatrix, conj, sub_eq_add_neg]

/-- A matrix is known by what it does. -/
theorem mulVec3_injective {m n : Mat3 ℝ} (h : ∀ d, mulVec3 m d = mulVec3 n d) : m = n := by
  have hentry : ∀ i (hi : i < 3) j (hj : j < 3), m[i][j] = n[i][j] := by
    intro i hi j hj
    have hcolumn := h (Vector.ofFn fun k : Fin 3 => if k.val = j then 1 else 0)
    have hrow := congrArg (fun v : Vector ℝ 3 => v[i]) hcolumn
    interval_cases i <;> interval_cases j <;> simpa [mulVec3, dot3_real] using hrow
  apply Vector.ext
  intro i hi
  exact Vector.ext fun j hj => hentry i hi j hj

theorem squaredNorm_negQuat (q : Quat ℝ) : squaredNorm (negQuat q) = squaredNorm q := by
  simp [squaredNorm_real, negQuat]

/-- The root of `4 * a * a` is `2 * a`, up to the sign. -/
theorem sqrt_four_mul (a : ℝ) : Real.sqrt (4 * a * a) = 2 * a ∨ Real.sqrt (4 * a * a) = 2 * -a := by
  rw [show 4 * a * a = 2 * a * (2 * a) by ring, Real.sqrt_mul_self_eq_abs]
  obtain h | h := abs_cases (2 * a)
  · exact Or.inl h.1
  · exact Or.inr (by linarith [h.1])

/-- Any entry that is not zero recovers the quaternion from its matrix. -/
theorem fromDiagonal_toRotationMatrix {q : Quat ℝ} (i : Fin 3)
    (hi : q.get (i.castLE (by decide)) ≠ 0) :
    fromDiagonal (toRotationMatrix q) i = q ∨ fromDiagonal (toRotationMatrix q) i = negQuat q := by
  have hroot : ∀ j k : Fin 3, j = i + 1 → k = j + 1 →
      DoubleArith.sqrt ((toRotationMatrix q)[i][i] - (toRotationMatrix q)[j][j] -
        (toRotationMatrix q)[k][k] + (1.0 : ℝ)) = Real.sqrt ((4 : ℝ) * q[i.val] * q[i.val]) := by
    intro j k hj hk
    apply congrArg Real.sqrt
    fin_cases i <;> subst hj hk <;> simp [toRotationMatrix] <;> norm_num <;> ring
  unfold fromDiagonal
  simp only [hroot _ _ rfl rfl]
  obtain hpos | hneg := sqrt_four_mul q[i.val]
  · simp only [hpos]
    left
    fin_cases i <;> apply quat_ext <;> simp [toRotationMatrix] <;>
      simp [Vector.get_val] at hi <;> norm_num <;> field_simp <;> ring
  · simp only [hneg]
    right
    fin_cases i <;> apply quat_ext <;> simp [toRotationMatrix, negQuat] <;>
      simp [Vector.get_val] at hi <;> norm_num <;> field_simp <;> ring

/-- The diagonal of a rotation matrix. -/
theorem diagonal_toRotationMatrix (q : Quat ℝ) :
    toRotationMatrix q 0 0 = (1 : ℝ) - (2 : ℝ) * (q 1 * q 1 + q 2 * q 2) ∧
      toRotationMatrix q 1 1 = (1 : ℝ) - (2 : ℝ) * (q 0 * q 0 + q 2 * q 2) ∧
      toRotationMatrix q 2 2 = (1 : ℝ) - (2 : ℝ) * (q 0 * q 0 + q 1 * q 1) := by
  refine ⟨?_, ?_, ?_⟩ <;> simp [toRotationMatrix] <;> norm_num <;> ring

/-- The index that `FromRotationMatrix` takes when the trace is not positive. -/
theorem fromRotationMatrix_of_trace {m : Mat3 ℝ} (h : ¬ (0.0 : ℝ) < m 0 0 + m 1 1 + m 2 2) :
    ∃ i : Fin 3, fromRotationMatrix m = fromDiagonal m i ∧ ∀ j : Fin 3, (m.get j).get j ≤ (m.get i).get i := by
  unfold fromRotationMatrix
  rw [if_neg h]
  refine ⟨_, rfl, ?_⟩
  intro j
  by_cases h01 : m 0 0 < m 1 1
  · by_cases h12 : m 1 1 < m 2 2
    · fin_cases j <;> simp [Vector.get_val, h01, h12] <;> linarith
    · fin_cases j <;> simp [Vector.get_val, h01, h12] <;> linarith
  · by_cases h02 : m 0 0 < m 2 2
    · fin_cases j <;> simp [Vector.get_val, h01, h02] <;> linarith
    · fin_cases j <;> simp [Vector.get_val, h01, h02] <;> linarith

/-- A positive trace gives a quaternion whose scalar is not negative. -/
theorem fromRotationMatrix_scalar_nonneg {m : Mat3 ℝ}
    (h : (0.0 : ℝ) < m 0 0 + m 1 1 + m 2 2) : (0 : ℝ) ≤ (fromRotationMatrix m) 3 := by
  unfold fromRotationMatrix
  rw [if_pos h]
  show (0 : ℝ) ≤ 0.5 * Real.sqrt _
  exact mul_nonneg (by norm_num) (Real.sqrt_nonneg _)

/-- A rotation matrix gives its quaternion back, or the other quaternion of the same rotation. -/
theorem fromRotationMatrix_toRotationMatrix {q : Quat ℝ} (h : squaredNorm q = 1) :
    fromRotationMatrix (toRotationMatrix q) = q ∨
      fromRotationMatrix (toRotationMatrix q) = negQuat q := by
  rw [squaredNorm_real] at h
  obtain ⟨h0, h1, h2⟩ := diagonal_toRotationMatrix q
  by_cases htrace : (0.0 : ℝ) <
      toRotationMatrix q 0 0 + toRotationMatrix q 1 1 + toRotationMatrix q 2 2
  · have hroot : DoubleArith.sqrt (toRotationMatrix q 0 0 + toRotationMatrix q 1 1 +
        toRotationMatrix q 2 2 + (1.0 : ℝ)) = Real.sqrt ((4 : ℝ) * q 3 * q 3) := by
      apply congrArg Real.sqrt
      rw [h0, h1, h2]
      norm_num
      linear_combination -4 * h
    have hw : q 3 ≠ 0 := by
      intro hw
      rw [h0, h1, h2] at htrace
      rw [hw] at h
      norm_num at htrace h
      linarith
    unfold fromRotationMatrix
    rw [if_pos htrace]
    simp only [hroot]
    obtain hpos | hneg := sqrt_four_mul (q 3)
    · simp only [hpos]
      left
      apply quat_ext <;> simp [toRotationMatrix] <;> norm_num <;> field_simp <;> ring
    · simp only [hneg]
      right
      apply quat_ext <;> simp [toRotationMatrix, negQuat] <;> norm_num <;> field_simp <;> ring
  · obtain ⟨i, hi, hmax⟩ := fromRotationMatrix_of_trace htrace
    rw [hi]
    apply fromDiagonal_toRotationMatrix
    -- The largest entry of the diagonal cannot belong to a zero: the others would be zero too.
    intro hzero
    have hmax0 := hmax 0
    have hmax1 := hmax 1
    have hmax2 := hmax 2
    rw [h0, h1, h2] at htrace
    norm_num at htrace
    have hentry : q[i.val] = 0 := hzero
    have hsquare : q[i.val] * q[i.val] = 0 := by rw [hentry, mul_zero]
    fin_cases i <;> simp only [Vector.get_val, Fin.val_zero, Fin.val_one, Fin.val_two, h0, h1, h2]
      at hsquare hmax0 hmax1 hmax2 <;>
      nlinarith [mul_self_nonneg (q 0), mul_self_nonneg (q 1), mul_self_nonneg (q 2),
        mul_self_nonneg (q 3)]

end Geometry

end SpatialPlatform.Core
