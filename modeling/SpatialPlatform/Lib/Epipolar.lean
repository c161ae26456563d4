import Mathlib.Algebra.Order.Ring.Abs
import Mathlib.LinearAlgebra.CrossProduct
import Mathlib.LinearAlgebra.Matrix.Determinant.Basic
import Mathlib.Tactic.FinCases
import Mathlib.Tactic.LinearCombination
import Mathlib.Tactic.Linarith

/-!
# Essential matrices

A rotation and a direction, up to a factor the cross product with the direction
after the rotation. What a singular value decomposition shows of the two.

* `IsSvd.essential` — the direction is the last left singular vector up to its
  sign, and the rotation one of two that the singular vectors give.
-/

namespace SpatialPlatform.Lib.Epipolar

open Matrix

variable {K : Type} [Field K]

/-! ## Cross products -/

/-- The matrix of the cross product with a vector. -/
def skew (t : Fin 3 → K) : Matrix (Fin 3) (Fin 3) K :=
  !![0, -vecHead (vecTail (vecTail t)), vecHead (vecTail t);
    vecHead (vecTail (vecTail t)), 0, -vecHead t;
    -vecHead (vecTail t), vecHead t, 0]

theorem skew_eq (t : Fin 3 → K) : skew t = !![0, -t 2, t 1; t 2, 0, -t 0; -t 1, t 0, 0] := rfl

theorem skew_mulVec (t x : Fin 3 → K) : skew t *ᵥ x = t ⨯₃ x := by
  ext i
  fin_cases i <;> simp [skew_eq, cross_apply, Matrix.mulVec, dotProduct, Fin.sum_univ_three] <;> ring

theorem transpose_mul_skew_mul (m : Matrix (Fin 3) (Fin 3) K) (t : Fin 3 → K) :
    mᵀ * skew (m *ᵥ t) * m = m.det • skew t := by
  rw [Matrix.det_fin_three]
  ext i j
  fin_cases i <;> fin_cases j <;>
    simp [skew_eq, Matrix.mul_apply, Matrix.mulVec, dotProduct, Fin.sum_univ_three] <;> ring

/-! ## Orthogonal matrices -/

variable {m : Matrix (Fin 3) (Fin 3) K}

theorem transpose_mul_self (h : m * mᵀ = 1) : mᵀ * m = 1 := mul_eq_one_comm.mp h

theorem det_mul_self (h : m * mᵀ = 1) : m.det * m.det = 1 := by
  have hdet := congrArg Matrix.det h
  rwa [Matrix.det_mul, Matrix.det_transpose, Matrix.det_one] at hdet

/-- The cross product, seen from a rotated frame. -/
theorem transpose_mul_skew_mul_self (h : m * mᵀ = 1) (t : Fin 3 → K) :
    mᵀ * skew t * m = m.det • skew (mᵀ *ᵥ t) := by
  rw [← transpose_mul_skew_mul, Matrix.mulVec_mulVec, h, Matrix.one_mulVec]

theorem dotProduct_transpose_mulVec (h : m * mᵀ = 1) (t : Fin 3 → K) :
    (mᵀ *ᵥ t) ⬝ᵥ (mᵀ *ᵥ t) = t ⬝ᵥ t := by
  rw [Matrix.dotProduct_mulVec, Matrix.vecMul_transpose, Matrix.mulVec_mulVec, h, Matrix.one_mulVec]

/-! ## Turns -/

/-- The quarter turn about the last axis. -/
def quarterTurn : Matrix (Fin 3) (Fin 3) K := !![0, -1, 0; 1, 0, 0; 0, 0, 1]

/-- The half turn about a direction. -/
def halfTurn (t : Fin 3 → K) : Matrix (Fin 3) (Fin 3) K := vecMulVec t t + vecMulVec t t - 1

theorem halfTurn_eq (t : Fin 3 → K) : halfTurn t = (2 : K) • vecMulVec t t - 1 := by
  rw [halfTurn, two_smul]

theorem det_quarterTurn : (quarterTurn : Matrix (Fin 3) (Fin 3) K).det = 1 := by
  simp [quarterTurn, Matrix.det_fin_three]

theorem halfTurn_mulVec (t x : Fin 3 → K) : halfTurn t *ᵥ x = (2 * (t ⬝ᵥ x)) • t - x := by
  rw [halfTurn_eq, Matrix.sub_mulVec, Matrix.one_mulVec, Matrix.smul_mulVec, Matrix.vecMulVec_mulVec,
    op_smul_eq_smul, smul_smul]

theorem halfTurn_mul_transpose {t : Fin 3 → K} (ht : t ⬝ᵥ t = 1) : halfTurn t * (halfTurn t)ᵀ = 1 := by
  have hsymm : (halfTurn t)ᵀ = halfTurn t := by
    rw [halfTurn_eq, Matrix.transpose_sub, Matrix.transpose_smul, Matrix.transpose_vecMulVec,
      Matrix.transpose_one]
  have hsquare : vecMulVec t t * vecMulVec t t = vecMulVec t t := by
    rw [Matrix.vecMulVec_mul_vecMulVec, ht, one_smul]
  rw [hsymm, halfTurn_eq, Matrix.sub_mul, Matrix.mul_sub, Matrix.one_mul, Matrix.mul_one,
    Matrix.smul_mul, Matrix.mul_smul, hsquare]
  module

/-- A half turn, seen from a rotated frame. -/
theorem transpose_mul_halfTurn_mul (h : m * mᵀ = 1) (t : Fin 3 → K) :
    mᵀ * halfTurn t * m = halfTurn (mᵀ *ᵥ t) := by
  rw [halfTurn_eq, halfTurn_eq, Matrix.mul_sub, Matrix.sub_mul, Matrix.mul_one, transpose_mul_self h,
    Matrix.mul_smul, Matrix.smul_mul, Matrix.mul_vecMulVec, Matrix.vecMulVec_mul,
    Matrix.mulVec_transpose]

/-! ## Singular values

Where the singular values of a cross product after a rotation lie, and what the
singular vectors leave open of its direction and its rotation. The orthogonal
factors are moved to the other side first, so that what is solved are equations
between the entries of one matrix. -/

/-- The matrix sends the first two axes into each other's lines, and the third one into its own. -/
def swap (σ q : K) : Matrix (Fin 3) (Fin 3) K := !![0, σ, 0; -σ, 0, 0; 0, 0, q]

/-- The rows of an orthogonal matrix. -/
theorem rows_of_orthogonal (h : m * mᵀ = 1) (i j : Fin 3) :
    m i 0 * m j 0 + m i 1 * m j 1 + m i 2 * m j 2 = if i = j then 1 else 0 := by
  have hentry := congrFun₂ h i j
  rwa [Matrix.mul_apply, Fin.sum_univ_three, Matrix.one_apply] at hentry

/-- Its columns. -/
theorem columns_of_orthogonal (h : m * mᵀ = 1) (i j : Fin 3) :
    m 0 i * m 0 j + m 1 i * m 1 j + m 2 i * m 2 j = if i = j then 1 else 0 := by
  have hentry := congrFun₂ (transpose_mul_self h) i j
  rwa [Matrix.mul_apply, Fin.sum_univ_three, Matrix.one_apply] at hentry

/-- The rows of a cross product after a matrix. -/
theorem skew_mul_apply (w : Fin 3 → K) (m : Matrix (Fin 3) (Fin 3) K) (j : Fin 3) :
    (skew w * m) 0 j = w 1 * m 2 j - w 2 * m 1 j ∧ (skew w * m) 1 j = w 2 * m 0 j - w 0 * m 2 j ∧
      (skew w * m) 2 j = w 0 * m 1 j - w 1 * m 0 j := by
  simp only [Matrix.mul_apply, Fin.sum_univ_three]
  refine ⟨?_, ?_, ?_⟩ <;> simp [skew_eq] <;> ring

theorem smul_quarterTurn (ρ : K) : ρ • quarterTurn = swap (-ρ) ρ := by
  ext i j
  fin_cases i <;> fin_cases j <;> simp [quarterTurn, swap]

theorem smul_quarterTurn_transpose (ρ : K) : ρ • quarterTurnᵀ = swap ρ ρ := by
  ext i j
  fin_cases i <;> fin_cases j <;> simp [quarterTurn, swap]

/-- Half a turn about the last axis. -/
theorem halfTurn_axis_mul_swap {ε : K} (hε : ε * ε = 1) (σ ρ : K) :
    halfTurn ![0, 0, ε] * swap σ ρ = swap (-σ) ρ := by
  ext i j
  fin_cases i <;> fin_cases j <;>
    simp [halfTurn_eq, swap, Matrix.mul_apply, Fin.sum_univ_three, Matrix.sub_apply]
  linear_combination 2 * ρ * hε

section values

variable [LinearOrder K] [IsStrictOrderedRing K] {c : K} {w s : Fin 3 → K}

/-- Where a diagonal matrix is a cross product after a rotation, its smallest value is zero. -/
theorem last_eq_zero (hw : w ⬝ᵥ w = 1) (h : c • (skew w * m) = diagonal s) (hnonneg : 0 ≤ s 2)
    (hdescending : s 2 ≤ s 1 ∧ s 1 ≤ s 0) : s 2 = 0 := by
  -- the direction is orthogonal to what the cross product gives
  have hzero : ∀ j, w j * s j = 0 := by
    intro j
    obtain ⟨h0, h1, h2⟩ := skew_mul_apply w m j
    have hsum : w 0 * diagonal s 0 j + w 1 * diagonal s 1 j + w 2 * diagonal s 2 j = 0 := by
      rw [← h, Matrix.smul_apply, Matrix.smul_apply, Matrix.smul_apply, h0, h1, h2, smul_eq_mul,
        smul_eq_mul, smul_eq_mul]
      ring
    fin_cases j <;> simpa [diagonal] using hsum
  by_contra hne
  have hpos : 0 < s 2 := lt_of_le_of_ne hnonneg (Ne.symm hne)
  have hpos₁ := lt_of_lt_of_le hpos hdescending.1
  have hpos₀ := lt_of_lt_of_le hpos₁ hdescending.2
  have hw0 : w 0 = 0 := (mul_eq_zero.mp (hzero 0)).resolve_right hpos₀.ne'
  have hw1 : w 1 = 0 := (mul_eq_zero.mp (hzero 1)).resolve_right hpos₁.ne'
  have hw2 : w 2 = 0 := (mul_eq_zero.mp (hzero 2)).resolve_right hne
  simp [dotProduct, Fin.sum_univ_three, hw0, hw1, hw2] at hw

/-- And the direction is that of the last axis. -/
theorem direction_eq (hc : c ≠ 0) (hw : w ⬝ᵥ w = 1) (hm : m * mᵀ = 1)
    (h : c • (skew w * m) = diagonal s) (hlast : s 2 = 0) :
    w 0 = 0 ∧ w 1 = 0 ∧ w 2 * w 2 = 1 := by
  have hvanish : ∀ j, w 0 * m 1 j - w 1 * m 0 j = 0 := by
    intro j
    have hentry := congrFun₂ h 2 j
    rw [Matrix.smul_apply, (skew_mul_apply w m j).2.2, smul_eq_mul] at hentry
    refine (mul_eq_zero.mp (hentry.trans ?_)).resolve_left hc
    fin_cases j <;> simp [diagonal, hlast]
  have h00 : m 0 0 * m 0 0 + m 0 1 * m 0 1 + m 0 2 * m 0 2 = 1 := rows_of_orthogonal hm 0 0
  have h11 : m 1 0 * m 1 0 + m 1 1 * m 1 1 + m 1 2 * m 1 2 = 1 := rows_of_orthogonal hm 1 1
  have h01 : m 0 0 * m 1 0 + m 0 1 * m 1 1 + m 0 2 * m 1 2 = 0 := rows_of_orthogonal hm 0 1
  have hw1 : w 1 = 0 := by
    linear_combination (-w 1) * h00 + w 0 * h01 - m 0 0 * hvanish 0 - m 0 1 * hvanish 1 -
      m 0 2 * hvanish 2
  have hw0 : w 0 = 0 := by
    linear_combination (-w 0) * h11 + w 1 * h01 + m 1 0 * hvanish 0 + m 1 1 * hvanish 1 +
      m 1 2 * hvanish 2
  have hunit : w 0 * w 0 + w 1 * w 1 + w 2 * w 2 = 1 := by
    simpa [dotProduct, Fin.sum_univ_three] using hw
  exact ⟨hw0, hw1, by rwa [hw0, hw1, mul_zero, zero_add, zero_add] at hunit⟩

/-- And the rotation is known up to two signs. -/
theorem eq_swap (hc : c ≠ 0) (hw : w 0 = 0 ∧ w 1 = 0 ∧ w 2 * w 2 = 1) (hm : m * mᵀ = 1)
    (h : c • (skew w * m) = diagonal s) (hnonneg : 0 ≤ s 1 ∧ 0 ≤ s 0) :
    m = swap (m 0 1) (m 2 2) ∧ m 0 1 * m 0 1 = 1 ∧ m 2 2 * m 2 2 = 1 := by
  obtain ⟨hw0, hw1, hw2⟩ := hw
  have hne : c * w 2 ≠ 0 := mul_ne_zero hc fun hzero => by simp [hzero] at hw2
  have hrow1 : ∀ j, c * w 2 * m 1 j = -diagonal s 0 j := by
    intro j
    rw [← h, Matrix.smul_apply, (skew_mul_apply w m j).1, smul_eq_mul, hw1]
    ring
  have hrow0 : ∀ j, c * w 2 * m 0 j = diagonal s 1 j := by
    intro j
    rw [← h, Matrix.smul_apply, (skew_mul_apply w m j).2.1, smul_eq_mul, hw0]
    ring
  have h11 : m 1 1 = 0 := (mul_eq_zero.mp ((hrow1 1).trans (by simp [diagonal]))).resolve_left hne
  have h12 : m 1 2 = 0 := (mul_eq_zero.mp ((hrow1 2).trans (by simp [diagonal]))).resolve_left hne
  have h00 : m 0 0 = 0 := (mul_eq_zero.mp ((hrow0 0).trans (by simp [diagonal]))).resolve_left hne
  have h02 : m 0 2 = 0 := (mul_eq_zero.mp ((hrow0 2).trans (by simp [diagonal]))).resolve_left hne
  have hs0 : c * w 2 * m 1 0 = -s 0 := (hrow1 0).trans (by simp [diagonal])
  have hs1 : c * w 2 * m 0 1 = s 1 := (hrow0 1).trans (by simp [diagonal])
  have hσ : m 0 1 * m 0 1 = 1 := by
    have hnorm := rows_of_orthogonal hm 0 0
    rwa [h00, h02, if_pos rfl, mul_zero, zero_add, add_zero] at hnorm
  have hσ' : m 1 0 * m 1 0 = 1 := by
    have hnorm := rows_of_orthogonal hm 1 1
    rwa [h11, h12, if_pos rfl, mul_zero, add_zero, add_zero] at hnorm
  have h20 : m 2 0 = 0 := by
    have hnorm := columns_of_orthogonal hm 0 0
    rw [h00, hσ', if_pos rfl, mul_zero, zero_add] at hnorm
    exact mul_self_eq_zero.mp (by linear_combination hnorm)
  have h21 : m 2 1 = 0 := by
    have hnorm := columns_of_orthogonal hm 1 1
    rw [h11, hσ, if_pos rfl, mul_zero, add_zero] at hnorm
    exact mul_self_eq_zero.mp (by linear_combination hnorm)
  have hρ : m 2 2 * m 2 2 = 1 := by
    have hnorm := rows_of_orthogonal hm 2 2
    rwa [h20, h21, if_pos rfl, mul_zero, zero_add, zero_add] at hnorm
  -- the two signs are opposite, as the values are not negative
  have hopposite : m 1 0 = -m 0 1 := by
    rcases mul_self_eq_mul_self_iff.mp (hσ'.trans hσ.symm) with heq | heq
    · exfalso
      have hsum : s 0 + s 1 = 0 := by
        rw [heq] at hs0
        linear_combination hs0 - hs1
      have hs1zero : s 1 = 0 := le_antisymm (by linarith only [hsum, hnonneg.2]) hnonneg.1
      have hzero := (mul_eq_zero.mp (hs1.trans hs1zero)).resolve_left hne
      simp [hzero] at hσ
    · exact heq
  refine ⟨?_, hσ, hρ⟩
  ext i j
  fin_cases i <;> fin_cases j <;> simp [swap, h00, h02, h11, h12, h20, h21, hopposite]

/-- A singular value decomposition, with the values in descending order. -/
structure IsSvd (e u : Matrix (Fin 3) (Fin 3) K) (s : Fin 3 → K) (v : Matrix (Fin 3) (Fin 3) K) :
    Prop where
  left : u * uᵀ = 1
  right : v * vᵀ = 1
  factors : e = u * diagonal s * vᵀ
  nonneg : 0 ≤ s 2
  descending : s 2 ≤ s 1 ∧ s 1 ≤ s 0

/-- A matrix or its opposite, whichever has a determinant that is not negative. -/
def proper (m : Matrix (Fin 3) (Fin 3) K) : Matrix (Fin 3) (Fin 3) K := if m.det < 0 then -m else m

/-- A matrix of determinant one or minus one. -/
theorem proper_eq_smul {ρ : K} (hρ : ρ * ρ = 1) (hdet : m.det = ρ) : proper m = ρ • m := by
  rcases mul_self_eq_one_iff.mp hρ with rfl | rfl
  · rw [proper, hdet, if_neg (by simp), one_smul]
  · rw [proper, hdet, if_pos (by simp), neg_one_smul]

/-- The two rotations that the singular vectors leave open. -/
def candidates (u v : Matrix (Fin 3) (Fin 3) K) :
    Matrix (Fin 3) (Fin 3) K × Matrix (Fin 3) (Fin 3) K :=
  (proper (u * quarterTurn * vᵀ), proper (u * quarterTurnᵀ * vᵀ))

theorem candidates_eq {u v : Matrix (Fin 3) (Fin 3) K} {ρ : K} (hρ : ρ * ρ = 1)
    (hdet : u.det * v.det = ρ) :
    candidates u v = (u * swap (-ρ) ρ * vᵀ, u * swap ρ ρ * vᵀ) := by
  have hfirst : (u * quarterTurn * vᵀ).det = ρ := by
    rw [Matrix.det_mul, Matrix.det_mul, Matrix.det_transpose, det_quarterTurn, mul_one, hdet]
  have hsecond : (u * quarterTurnᵀ * vᵀ).det = ρ := by
    rw [Matrix.det_mul, Matrix.det_mul, Matrix.det_transpose, Matrix.det_transpose, det_quarterTurn,
      mul_one, hdet]
  have hinside : ∀ a : Matrix (Fin 3) (Fin 3) K, ρ • (u * a * vᵀ) = u * (ρ • a) * vᵀ := by
    intro a
    rw [Matrix.mul_smul, Matrix.smul_mul]
  rw [candidates, proper_eq_smul hρ hfirst, proper_eq_smul hρ hsecond, hinside, hinside,
    smul_quarterTurn, smul_quarterTurn_transpose]

/-- **The four candidates.** Of a direction and a rotation, the singular value
decomposition of their essential matrix gives the direction up to its sign, and
two rotations: the one, and the one after half a turn about the direction. -/
theorem IsSvd.essential {e u v r : Matrix (Fin 3) (Fin 3) K} {t : Fin 3 → K} (h : IsSvd e u s v)
    (hc : c ≠ 0) (he : e = c • (skew t * r)) (ht : t ⬝ᵥ t = 1) (hr : r * rᵀ = 1) (hdet : r.det = 1) :
    (t = u.col 2 ∨ t = -u.col 2) ∧
      (candidates u v = (r, halfTurn t * r) ∨ candidates u v = (halfTurn t * r, r)) := by
  obtain ⟨hu, hv, hfactors, hnonneg, hdescending⟩ := h
  -- everything in the frames of the singular vectors
  obtain ⟨w, hw⟩ : ∃ w, w = uᵀ *ᵥ t := ⟨_, rfl⟩
  obtain ⟨q, hq⟩ : ∃ q, q = uᵀ * r * v := ⟨_, rfl⟩
  have ht' : t = u *ᵥ w := by rw [hw, Matrix.mulVec_mulVec, hu, Matrix.one_mulVec]
  have hr' : r = u * q * vᵀ := by
    rw [hq, ← Matrix.mul_assoc, ← Matrix.mul_assoc, hu, Matrix.one_mul, Matrix.mul_assoc, hv,
      Matrix.mul_one]
  have hunit : w ⬝ᵥ w = 1 := by rw [hw, dotProduct_transpose_mulVec hu, ht]
  have horthogonal : q * qᵀ = 1 := by
    rw [hq, Matrix.transpose_mul, Matrix.transpose_mul, Matrix.transpose_transpose]
    calc uᵀ * r * v * (vᵀ * (rᵀ * u))
        = uᵀ * (r * (v * vᵀ) * rᵀ) * u := by simp only [Matrix.mul_assoc]
      _ = 1 := by rw [hv, Matrix.mul_one, hr, Matrix.mul_one, transpose_mul_self hu]
  have hreduced : (c * u.det) • (skew w * q) = diagonal s := by
    have hback : uᵀ * e * v = diagonal s := by
      rw [hfactors]
      calc uᵀ * (u * diagonal s * vᵀ) * v
          = (uᵀ * u) * diagonal s * (vᵀ * v) := by simp only [Matrix.mul_assoc]
        _ = diagonal s := by
          rw [transpose_mul_self hu, transpose_mul_self hv, Matrix.one_mul, Matrix.mul_one]
    have hskew : u.det • skew w = uᵀ * skew t * u := by rw [transpose_mul_skew_mul_self hu, hw]
    rw [← hback, he, mul_smul, ← Matrix.smul_mul, hskew, hq, Matrix.mul_smul, Matrix.smul_mul]
    congr 1
    calc uᵀ * skew t * u * (uᵀ * r * v)
        = uᵀ * skew t * (u * uᵀ) * r * v := by simp only [Matrix.mul_assoc]
      _ = uᵀ * (skew t * r) * v := by rw [hu, Matrix.mul_one]; simp only [Matrix.mul_assoc]
  have hdetu := det_mul_self hu
  have hne : c * u.det ≠ 0 := mul_ne_zero hc fun hzero => by simp [hzero] at hdetu
  have hlast := last_eq_zero hunit hreduced hnonneg hdescending
  obtain ⟨hw0, hw1, hw2⟩ := direction_eq hne hunit horthogonal hreduced hlast
  obtain ⟨hswap, hσ, hρ⟩ := eq_swap hne ⟨hw0, hw1, hw2⟩ horthogonal hreduced
    ⟨hlast ▸ hdescending.1, (hlast ▸ hdescending.1).trans hdescending.2⟩
  refine ⟨?_, ?_⟩
  · have hcol : t = w 2 • u.col 2 := by
      rw [ht']
      ext i
      simp [Matrix.mulVec, dotProduct, Fin.sum_univ_three, hw0, hw1, mul_comm]
    rcases mul_self_eq_one_iff.mp hw2 with h1 | h1
    · exact .inl (by rw [hcol, h1, one_smul])
    · exact .inr (by rw [hcol, h1, neg_one_smul])
  · have hdetq : q.det = q 2 2 := by
      rw [hswap, Matrix.det_fin_three]
      simp [swap]
      linear_combination q 2 2 * hσ
    have hdetuv : u.det * v.det = q 2 2 := by
      have hdetr := congrArg Matrix.det hr'
      rw [hdet, Matrix.det_mul, Matrix.det_mul, Matrix.det_transpose, hdetq] at hdetr
      linear_combination (-(u.det * v.det)) * hρ - q 2 2 * hdetr
    have hturned : halfTurn t * r = u * swap (-q 0 1) (q 2 2) * vᵀ := by
      have hw' : w = ![0, 0, w 2] := by
        ext i
        fin_cases i <;> simp [hw0, hw1]
      have hstep : halfTurn w * q = swap (-q 0 1) (q 2 2) := by
        rw [hw', hswap, halfTurn_axis_mul_swap hw2]
        rfl
      rw [← hstep, hw, ← transpose_mul_halfTurn_mul hu, hr']
      calc halfTurn t * (u * q * vᵀ)
          = (u * uᵀ) * halfTurn t * u * q * vᵀ := by rw [hu, Matrix.one_mul]; simp only [Matrix.mul_assoc]
        _ = u * (uᵀ * halfTurn t * u * q) * vᵀ := by simp only [Matrix.mul_assoc]
    rw [candidates_eq hρ hdetuv, hturned]
    rw [hswap] at hr'
    rcases mul_self_eq_mul_self_iff.mp (hσ.trans hρ.symm) with heq | heq
    · exact .inr (by rw [hr', heq])
    · exact .inl (by rw [hr', heq, neg_neg])

end values

end SpatialPlatform.Lib.Epipolar
