import Mathlib.Analysis.Matrix.Order
import Mathlib.LinearAlgebra.Matrix.SchurComplement

/-!
# Positive definite matrices and their leading minors

A symmetric matrix is positive definite if and only if the determinants of all
its upper left corners are positive. By induction on the size: the last row and
column add one number to the corner before them, its Schur complement, and the
determinant is multiplied by that number.
-/

namespace SpatialPlatform.Lib

open Matrix

variable {n : ℕ}

/-- The upper left corner of size `k`. -/
def corner (M : Matrix (Fin n) (Fin n) ℝ) {k : ℕ} (hk : k ≤ n) : Matrix (Fin k) (Fin k) ℝ :=
  M.submatrix (Fin.castLE hk) (Fin.castLE hk)

/-- The determinant of the upper left corner of size `k`. -/
noncomputable def leadingMinor (M : Matrix (Fin n) (Fin n) ℝ) {k : ℕ} (hk : k ≤ n) : ℝ :=
  (corner M hk).det

/-- The last row and column beside the corner before them. -/
theorem eq_fromBlocks (M : Matrix (Fin (n + 1)) (Fin (n + 1)) ℝ) (hM : M.IsSymm) :
    ∃ (B : Matrix (Fin n) (Fin 1) ℝ) (D : Matrix (Fin 1) (Fin 1) ℝ),
      M.submatrix finSumFinEquiv finSumFinEquiv =
        fromBlocks (corner M (Nat.le_succ n)) B Bᴴ D := by
  refine ⟨fun i j => M (Fin.castAdd 1 i) (Fin.natAdd n j),
    fun i j => M (Fin.natAdd n i) (Fin.natAdd n j), ?_⟩
  ext i j
  rcases i with i | i
  · rcases j with j | j
    · rfl
    · rfl
  · rcases j with j | j
    · exact hM.apply _ _
    · rfl

/-- One step of the induction: the corner is positive definite, and the determinant stays positive. -/
theorem posDef_succ {M : Matrix (Fin (n + 1)) (Fin (n + 1)) ℝ} (hM : M.IsSymm)
    (hcorner : (corner M (Nat.le_succ n)).PosDef) (hdet : 0 < M.det) : M.PosDef := by
  obtain ⟨B, D, hblocks⟩ := eq_fromBlocks M hM
  have hinvertible : Invertible (corner M (Nat.le_succ n)) := hcorner.isUnit.invertible
  have hmul : M.det = (corner M (Nat.le_succ n)).det *
      (D - Bᴴ * (corner M (Nat.le_succ n))⁻¹ * B).det := by
    rw [← det_submatrix_equiv_self finSumFinEquiv M, hblocks, det_fromBlocks₁₁, invOf_eq_nonsing_inv]
  have hcomplement : 0 < (D - Bᴴ * (corner M (Nat.le_succ n))⁻¹ * B).det :=
    pos_of_mul_pos_right (hmul ▸ hdet) hcorner.det_pos.le
  -- the complement is a single number, so that its determinant says whether it is semidefinite
  have hsemidef : (D - Bᴴ * (corner M (Nat.le_succ n))⁻¹ * B).PosSemidef := by
    have hdiagonal : D - Bᴴ * (corner M (Nat.le_succ n))⁻¹ * B =
        diagonal fun _ => (D - Bᴴ * (corner M (Nat.le_succ n))⁻¹ * B).det := by
      ext i j
      rw [Subsingleton.elim j i, diagonal_apply_eq, det_unique, Subsingleton.elim i default]
    rw [hdiagonal]
    exact PosSemidef.diagonal fun _ => hcomplement.le
  have hwhole : M.PosSemidef := by
    rw [← posSemidef_submatrix_equiv finSumFinEquiv, hblocks]
    exact (hcorner.fromBlocks₁₁ B D).mpr hsemidef
  exact hwhole.posDef_iff_isUnit.mpr ((isUnit_iff_isUnit_det M).mpr hdet.ne'.isUnit)

/-- A symmetric matrix is positive definite if and only if all its leading minors are positive. -/
theorem posDef_iff_leadingMinors {M : Matrix (Fin n) (Fin n) ℝ} (hM : M.IsSymm) :
    M.PosDef ↔ ∀ k (hk : k ≤ n), 0 < leadingMinor M hk := by
  constructor
  · intro h k hk
    exact (h.submatrix (Fin.castLE_injective hk)).det_pos
  · intro h
    induction n with
    | zero => exact .of_dotProduct_mulVec_pos hM fun x hx => absurd (Subsingleton.elim x 0) hx
    | succ n ih =>
        refine posDef_succ hM (ih (hM.submatrix _) fun k hk => ?_) (h (n + 1) (Nat.le_refl _))
        exact h k (hk.trans (Nat.le_succ n))

end SpatialPlatform.Lib
