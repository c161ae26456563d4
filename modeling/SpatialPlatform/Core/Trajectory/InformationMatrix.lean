import SpatialPlatform.Core.Geometry.ExactRotations
import SpatialPlatform.Core.Trajectory.PoseGraphHelpers
import SpatialPlatform.Lib.LeadingMinors

/-!
# Information matrices without rounding

`ValidateInformationMatrix` of `core/trajectory/pose_graph_helpers.h` looks at
the diagonal and at the sign of the determinant. A symmetric matrix with an even
number of negative directions passes as well.

* `accepted_posDef_iff` — which accepted matrices are positive definite.
-/

namespace SpatialPlatform.Core

open SpatialPlatform.Lib

/-- The matrix itself. -/
def matrix6 (info : Vector ℝ 36) : Matrix (Fin 6) (Fin 6) ℝ := Matrix.of (entry info)

noncomputable def exactDeterminant (info : Vector ℝ 36) : ℝ := (Matrix.of (entry info)).det

theorem exactDeterminant_diagonal6 (position rotation : ℝ) :
    exactDeterminant (diagonal6 position rotation) =
      position * position * position * rotation * rotation * rotation := by
  have hdiagonal : Matrix.of (entry (diagonal6 position rotation)) =
      Matrix.diagonal ![position, position, position, rotation, rotation, rotation] := by
    ext i j
    fin_cases i <;> fin_cases j <;> simp [entry, diagonal6] <;> norm_num
  unfold exactDeterminant
  rw [hdiagonal, Matrix.det_diagonal]
  simp [Fin.prod_univ_succ]
  ring

/-- Adding squares does not make a sum smaller. -/
theorem le_foldl_squares (f : Fin 6 → Fin 6 → ℝ) (rows columns : List (Fin 6)) (total : ℝ) :
    total ≤ rows.foldl (fun total r => columns.foldl (fun total c => total + f r c * f r c) total)
      total := by
  have hrow : ∀ (r : Fin 6) (columns : List (Fin 6)) (total : ℝ),
      total ≤ columns.foldl (fun total c => total + f r c * f r c) total := by
    intro r columns
    induction columns with
    | nil => exact fun total => le_rfl
    | cons c columns ih =>
      intro total
      exact le_trans (by linarith [mul_self_nonneg (f r c)]) (ih _)
  induction rows generalizing total with
  | nil => exact le_rfl
  | cons r rows ih => exact le_trans (hrow r columns total) (ih _)

theorem isApproxSymmetric_of_symmetric {info : Vector ℝ 36} {precision : ℝ}
    (h : ∀ r c, entry info r c = entry info c r) : isApproxSymmetric info precision = true := by
  have hsum : ∀ f : Fin 6 → Fin 6 → ℝ, 0 ≤ (List.finRange 6).foldl (fun total r =>
      (List.finRange 6).foldl (fun total c => total + f r c * f r c) total) (0.0 : ℝ) := by
    intro f
    exact le_trans (by norm_num) (le_foldl_squares f _ _ _)
  unfold isApproxSymmetric
  rw [decide_eq_true_eq]
  calc _ = (0 : ℝ) := by simp [h]; norm_num
    _ ≤ _ := by
      apply mul_nonneg (mul_self_nonneg _)
      split
      · exact hsum fun r c => entry info c r
      · exact hsum fun r c => entry info r c

theorem entry_diagonal6 (position rotation : ℝ) (r c : Fin 6) :
    entry (diagonal6 position rotation) r c =
      if r = c then if r.val < 3 then position else rotation else 0 := by
  fin_cases r <;> fin_cases c <;> simp [entry, diagonal6] <;> norm_num

theorem validate_diagonal6 {position rotation : ℝ} (hrotation : (1e-9 : ℝ) ≤ rotation) :
    validateInformationMatrix exactDeterminant (diagonal6 position rotation) = none ↔
      (1e-9 : ℝ) ≤ position := by
  have hsymmetric : isApproxSymmetric (diagonal6 position rotation) (1e-9 : ℝ) = true := by
    apply isApproxSymmetric_of_symmetric
    intro r c
    rw [entry_diagonal6, entry_diagonal6]
    by_cases hrc : r = c
    · rw [hrc]
    · rw [if_neg hrc, if_neg (Ne.symm hrc)]
  have hfinite : (diagonal6 position rotation).toList.any (!Double.isFinite ·) = false :=
    List.any_eq_false.mpr fun a _ => by simp [Double.isFinite]
  unfold validateInformationMatrix
  rw [hfinite, hsymmetric]
  simp only [entry_diagonal6, if_true, List.any_eq_true, exactDeterminant_diagonal6]
  constructor
  · intro h
    by_contra hlow
    rw [if_neg (by decide), if_neg (by decide), if_pos] at h
    · cases h
    · exact ⟨0, List.mem_finRange 0, by simpa using not_le.mp hlow⟩
  · intro hposition
    have hp : 0 < position := lt_of_lt_of_le (by norm_num) hposition
    have hr : 0 < rotation := lt_of_lt_of_le (by norm_num) hrotation
    rw [if_neg (by decide), if_neg (by decide), if_neg, if_neg]
    · -- the determinant is a product of positive numbers
      simp [Double.isFinite]
      norm_num
      positivity
    · intro ⟨i, _, hi⟩
      have hlow := of_decide_eq_true hi
      split at hlow
      · exact absurd hlow (not_lt.mpr hposition)
      · exact absurd hlow (not_lt.mpr hrotation)

/-! ## Accepted matrices

A symmetric matrix is positive definite if all leading minors are positive. The
code looks at the diagonal and at the last of them. -/

theorem det_pos_of_accepted {info : Vector ℝ 36} {minDiagonal : ℝ}
    (h : validateInformationMatrix exactDeterminant info minDiagonal = none) :
    0 < (matrix6 info).det := by
  unfold validateInformationMatrix at h
  split at h
  · cases h
  split at h
  · cases h
  split at h
  · cases h
  split at h
  · cases h
  next hdet =>
    have hpos : (0.0 : ℝ) < exactDeterminant info := not_not.mp fun hnot => hdet (.inl hnot)
    norm_num at hpos
    exact hpos

/-- An accepted symmetric matrix is positive definite if and only if the leading
minors are positive that are not compared with zero: those before the
determinant. -/
theorem accepted_posDef_iff (info : Vector ℝ 36) (minDiagonal : ℝ)
    (hsymmetric : ∀ r c, entry info r c = entry info c r)
    (haccepted : validateInformationMatrix exactDeterminant info minDiagonal = none) :
    (matrix6 info).PosDef ↔
      ∀ k (hk : k ≤ 6), 1 ≤ k → k ≤ 5 → 0 < leadingMinor (matrix6 info) hk := by
  have hsymm : (matrix6 info).IsSymm := Matrix.IsSymm.ext fun r c => hsymmetric c r
  rw [posDef_iff_leadingMinors hsymm]
  constructor
  · exact fun h k hk _ _ => h k hk
  · intro h k hk
    rcases Nat.eq_zero_or_pos k with rfl | hpos
    · simp [leadingMinor]
    · rcases Nat.lt_or_eq_of_le hk with hlt | rfl
      · exact h k hk hpos (Nat.le_of_lt_succ hlt)
      · exact det_pos_of_accepted haccepted

theorem matrix6_diagonal6 : matrix6 (diagonal6 1 1) = 1 := by
  ext r c
  show entry (diagonal6 1 1) r c = (1 : Matrix (Fin 6) (Fin 6) ℝ) r c
  rw [entry_diagonal6, Matrix.one_apply]
  split <;> simp

/-- The identity is accepted, and its minors are positive. -/
theorem identity_leadingMinor_pos :
    validateInformationMatrix exactDeterminant (diagonal6 1 1) = none ∧
      0 < leadingMinor (matrix6 (diagonal6 1 1)) (show 3 ≤ 6 by decide) := by
  have haccepted : validateInformationMatrix exactDeterminant (diagonal6 1 1) = none :=
    (validate_diagonal6 (by norm_num)).mpr (by norm_num)
  have hsymmetric : ∀ r c, entry (diagonal6 (1 : ℝ) 1) r c = entry (diagonal6 1 1) c r := by
    intro r c
    rw [entry_diagonal6, entry_diagonal6]
    grind
  have hdefinite : (matrix6 (diagonal6 1 1)).PosDef := by
    rw [matrix6_diagonal6]
    exact Matrix.PosDef.one
  exact ⟨haccepted, (accepted_posDef_iff (diagonal6 1 1) 1e-9 hsymmetric haccepted).mp hdefinite 3 _
    (by decide) (by decide)⟩

/-! ## Directions that lie off the diagonal

A matrix with a positive diagonal and a positive determinant, which is negative
in some directions. -/

/-- Two directions of the position are confounded with two turns. -/
noncomputable def confounded : Vector ℝ 36 := #v[
  1, 0, 0, 2.0, 0, 0,
  0, 1, 0, 0, 2.0, 0,
  0, 0, 1, 0, 0, 0,
  2.0, 0, 0, 1, 0, 0,
  0, 2.0, 0, 0, 1, 0,
  0, 0, 0, 0, 0, 1]

/-- The same matrix, direction by direction. -/
theorem matrix6_confounded : matrix6 confounded =
    (Matrix.blockDiagonal ![!![1, 2.0; 2.0, 1], !![1, 2.0; 2.0, 1], 1]).submatrix
      (finProdFinEquiv (m := 2) (n := 3)).symm (finProdFinEquiv (m := 2) (n := 3)).symm := by
  ext r c
  fin_cases r <;> fin_cases c <;> rfl

theorem det_confounded : (matrix6 confounded).det = 9 := by
  rw [matrix6_confounded, Matrix.det_submatrix_equiv_self, Matrix.det_blockDiagonal]
  simp [Fin.prod_univ_succ, Matrix.det_fin_two]
  norm_num

/-- The matrix is accepted, and yet it is negative where a move and a turn cancel each other. -/
theorem confounded_accepted :
    (∀ r c, entry confounded r c = entry confounded c r) ∧
      validateInformationMatrix exactDeterminant confounded = none ∧
      ¬ (matrix6 confounded).PosDef := by
  have hsymmetric : ∀ r c, entry confounded r c = entry confounded c r := by
    intro r c
    fin_cases r <;> fin_cases c <;> rfl
  refine ⟨hsymmetric, ?_, ?_⟩
  · have hdiagonal : ∀ i, entry confounded i i = 1 := by
      intro i
      fin_cases i <;> rfl
    have hfinite : confounded.toList.any (!Double.isFinite ·) = false :=
      List.any_eq_false.mpr fun a _ => by simp [Double.isFinite]
    have hdet : exactDeterminant confounded = 9 := det_confounded
    unfold validateInformationMatrix
    rw [hfinite, isApproxSymmetric_of_symmetric hsymmetric]
    simp only [hdiagonal, hdet]
    norm_num [Double.isFinite]
  · intro h
    have hpos := h.dotProduct_mulVec_pos (x := ![1, 0, 0, -1, 0, 0]) (fun hzero => by
      simpa using congrFun hzero 0)
    rw [show matrix6 confounded = !![
      1, 0, 0, 2.0, 0, 0; 0, 1, 0, 0, 2.0, 0; 0, 0, 1, 0, 0, 0;
      2.0, 0, 0, 1, 0, 0; 0, 2.0, 0, 0, 1, 0; 0, 0, 0, 0, 0, 1] from by
        ext r c; fin_cases r <;> fin_cases c <;> rfl] at hpos
    simp [Matrix.mulVec, dotProduct, Fin.sum_univ_succ] at hpos
    norm_num at hpos

end SpatialPlatform.Core
