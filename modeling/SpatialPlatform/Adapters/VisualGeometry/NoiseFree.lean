import Mathlib.LinearAlgebra.Matrix.NonsingularInverse
import SpatialPlatform.Adapters.VisualGeometry.GeometricVerifier

/-!
# Correspondences without noise

What `EssentialGeometricVerifier` makes of correspondences that are the images
of points in front of both cameras, when nothing is rounded: a pose that it
returns is that of the cameras.

* `poseOf_noiseFree` — the pose of an essential matrix.
* `verifyEssential_noiseFree` — the pose of a verified closure.
-/

namespace SpatialPlatform.Adapters.VisualGeometry

open SpatialPlatform.Core SpatialPlatform.Core.Geometry SpatialPlatform.Core.LoopClosureDetection
open SpatialPlatform.Lib
open scoped Matrix BigOperators

/-- A row of the design matrix times the model. -/
noncomputable def dot9 (row v : Vector ℝ 9) : ℝ := ∑ i : Fin 9, row.get i * v.get i

/-! ## From an essential matrix to the pose

The inliers are rays that meet in front of both cameras, so the pose wins the
vote if enough of them are far from parallel; the guards of the verifier are
met. -/

/-- The images of a point in front of both cameras, in normalized coordinates. -/
structure RelativeView.Shows (view : RelativeView) (pair : PointPair ℝ) : Prop where
  depths : ∃ zs zt : ℝ, 0 < zs ∧ 0 < zt ∧
    add3 (mulVec3 view.rotation (scale3 zs pair.src)) view.translation = scale3 zt pair.tgt
  plane : pair.src 2 = 1 ∧ pair.tgt 2 = 1

/-- The relative transform of the platform. -/
noncomputable def RelativeView.pose (view : RelativeView) : UnitRelativePose ℝ where
  rotationXyzw := normalized (fromRotationMatrix (transpose3 view.rotation))
  translationDirectionXyz := neg3 (mulVec3 (transpose3 view.rotation) view.translation)

/-- The ray of a point in the image plane. -/
theorem rayOf_eq {xn : Vector ℝ 3} (h : xn 2 = 1) :
    0 < norm3 xn ∧ rayOf xn = scale3 (norm3 xn)⁻¹ xn := by
  refine ⟨?_, div3_eq_scale3 _ _⟩
  rw [norm3_real, Real.sqrt_pos, dot3_real, h]
  nlinarith [mul_self_nonneg (xn 0), mul_self_nonneg (xn 1)]

theorem RelativeView.Shows.sees {view : RelativeView} {pair : PointPair ℝ} (h : view.Shows pair)
    (inlier : Bool) : view.Sees ⟨rayOf pair.src, rayOf pair.tgt, inlier⟩ := by
  obtain ⟨⟨zs, zt, hzs, hzt, hpoint⟩, hsrc, htgt⟩ := h
  obtain ⟨hs, hrayS⟩ := rayOf_eq hsrc
  obtain ⟨ht, hrayT⟩ := rayOf_eq htgt
  refine ⟨⟨zs * norm3 pair.src, zt * norm3 pair.tgt, mul_pos hzs hs, mul_pos hzt ht, ?_⟩, ?_, ?_⟩
  · show add3 (mulVec3 view.rotation (scale3 _ (rayOf pair.src))) view.translation =
      scale3 _ (rayOf pair.tgt)
    rw [hrayS, hrayT, scale3_scale3, scale3_scale3, mul_assoc, mul_assoc, mul_inv_cancel₀ hs.ne',
      mul_inv_cancel₀ ht.ne', mul_one, mul_one, hpoint]
  · show 0 < rayOf pair.src 2
    rw [hrayS]
    show 0 < (norm3 pair.src)⁻¹ * pair.src 2
    rw [hsrc, mul_one]
    exact inv_pos.mpr hs
  · show 0 < rayOf pair.tgt 2
    rw [hrayT]
    show 0 < (norm3 pair.tgt)⁻¹ * pair.tgt 2
    rw [htgt, mul_one]
    exact inv_pos.mpr ht

/-- The rays of the correspondences, with the inliers of a model. -/
noncomputable def raysOf (pairs : List (PointPair ℝ)) (s : ScoredModel ℝ) : List (RayPair ℝ) :=
  List.zipWith (fun pair inlier => ⟨rayOf pair.src, rayOf pair.tgt, inlier⟩) pairs s.inlier

theorem norm3_pose (view : RelativeView) : norm3 view.pose.translationDirectionXyz = 1 := by
  rw [norm3_real, Real.sqrt_eq_one, dot3_eq_dotProduct, RelativeView.pose, toFun3_neg3,
    neg_dotProduct_neg, toFun3_mulVec3, toMatrix_transpose3,
    Epipolar.dotProduct_transpose_mulVec view.orthogonal, ← dot3_eq_dotProduct, view.unit]

theorem poseOf_of_shows {lib : NumericLibrary ℝ} {view : RelativeView} {c : ℝ}
    {pairs : List (PointPair ℝ)} {s : ScoredModel ℝ} (hlib : lib.Decomposes s.model) (hc : c ≠ 0)
    (hmodel : toMatrix s.model = c • view.essential) (hsize : ¬ norm9 s.model < 1e-12)
    (hshows : ∀ x ∈ pairs.zip s.inlier, x.2 = true → view.Shows x.1) :
    poseOf lib pairs s =
      if inlierTotal (raysOf pairs s) < view.wideTotal (raysOf pairs s) * 2 then .ok view.pose
      else .error "ambiguous_cheirality" := by
  have hsees : ∀ pair ∈ raysOf pairs s, pair.inlier = true → view.Sees pair := by
    intro pair hmem hinlier
    rw [raysOf, ← List.map_uncurry_zip_eq_zipWith] at hmem
    obtain ⟨x, hx, rfl⟩ := List.mem_map.mp hmem
    exact (hshows x hx hinlier).sees _
  have hfinite : s.model.toList.all allFinite = true :=
    List.all_eq_true.mpr fun a _ => allFinite_real a
  have hunit : norm3 view.translation = 1 := by rw [norm3_real, view.unit, Real.sqrt_one]
  have hwinner := voteCheirality_decomposeEssential hlib hc hmodel hsees
  unfold poseOf
  simp only [hfinite, Bool.not_true, Bool.false_or, decide_eq_true_eq, if_neg hsize]
  rw [show List.zipWith (fun pair inlier => RayPair.mk (rayOf pair.src) (rayOf pair.tgt) inlier)
    pairs s.inlier = raysOf pairs s from rfl]
  split_ifs with hmost
  · rw [(hwinner (view.rotation, view.translation)).mpr ⟨rfl, hmost⟩]
    exact toUnitRelativePose_real hunit rfl (norm3_pose view)
  · have hnone : voteCheirality (decomposeEssential lib s.model) (raysOf pairs s) = none := by
      rw [Option.eq_none_iff_forall_ne_some]
      intro winner hsome
      exact hmost ((hwinner winner).mp hsome).2
    rw [hnone]

/-- **The pose of an essential matrix.** Let the model be a multiple of the
essential matrix of the cameras, and its inliers images of points in front of
both. Then no pose but that of the cameras comes out, and it does exactly if the
rays of more than half of the inliers are far enough from parallel. -/
theorem poseOf_noiseFree {lib : NumericLibrary ℝ} {view : RelativeView} {c : ℝ}
    {pairs : List (PointPair ℝ)} {s : ScoredModel ℝ} (hlib : lib.Decomposes s.model) (hc : c ≠ 0)
    (hmodel : toMatrix s.model = c • view.essential) (hsize : ¬ norm9 s.model < 1e-12)
    (hshows : ∀ x ∈ pairs.zip s.inlier, x.2 = true → view.Shows x.1) (pose : UnitRelativePose ℝ) :
    poseOf lib pairs s = .ok pose ↔
      pose = view.pose ∧ inlierTotal (raysOf pairs s) < view.wideTotal (raysOf pairs s) * 2 := by
  rw [poseOf_of_shows hlib hc hmodel hsize hshows]
  split_ifs with hmost
  · simp only [Except.ok.injEq, hmost, and_true]
    exact eq_comm
  · simp [hmost]

/-! Two cameras side by side that look in the same direction. -/

theorem toMatrix_noRotation : toMatrix noRotation = 1 := by
  ext i j
  fin_cases i <;> fin_cases j <;> simp [toMatrix, noRotation, Vector.get_val]

/-- The second camera is to the right of the first one. -/
noncomputable def sideView : RelativeView where
  rotation := noRotation
  translation := .triple (-1) 0 0
  orthogonal := by rw [toMatrix_noRotation, Matrix.transpose_one, Matrix.one_mul]
  det := by rw [toMatrix_noRotation, Matrix.det_one]
  unit := by simp [dot3_real]

private noncomputable def sideU : Mat3 ℝ := .triple (.triple 0 0 1) (.triple 1 0 0) (.triple 0 1 0)

private noncomputable def sideV : Mat3 ℝ := .triple (.triple 0 0 1) (.triple 0 1 0) (.triple (-1) 0 0)

/-- Singular vectors of the multiples of the essential matrix, and a vector of the kernel. -/
noncomputable def sideLibrary : NumericLibrary ℝ where
  hypot x y := Real.sqrt (x * x + y * y)
  lastColumn rows := Classical.epsilon fun v => (∃ i, v.get i ≠ 0) ∧ ∀ row ∈ rows, dot9 row v = 0
  svd3 e :=
    let k := e 2 1
    if 0 ≤ k then (sideU, .triple k k 0, sideV) else (sideU, .triple (-k) (-k) 0, sideV.map neg3)

private noncomputable def sideModel : Mat3 ℝ :=
  .triple (.triple 0 0 0) (.triple 0 0 (-1)) (.triple 0 1 0)

/-- The first camera sees a point at `x` and `y`, the second one at `x - d` and `y`. -/
private noncomputable def shifted (x y d : ℝ) : PointPair ℝ :=
  ⟨.triple x y 1, .triple (x - d) y 1, .triple x y 1, .triple (x - d) y 1⟩

private theorem shows_shifted (x y : ℝ) {d : ℝ} (hd : 0 < d) : sideView.Shows (shifted x y d) := by
  refine ⟨⟨d⁻¹, d⁻¹, inv_pos.mpr hd, inv_pos.mpr hd, ?_⟩, rfl, rfl⟩
  apply vec3_ext <;> simp [sideView, shifted, noRotation, mulVec3, dot3_real, scale3, add3]
  rw [mul_sub, inv_mul_cancel₀ hd.ne', sub_eq_add_neg]

private theorem essential_sideView : sideView.essential = !![0, 0, 0; 0, 0, 1; 0, -1, 0] := by
  rw [RelativeView.essential, show toMatrix sideView.rotation = 1 from toMatrix_noRotation,
    Matrix.mul_one]
  ext i j
  fin_cases i <;> fin_cases j <;> simp [toFun3, sideView, Epipolar.skew_eq, Vector.get_val]

private theorem sideU_orthogonal : toMatrix sideU * (toMatrix sideU)ᵀ = 1 := by
  ext i j
  fin_cases i <;> fin_cases j <;>
    simp [toMatrix, sideU, Matrix.mul_apply, Fin.sum_univ_three, Vector.get_val]

private theorem sideV_orthogonal : toMatrix sideV * (toMatrix sideV)ᵀ = 1 := by
  ext i j
  fin_cases i <;> fin_cases j <;>
    simp [toMatrix, sideV, Matrix.mul_apply, Fin.sum_univ_three, Vector.get_val]

private theorem sideU_mul_sideV (k : ℝ) :
    toMatrix sideU * Matrix.diagonal (toFun3 (.triple k k 0)) * (toMatrix sideV)ᵀ =
      !![0, 0, 0; 0, 0, -k; 0, k, 0] := by
  ext i j
  fin_cases i <;> fin_cases j <;>
    simp [toMatrix, toFun3, sideU, sideV, Matrix.mul_apply, Fin.sum_univ_three, Matrix.diagonal,
      Vector.get_val]

private theorem decomposes_side {e : Mat3 ℝ} {c : ℝ} (h : toMatrix e = c • sideView.essential) :
    sideLibrary.Decomposes e := by
  have hk : e 2 1 = -c := by
    have hentry : toMatrix e 2 1 = (c • sideView.essential) 2 1 := congrFun₂ h 2 1
    rw [essential_sideView] at hentry
    exact hentry.trans (by simp)
  have he : toMatrix e = !![0, 0, 0; 0, 0, -(e 2 1); 0, e 2 1, 0] := by
    rw [h, essential_sideView, hk]
    simp
  unfold NumericLibrary.Decomposes sideLibrary
  rw [he]
  simp only
  split_ifs with hsign
  · exact ⟨sideU_orthogonal, sideV_orthogonal, (sideU_mul_sideV _).symm, le_rfl, hsign, le_rfl⟩
  · refine ⟨sideU_orthogonal, ?_, ?_, le_rfl, ?_, le_rfl⟩
    · rw [toMatrix_map_neg3, Matrix.transpose_neg, neg_mul_neg, sideV_orthogonal]
    · rw [toMatrix_map_neg3, Matrix.transpose_neg, Matrix.mul_neg, sideU_mul_sideV]
      simp
    · exact neg_nonneg.mpr (not_le.mp hsign).le

private theorem sideModel_eq : toMatrix sideModel = (-1 : ℝ) • sideView.essential := by
  rw [essential_sideView]
  ext i j
  fin_cases i <;> fin_cases j <;> simp [toMatrix, sideModel, Vector.get_val]

/-- Their rays are far enough from parallel, unless they are seen in almost the same place. -/
private theorem wide_shifted {x y d : ℝ}
    (h : 1e-12 * ((x * x + y * y + 1) * ((x - d) * (x - d) + y * y + 1)) ≤ d * d * (y * y + 1)) :
    sideView.Wide ⟨rayOf (shifted x y d).src, rayOf (shifted x y d).tgt, true⟩ := by
  obtain ⟨u, hu⟩ : ∃ u : Vector ℝ 3, u = .triple x y 1 := ⟨_, rfl⟩
  obtain ⟨v, hv⟩ : ∃ v : Vector ℝ 3, v = .triple (x - d) y 1 := ⟨_, rfl⟩
  show 1e-12 ≤ spread (rayOf (.triple x y 1)) (seenFromSource (rayOf (.triple (x - d) y 1)) noRotation)
  rw [seenFromSource_noRotation, ← hu, ← hv]
  have huu : dot3 u u = x * x + y * y + 1 := by rw [hu, dot3_mk]; ring
  have hvv : dot3 v v = (x - d) * (x - d) + y * y + 1 := by rw [hv, dot3_mk]; ring
  have hcross : spread u v = d * d * (y * y + 1) := by
    rw [spread, hu, hv, dot3_mk, dot3_mk, dot3_mk]
    ring
  obtain ⟨-, hrayU⟩ := rayOf_eq (show u 2 = 1 by rw [hu]; rfl)
  obtain ⟨-, hrayV⟩ := rayOf_eq (show v 2 = 1 by rw [hv]; rfl)
  -- the rays are shorter by their norms
  have hspread : spread (rayOf u) (rayOf v) = spread u v / (dot3 u u * dot3 v v) := by
    rw [hrayU, hrayV, ← norm3_mul_self u, ← norm3_mul_self v]
    simp only [spread, dot3_real, scale3]
    simp
    ring
  rw [hspread, le_div_iff₀, hcross, huu, hvv]
  · exact h
  · rw [huu, hvv]
    have hx := mul_self_nonneg x
    have hd := mul_self_nonneg (x - d)
    have hy := mul_self_nonneg y
    exact mul_pos (by linarith) (by linarith)

private theorem norm9_sideModel : ¬ norm9 sideModel < 1e-12 := by
  have hone : 1 ≤ norm9 sideModel := by
    show 1 ≤ Real.sqrt (dot3 (sideModel 0) (sideModel 0) + dot3 (sideModel 1) (sideModel 1) +
      dot3 (sideModel 2) (sideModel 2))
    rw [Real.one_le_sqrt, dot3_real, dot3_real, dot3_real]
    norm_num [sideModel]
  exact not_lt.mpr (le_trans (by norm_num) hone)

/-- Two near points, one so far away that its rays are almost parallel, and a wrong correspondence. -/
private noncomputable def sidePairs : List (PointPair ℝ) :=
  [shifted 0.75 0 0.75, shifted 0 0 0.75, shifted 0 0.5 1e-7,
    ⟨.triple 0 0 1, .triple 0 1 1, .triple 0 0 1, .triple 0 1 1⟩]

/-- The direction from the first camera to the second one, by the votes of two of three inliers. -/
theorem poseOf_noiseFree_side :
    ∃ pose, poseOf sideLibrary sidePairs ⟨sideModel, [true, true, true, false], 3, 0⟩ = .ok pose ∧
      pose.translationDirectionXyz = .triple 1 0 0 := by
  have hshows : ∀ x ∈ sidePairs.zip [true, true, true, false], x.2 = true → sideView.Shows x.1 := by
    simp only [sidePairs, List.zip_cons_cons, List.zip_nil_left, List.forall_mem_cons]
    refine ⟨fun _ => shows_shifted _ _ (by norm_num), fun _ => shows_shifted _ _ (by norm_num),
      fun _ => shows_shifted _ _ (by norm_num), nofun, nofun⟩
  have hpose := @poseOf_noiseFree sideLibrary sideView (-1) sidePairs
    ⟨sideModel, [true, true, true, false], 3, 0⟩ (decomposes_side sideModel_eq) (by norm_num)
    sideModel_eq norm9_sideModel hshows sideView.pose
  have hmost : inlierTotal (raysOf sidePairs ⟨sideModel, [true, true, true, false], 3, 0⟩) <
      sideView.wideTotal (raysOf sidePairs ⟨sideModel, [true, true, true, false], 3, 0⟩) * 2 := by
    have hthree : inlierTotal (raysOf sidePairs ⟨sideModel, [true, true, true, false], 3, 0⟩) = 3 := rfl
    have htwo : 2 ≤ sideView.wideTotal (raysOf sidePairs ⟨sideModel, [true, true, true, false], 3, 0⟩) := by
      rw [RelativeView.wideTotal, raysOf, sidePairs, List.zipWith_cons_cons, List.zipWith_cons_cons,
        List.countP_cons_of_pos (by simpa using wide_shifted (by norm_num)),
        List.countP_cons_of_pos (by simpa using wide_shifted (by norm_num))]
      exact Nat.le_add_left 2 _
    omega
  refine ⟨sideView.pose, hpose.mpr ⟨rfl, hmost⟩, ?_⟩
  apply vec3_ext <;>
    simp [RelativeView.pose, sideView, noRotation, transpose3, mulVec3, dot3_real, neg3]

/-! ## From correspondences to the essential matrix

The points are normalized before the equations are solved, so the kernel is that
of transformed points. The normalizations are invertible, hence what the solver
returns is the essential matrix of the points as they were, up to a factor. -/

/-- What Eigen documents of `JacobiSVD`: a matrix that vanishes somewhere
vanishes at the last right singular vector. -/
def NumericLibrary.FindsKernel (lib : NumericLibrary ℝ) : Prop :=
  ∀ rows : List (Vector ℝ 9), (∃ w : Vector ℝ 9, (∃ i, w.get i ≠ 0) ∧ ∀ row ∈ rows, dot9 row w = 0) →
    ∀ row ∈ rows, dot9 row (lib.lastColumn rows) = 0

theorem dot9_designRow {x xp : Vector ℝ 3} (hx : x 2 = 1) (hxp : xp 2 = 1) (v : Vector ℝ 9) :
    dot9 (designRow x xp) v = toFun3 xp ⬝ᵥ toMatrix (fromRows v) *ᵥ toFun3 x := by
  have hone : (1.0 : ℝ) = 1 := by norm_num
  simp only [dot9, Fin.sum_univ_succ, Fin.sum_univ_zero, dotProduct, Matrix.mulVec, toMatrix, toFun3,
    designRow, fromRows, Vector.get_val]
  simp [hone, hx, hxp]
  ring

/-- Nine numbers for the rows of a matrix. -/
theorem exists_fromRows (m : Matrix (Fin 3) (Fin 3) ℝ) : ∃ v : Vector ℝ 9, toMatrix (fromRows v) = m := by
  refine ⟨⟨#[m 0 0, m 0 1, m 0 2, m 1 0, m 1 1, m 1 2, m 2 0, m 2 1, m 2 2], rfl⟩, ?_⟩
  ext i j
  fin_cases i <;> fin_cases j <;> rfl

/-- Not all of them are zero unless the matrix is. -/
theorem exists_get_ne_zero {v : Vector ℝ 9} (h : toMatrix (fromRows v) ≠ 0) : ∃ i, v.get i ≠ 0 := by
  by_contra hall
  have hnone : ∀ i, v.get i = 0 := fun i => by_contra fun hi => hall ⟨i, hi⟩
  refine h ?_
  ext i j
  fin_cases i <;> fin_cases j
  · exact hnone 0
  · exact hnone 1
  · exact hnone 2
  · exact hnone 3
  · exact hnone 4
  · exact hnone 5
  · exact hnone 6
  · exact hnone 7
  · exact hnone 8

/-- A normalization is invertible and stays in the image plane. -/
theorem normalizePoints_spec {lib : NumericLibrary ℝ} {pts : List (Vector ℝ 3)}
    (h : (normalizePoints lib pts).degeneracyGuardNeeded = false) :
    (toMatrix (normalizePoints lib pts).t).det ≠ 0 ∧
      ∀ x, mulVec3 (normalizePoints lib pts).t x 2 = x 2 := by
  have hone : (1.0 : ℝ) = 1 := by norm_num
  have hzero : (0.0 : ℝ) = 0 := by norm_num
  have hidentity : ∀ s a b : ℝ, s ≠ 0 →
      (toMatrix (.triple (.triple s 0.0 a) (.triple 0.0 s b) (.triple 0.0 0.0 1.0))).det ≠ 0 ∧
        ∀ x, mulVec3 (.triple (.triple s 0.0 a) (.triple 0.0 s b) (.triple 0.0 0.0 1.0)) x 2 = x 2 := by
    intro s a b hs
    refine ⟨?_, fun x => ?_⟩
    · rw [Matrix.det_fin_three]
      simp [toMatrix, Vector.get_val, hone, hzero, hs]
    · simp [mulVec3, dot3_real, hone, hzero]
  unfold normalizePoints at h ⊢
  simp only at h ⊢
  split_ifs at h ⊢ with hfew hguard
  · exact hidentity 1.0 0.0 0.0 (by norm_num)
  · have hroot : Real.sqrt 2.0 ≠ 0 := (Real.sqrt_pos.mpr (by norm_num)).ne'
    simp only [Bool.or_eq_true, decide_eq_true_eq, not_or, not_lt] at hguard
    exact hidentity _ _ _ (div_ne_zero hroot (lt_of_lt_of_le (by norm_num) hguard.2).ne')

namespace RelativeView

variable (view : RelativeView)

/-- Only multiples of the essential matrix vanish at all of these correspondences. -/
def DeterminedBy (pairs : List (PointPair ℝ)) : Prop :=
  ∀ m : Matrix (Fin 3) (Fin 3) ℝ,
    (∀ pair ∈ pairs, toFun3 pair.tgt ⬝ᵥ m *ᵥ toFun3 pair.src = 0) → ∃ c : ℝ, m = c • view.essential

variable {view}

/-- The epipolar constraint. -/
theorem Shows.epipolar {pair : PointPair ℝ} (h : view.Shows pair) :
    toFun3 pair.tgt ⬝ᵥ view.essential *ᵥ toFun3 pair.src = 0 := by
  obtain ⟨⟨zs, zt, hzs, hzt, hpoint⟩, -, -⟩ := h
  have hfun := congrArg toFun3 hpoint
  rw [toFun3_add3, mulVec3_scale3, toFun3_scale3, toFun3_scale3, toFun3_mulVec3] at hfun
  obtain ⟨y, hy⟩ : ∃ y, y = toMatrix view.rotation *ᵥ toFun3 pair.src := ⟨_, rfl⟩
  rw [← hy] at hfun
  have hscaled : zt • (toFun3 pair.tgt ⬝ᵥ toFun3 view.translation ⨯₃ y) = 0 := by
    rw [← smul_dotProduct, ← hfun, add_dotProduct, smul_dotProduct, dot_self_cross,
      dot_cross_self]
    simp
  rw [essential, ← Matrix.mulVec_mulVec, ← hy, Epipolar.skew_mulVec]
  exact (smul_eq_zero.mp hscaled).resolve_left hzt.ne'

end RelativeView

theorem RelativeView.essential_ne_zero (view : RelativeView) : view.essential ≠ 0 := by
  intro hzero
  have hskew : Epipolar.skew (toFun3 view.translation) = 0 := by
    have hback := congrArg (· * (toMatrix view.rotation)ᵀ) hzero
    simpa [essential, Matrix.mul_assoc, view.orthogonal] using hback
  have hunit := view.unit
  have h0 := congrFun₂ hskew 2 1
  have h1 := congrFun₂ hskew 0 2
  have h2 := congrFun₂ hskew 1 0
  simp [Epipolar.skew_eq] at h0 h1 h2
  rw [dot3_eq_dotProduct, dotProduct, Fin.sum_univ_three, h0, h1, h2] at hunit
  norm_num at hunit

theorem mulVec_dotProduct_mulVec (a m b : Matrix (Fin 3) (Fin 3) ℝ) (x y : Fin 3 → ℝ) :
    (a *ᵥ y) ⬝ᵥ m *ᵥ (b *ᵥ x) = y ⬝ᵥ (aᵀ * m * b) *ᵥ x := by
  rw [← Matrix.mulVec_mulVec, ← Matrix.mulVec_mulVec, Matrix.dotProduct_mulVec y,
    Matrix.vecMul_transpose]

/-- Every matrix is that of transformed points, when the transformations are invertible. -/
theorem exists_transformed {a b : Matrix (Fin 3) (Fin 3) ℝ} (ha : a.det ≠ 0) (hb : b.det ≠ 0)
    (m : Matrix (Fin 3) (Fin 3) ℝ) : ∃ n, aᵀ * n * b = m := by
  have ha' : IsUnit aᵀ.det := by
    rw [Matrix.det_transpose]
    exact ha.isUnit
  refine ⟨aᵀ⁻¹ * m * b⁻¹, ?_⟩
  rw [Matrix.mul_assoc, Matrix.mul_assoc, Matrix.nonsing_inv_mul _ hb.isUnit, Matrix.mul_one,
    ← Matrix.mul_assoc, Matrix.mul_nonsing_inv _ ha', Matrix.one_mul]

theorem norm9_of_zero {e : Mat3 ℝ} (h : toMatrix e = 0) : norm9 e = 0 := by
  have hrow : ∀ i, toFun3 (e.get i) = 0 := fun i => congrFun h i
  have hdot : ∀ i, dot3 (e.get i) (e.get i) = 0 := by
    intro i
    rw [dot3_eq_dotProduct, hrow, zero_dotProduct]
  show Real.sqrt (dot3 (e.get 0) (e.get 0) + dot3 (e.get 1) (e.get 1) + dot3 (e.get 2) (e.get 2)) = 0
  rw [hdot, hdot, hdot, add_zero, add_zero, Real.sqrt_zero]

/-- The estimate from correspondences without noise is a multiple of the essential matrix. -/
theorem estimateEssential_noiseFree {lib : NumericLibrary ℝ} {view : RelativeView}
    {pairs : List (PointPair ℝ)} {e : Mat3 ℝ} (hlib : lib.FindsKernel)
    (hshows : ∀ pair ∈ pairs, view.Shows pair) (hgeneral : view.DeterminedBy pairs)
    (h : estimateEssential lib (pairs.map PointPair.src) (pairs.map PointPair.tgt) = some e) :
    ¬ norm9 e < 1e-12 ∧ ∃ c : ℝ, c ≠ 0 ∧ toMatrix e = c • view.essential := by
  obtain ⟨fit, hfit, h⟩ := Option.bind_eq_some_iff.mp h
  unfold eightPoint at hfit
  simp only at hfit h
  split_ifs at hfit with hguard
  split_ifs at h with hfinite hsize
  obtain ⟨hguardS, hguardT⟩ : (normalizePoints lib (pairs.map PointPair.src)).degeneracyGuardNeeded =
      false ∧ (normalizePoints lib (pairs.map PointPair.tgt)).degeneracyGuardNeeded = false := by
    simpa using hguard
  obtain ⟨hdetS, hplaneS⟩ := normalizePoints_spec hguardS
  obtain ⟨hdetT, hplaneT⟩ := normalizePoints_spec hguardT
  obtain ⟨tS, htS⟩ : ∃ tS, tS = (normalizePoints lib (pairs.map PointPair.src)).t := ⟨_, rfl⟩
  obtain ⟨tT, htT⟩ : ∃ tT, tT = (normalizePoints lib (pairs.map PointPair.tgt)).t := ⟨_, rfl⟩
  rw [← htS] at hfit hdetS hplaneS
  rw [← htT] at hfit hdetT hplaneT
  rw [List.zipWith_map_left, List.zipWith_map_right, List.zipWith_self] at hfit
  obtain ⟨v, hv⟩ : ∃ v, v = lib.lastColumn
    (pairs.map fun pair => designRow (mulVec3 tS pair.src) (mulVec3 tT pair.tgt)) := ⟨_, rfl⟩
  rw [← hv] at hfit
  cases hfit
  cases h
  have hentry : ∀ pair ∈ pairs, ∀ w : Vector ℝ 9,
      dot9 (designRow (mulVec3 tS pair.src) (mulVec3 tT pair.tgt)) w =
        toFun3 pair.tgt ⬝ᵥ ((toMatrix tT)ᵀ * toMatrix (fromRows w) * toMatrix tS) *ᵥ toFun3 pair.src := by
    intro pair hpair w
    obtain ⟨-, hsrc, htgt⟩ := hshows pair hpair
    rw [dot9_designRow ((hplaneS _).trans hsrc) ((hplaneT _).trans htgt), toFun3_mulVec3,
      toFun3_mulVec3, mulVec_dotProduct_mulVec]
  -- the essential matrix of the normalized points
  obtain ⟨n, hn⟩ := exists_transformed hdetT hdetS view.essential
  obtain ⟨e, rfl⟩ := exists_fromRows n
  have hkernel := hlib (pairs.map fun pair => designRow (mulVec3 tS pair.src) (mulVec3 tT pair.tgt))
    ⟨e, ?_, ?_⟩
  · have hmatrix : toMatrix (mulMat3 (mulMat3 (transpose3 tT) (fromRows v)) tS) =
        (toMatrix tT)ᵀ * toMatrix (fromRows v) * toMatrix tS := by
      rw [toMatrix_mulMat3, toMatrix_mulMat3, toMatrix_transpose3]
    obtain ⟨c, hc⟩ := hgeneral ((toMatrix tT)ᵀ * toMatrix (fromRows v) * toMatrix tS) fun pair hpair => by
      rw [← hentry pair hpair, hv]
      exact hkernel _ (List.mem_map_of_mem hpair)
    rw [← hmatrix] at hc
    refine ⟨hsize, c, fun hzero => hsize ?_, hc⟩
    rw [hzero, zero_smul] at hc
    rw [norm9_of_zero hc]
    norm_num
  · refine exists_get_ne_zero fun hzero => view.essential_ne_zero ?_
    rw [← hn, hzero, Matrix.mul_zero, Matrix.zero_mul]
  · intro row hrow
    obtain ⟨pair, hpair, rfl⟩ := List.mem_map.mp hrow
    rw [hentry pair hpair, hn]
    exact (hshows pair hpair).epipolar

/-! ## From correspondences to the pose

Whatever the search samples, its result was fitted to eight correspondences at
least; so it is a multiple of the essential matrix, and the first section says
what becomes of it. -/

/-- The pose of a verified closure is that of the model of its search. -/
theorem exists_poseOf {R : Type} [DoubleTrig R] {lib : NumericLibrary R}
    {input : LoopClosureVerificationInput R} {options : GeometricVerificationOptions R}
    {sourceCamera targetCamera : ReconCamera R} {srcModel tgtModel : CameraModel R} :
    let res := essentialResult lib input options sourceCamera targetCamera srcModel tgtModel
    res.unitRelativePose = none ∨ ∃ ransac pose,
      robustEssential lib (inverse3 (intrinsicsMatrix sourceCamera))
        (transpose3 (inverse3 (intrinsicsMatrix targetCamera))) (essentialPairs input srcModel tgtModel)
        options = some ransac ∧
      poseOf lib (essentialPairs input srcModel tgtModel) ransac = .ok pose ∧
        res.unitRelativePose = some pose := by
  intro res
  simp only [res]
  unfold essentialResult
  simp only
  split
  · exact .inl rfl
  · split
    · exact .inl rfl
    · next ransac hsearch =>
        split
        · exact .inl rfl
        · split
          · exact .inl rfl
          · next pose hpose => exact .inr ⟨ransac, pose, hsearch, hpose, rfl⟩

/-- The model of a search, when any eight correspondences determine it. -/
theorem robustEssential_noiseFree {lib : NumericLibrary ℝ} {ksInv ktInvT : Mat3 ℝ}
    {view : RelativeView} {pairs : List (PointPair ℝ)} {options : GeometricVerificationOptions ℝ}
    {s : ScoredModel ℝ} (hlib : lib.FindsKernel) (hshows : ∀ pair ∈ pairs, view.Shows pair)
    (hgeneral : ∀ chosen, chosen.Sublist pairs → 8 ≤ chosen.length → view.DeterminedBy chosen)
    (h : robustEssential lib ksInv ktInvT pairs options = some s) :
    ¬ norm9 s.model < 1e-12 ∧ ∃ c : ℝ, c ≠ 0 ∧ toMatrix s.model = c • view.essential := by
  obtain ⟨m, -, hcount, hfit⟩ := RobustEstimator.exists_refit _ h
  rw [List.countP_eq_length_filter] at hcount
  refine estimateEssential_noiseFree hlib (fun pair hmem => ?_)
    (hgeneral _ List.filter_sublist hcount) hfit
  exact hshows pair (List.mem_filter.mp hmem).1

/-- **Verified poses are right.** Let the correspondences be images of points in
front of both cameras, any eight of which determine the essential matrix, and
nothing be rounded. Then the verifier returns the pose of the cameras or none at
all, whatever the options are and whatever samples are drawn. -/
theorem verifyEssential_noiseFree {lib : NumericLibrary ℝ} {view : RelativeView}
    {input : LoopClosureVerificationInput ℝ} {options : GeometricVerificationOptions ℝ}
    {sourceCamera targetCamera : ReconCamera ℝ} {srcModel tgtModel : CameraModel ℝ}
    (hkernel : lib.FindsKernel)
    (hsvd : ∀ (e : Mat3 ℝ) (c : ℝ), c ≠ 0 → toMatrix e = c • view.essential → lib.Decomposes e)
    (hsource : input.sourceCamera = some sourceCamera)
    (htarget : input.targetCamera = some targetCamera)
    (hsrc : CameraModel.fromReconCamera sourceCamera = .ok srcModel)
    (htgt : CameraModel.fromReconCamera targetCamera = .ok tgtModel)
    (hshows : ∀ pair ∈ essentialPairs input srcModel tgtModel, view.Shows pair)
    (hgeneral : ∀ chosen, chosen.Sublist (essentialPairs input srcModel tgtModel) →
      8 ≤ chosen.length → view.DeterminedBy chosen)
    {res : GeometricVerificationResult ℝ} (h : verifyEssential lib input options = .ok res) :
    res.unitRelativePose = none ∨ res.unitRelativePose = some view.pose := by
  obtain ⟨-, -, h⟩ := bind_eq_ok_iff.mp h
  split at h
  · cases h
    exact .inl rfl
  · rw [hsource, htarget] at h
    simp only [hsrc, htgt] at h
    cases h
    rcases @exists_poseOf _ _ lib input options sourceCamera targetCamera srcModel tgtModel with
      hnone | ⟨ransac, pose, hsearch, hpose, hsome⟩
    · exact .inl hnone
    · right
      -- the model of the search is a multiple of the essential matrix, so its pose is exact
      obtain ⟨hsize, c, hc, hmodel⟩ := robustEssential_noiseFree hkernel hshows hgeneral hsearch
      have hexact := poseOf_of_shows (hsvd _ c hc hmodel) hc hmodel hsize
        fun x hx _ => hshows x.1 (List.of_mem_zip hx).1
      rw [hpose] at hexact
      split_ifs at hexact
      cases hexact
      exact hsome

/-! Eight points that the two cameras see. -/

private noncomputable def eightPairs : List (PointPair ℝ) :=
  [shifted 0 0 1, shifted 0 0 0.5, shifted 1 0 1, shifted 1 0 0.5, shifted 0 1 1, shifted 0 1 0.5,
    shifted 0 (-1) 1, shifted 1 1 1]

private theorem determined_eightPairs : sideView.DeterminedBy eightPairs := by
  intro m h
  have hpoint : ∀ x y d, shifted x y d ∈ eightPairs →
      (x - d) * (m 0 0 * x + m 0 1 * y + m 0 2) + y * (m 1 0 * x + m 1 1 * y + m 1 2) +
        (m 2 0 * x + m 2 1 * y + m 2 2) = 0 := by
    intro x y d hmem
    have hzero := h _ hmem
    rw [dotProduct, Fin.sum_univ_three] at hzero
    simp only [Matrix.mulVec, dotProduct, Fin.sum_univ_three, toFun3, shifted, Vector.get_val] at hzero
    simpa using hzero
  have h1 := hpoint 0 0 1 (by simp [eightPairs])
  have h2 := hpoint 0 0 0.5 (by simp [eightPairs])
  have h3 := hpoint 1 0 1 (by simp [eightPairs])
  have h4 := hpoint 1 0 0.5 (by simp [eightPairs])
  have h5 := hpoint 0 1 1 (by simp [eightPairs])
  have h6 := hpoint 0 1 0.5 (by simp [eightPairs])
  have h7 := hpoint 0 (-1) 1 (by simp [eightPairs])
  have h8 := hpoint 1 1 1 (by simp [eightPairs])
  refine ⟨m 1 2, ?_⟩
  rw [essential_sideView]
  ext i j
  fin_cases i <;> fin_cases j <;> simp <;> linarith

private noncomputable def sideCamera : ReconCamera ℝ where
  intrinsicModel := "pinhole"
  fx := 1
  fy := 1
  cx := 0
  cy := 0
  distortionModel := "none"

private noncomputable def sideIntrinsics : CameraIntrinsics ℝ :=
  ⟨1, 1, 0, 0, ((0 : Int) : ℝ), ((0 : Int) : ℝ)⟩

private theorem valid_sideIntrinsics : sideIntrinsics.valid = true := by
  simp [CameraIntrinsics.valid, sideIntrinsics, Double.isFinite]
  norm_num

private noncomputable def sideFrame (id : String) (points : List (FeatureKeypoint ℝ)) :
    MatchingFrameDescriptors ℝ where
  frameId := id
  keypoints := points
  descriptors := List.replicate 8 []

private noncomputable def sideInput : LoopClosureVerificationInput ℝ where
  candidate := { sourceFrameId := "s", targetFrameId := "t", featureMatchScore := 1, matcher := "" }
  source := sideFrame "s" (eightPairs.map fun pair => ⟨pair.src 0, pair.src 1⟩)
  target := sideFrame "t" (eightPairs.map fun pair => ⟨pair.tgt 0, pair.tgt 1⟩)
  correspondences := (List.range 8).map fun i => ⟨UInt32.ofNat i, UInt32.ofNat i, 0⟩
  sourceCamera := some sideCamera
  targetCamera := some sideCamera

private noncomputable def sideOptions : GeometricVerificationOptions ℝ where
  minCorrespondences := 8
  minInlierRatio := 0.7
  maxResidual := 4.0
  ransacInlierThreshold := 1
  verifyMinConfidence := 0.6

private theorem fromReconCamera_side :
    CameraModel.fromReconCamera sideCamera = .ok ⟨.pinhole, sideIntrinsics, valid_sideIntrinsics⟩ := by
  have hmodel : ¬ ("none" ≠ "none" ∧ "none" ≠ "") := by decide
  unfold CameraModel.fromReconCamera
  exact (if_pos rfl).trans ((if_neg hmodel).trans (dif_pos valid_sideIntrinsics))

/-- What the verifier makes of the keypoints of a pair. -/
private noncomputable def seenAgain (h : sideIntrinsics.valid = true) (pair : PointPair ℝ) :
    PointPair ℝ :=
  let src : FeatureKeypoint ℝ := ⟨pair.src 0, pair.src 1⟩
  let tgt : FeatureKeypoint ℝ := ⟨pair.tgt 0, pair.tgt 1⟩
  ⟨normalizedPoint ⟨.pinhole, sideIntrinsics, h⟩ src, normalizedPoint ⟨.pinhole, sideIntrinsics, h⟩ tgt,
    pixelPoint src, pixelPoint tgt⟩

private theorem seenAgain_shifted (h : sideIntrinsics.valid = true) (x y d : ℝ) :
    seenAgain h (shifted x y d) = shifted x y d := by
  have hone : (1.0 : ℝ) = 1 := by norm_num
  simp [seenAgain, shifted, normalizedPoint, pixelPoint, Distortion.undistortUnit, pixelToNormalized,
    sideIntrinsics, hone]

private theorem essentialPairs_side (h : sideIntrinsics.valid = true) :
    essentialPairs sideInput ⟨.pinhole, sideIntrinsics, h⟩ ⟨.pinhole, sideIntrinsics, h⟩ =
      eightPairs := by
  show eightPairs.map (seenAgain h) = eightPairs
  simp only [eightPairs, List.map_cons, List.map_nil, seenAgain_shifted]

/-- The verifier returns a result for them, and what it says of the pose is right. -/
theorem verifyEssential_noiseFree_eight : ∃ res,
    verifyEssential sideLibrary sideInput sideOptions = .ok res ∧
      (res.unitRelativePose = none ∨ res.unitRelativePose = some sideView.pose) := by
  have hkernel : sideLibrary.FindsKernel := by
    rintro rows ⟨w, hw⟩ row hrow
    exact (Classical.epsilon_spec (p := fun v => (∃ i, v.get i ≠ 0) ∧ ∀ row ∈ rows, dot9 row v = 0)
      ⟨w, hw⟩).2 row hrow
  have hpairs := essentialPairs_side valid_sideIntrinsics
  have hshows : ∀ pair ∈ eightPairs, sideView.Shows pair := by
    intro pair hmem
    simp only [eightPairs, List.mem_cons, List.not_mem_nil, or_false] at hmem
    rcases hmem with rfl | rfl | rfl | rfl | rfl | rfl | rfl | rfl <;>
      exact shows_shifted _ _ (by norm_num)
  -- eight correspondences are all, and these are general enough
  have hgeneral : ∀ chosen, chosen.Sublist eightPairs → 8 ≤ chosen.length →
      sideView.DeterminedBy chosen := by
    intro chosen hsub hlength
    rw [hsub.eq_of_length_le hlength]
    exact determined_eightPairs
  rw [← hpairs] at hshows hgeneral
  obtain ⟨res, hres⟩ : ∃ res, verifyEssential sideLibrary sideInput sideOptions = .ok res := by
    have hinput : checkInput sideInput = .ok () := rfl
    have hearly : earlyRejection sideInput sideOptions = none := rfl
    refine ⟨essentialResult sideLibrary sideInput sideOptions sideCamera sideCamera
      ⟨.pinhole, sideIntrinsics, valid_sideIntrinsics⟩
      ⟨.pinhole, sideIntrinsics, valid_sideIntrinsics⟩, ?_⟩
    unfold verifyEssential
    rw [hinput, hearly]
    show (do
      let srcModel ← CameraModel.fromReconCamera sideCamera
      let tgtModel ← CameraModel.fromReconCamera sideCamera
      return essentialResult sideLibrary sideInput sideOptions sideCamera sideCamera srcModel tgtModel) =
        Except.ok _
    rw [fromReconCamera_side]
    rfl
  exact ⟨res, hres, verifyEssential_noiseFree hkernel (fun e c _ he => decomposes_side he) rfl rfl
    fromReconCamera_side fromReconCamera_side hshows hgeneral hres⟩

end SpatialPlatform.Adapters.VisualGeometry
