import Mathlib.Analysis.RCLike.Basic
import SpatialPlatform.Adapters.VisualGeometry.CheiralityVote
import SpatialPlatform.Adapters.VisualGeometry.RobustSearch
import SpatialPlatform.Lib.Epipolar

/-!
# What an essential matrix decomposes into

`DecomposeEssential` of `adapters/visual_geometry/essential_verifier.cpp`, and
who wins the vote about its candidates when nothing is rounded.

* `decomposeEssential_candidates` — the pose behind the matrix is one of the
  four candidates.
* `voteCheirality_decomposeEssential` — it wins for points in front of both
  cameras.
-/

namespace SpatialPlatform.Adapters.VisualGeometry

open SpatialPlatform.Core SpatialPlatform.Core.Geometry SpatialPlatform.Lib
open scoped Matrix

section

variable {R : Type} [DoubleArith R]

/-- `W`. -/
def kQuarterTurn : Mat3 R :=
  .triple (.triple 0.0 (-(1.0 : R)) 0.0) (.triple 1.0 0.0 0.0) (.triple 0.0 0.0 1.0)

/-- One of the products of `determinant`. -/
def determinantTerm (m : Mat3 R) (a b c : Nat) [HasPlace a 3] [HasPlace b 3] [HasPlace c 3] : R :=
  (m 0) a * ((m 1) b * (m 2) c - (m 1) c * (m 2) b)

/-- `determinant`, as Eigen computes it. -/
def determinant3 (m : Mat3 R) : R :=
  determinantTerm m 0 1 2 - determinantTerm m 1 0 2 + determinantTerm m 2 0 1

/-- The fix for a determinant below zero. -/
def fixDeterminant (m : Mat3 R) : Mat3 R := if determinant3 m < (0.0 : R) then m.map neg3 else m

/-- `DecomposeEssential`. -/
def decomposeEssential (lib : NumericLibrary R) (eRaw : Mat3 R) : EssentialDecomposition R :=
  let svd := lib.svd3 eRaw
  let u := svd.1
  let v := svd.2.2
  { r1 := fixDeterminant (mulMat3 (mulMat3 u kQuarterTurn) (transpose3 v))
    r2 := fixDeterminant (mulMat3 (mulMat3 u (transpose3 kQuarterTurn)) (transpose3 v))
    t := unit3 ((transpose3 u) 2) }

end

/-! ## Matrices of Mathlib

The arrays of the code as vectors and matrices of Mathlib: an equation for every
operation. The singular values are treated there. -/

/-- The coordinates of a vector. -/
def toFun3 (a : Vector ℝ 3) : Fin 3 → ℝ := a.get

/-- The entries of a matrix. -/
def toMatrix (m : Mat3 ℝ) : Matrix (Fin 3) (Fin 3) ℝ := fun i j => (m.get i).get j

theorem toFun3_injective : Function.Injective toFun3 := by
  intro a b h
  exact vec3_ext (congrFun h 0) (congrFun h 1) (congrFun h 2)

theorem toMatrix_injective : Function.Injective toMatrix := by
  intro m n h
  have hrow : ∀ i : Fin 3, m.get i = n.get i := fun i => toFun3_injective (congrFun h i)
  ext i hi
  exact congrArg (fun a : Vector ℝ 3 => a[_]) (hrow ⟨i, hi⟩)

theorem dot3_eq_dotProduct (a b : Vector ℝ 3) : dot3 a b = toFun3 a ⬝ᵥ toFun3 b := by
  rw [dotProduct, Fin.sum_univ_three]
  rfl

theorem toFun3_mulVec3 (m : Mat3 ℝ) (a : Vector ℝ 3) :
    toFun3 (mulVec3 m a) = toMatrix m *ᵥ toFun3 a := by
  ext i
  fin_cases i <;> exact dot3_eq_dotProduct _ _

theorem toMatrix_transpose3 (m : Mat3 ℝ) : toMatrix (transpose3 m) = (toMatrix m)ᵀ := by
  ext i j
  fin_cases i <;> fin_cases j <;> rfl

theorem get_map3 {α β : Type} (f : α → β) (v : Vector α 3) (i : Fin 3) :
    (v.map f).get i = f (v.get i) := by
  rw [Vector.get_val, Vector.get_val, Vector.getElem_map]

theorem toMatrix_row (m : Mat3 ℝ) (i : Fin 3) : toMatrix m i = toFun3 (m.get i) := rfl

theorem toMatrix_mulMat3 (m n : Mat3 ℝ) : toMatrix (mulMat3 m n) = toMatrix m * toMatrix n := by
  ext i j
  rw [toMatrix_row, mulMat3, get_map3, toFun3_mulVec3, toMatrix_transpose3, Matrix.mulVec_transpose]
  rfl

theorem determinant3_eq_det (m : Mat3 ℝ) : determinant3 m = (toMatrix m).det := by
  rw [Matrix.det_fin_three]
  simp only [determinant3, determinantTerm, toMatrix, Vector.get_val, Fin.isValue,
    Fin.coe_ofNat_eq_mod, Nat.zero_mod, Nat.one_mod, Nat.mod_succ]
  ring

theorem toFun3_neg3 (a : Vector ℝ 3) : toFun3 (neg3 a) = -toFun3 a := by
  ext i
  fin_cases i <;> rfl

theorem toMatrix_map_neg3 (m : Mat3 ℝ) : toMatrix (m.map neg3) = -toMatrix m := by
  ext i j
  rw [toMatrix_row, get_map3, toFun3_neg3]
  rfl

theorem toMatrix_fixDeterminant (m : Mat3 ℝ) :
    toMatrix (fixDeterminant m) = Epipolar.proper (toMatrix m) := by
  have hzero : (0.0 : ℝ) = 0 := by norm_num
  unfold fixDeterminant Epipolar.proper
  rw [determinant3_eq_det, hzero]
  split_ifs
  · exact toMatrix_map_neg3 m
  · rfl

theorem toMatrix_kQuarterTurn : toMatrix kQuarterTurn = Epipolar.quarterTurn := by
  ext i j
  fin_cases i <;> fin_cases j <;>
    norm_num [toMatrix, kQuarterTurn, Epipolar.quarterTurn, Vector.get_val]

theorem toFun3_scale3 (c : ℝ) (a : Vector ℝ 3) : toFun3 (scale3 c a) = c • toFun3 a := by
  ext i
  fin_cases i <;> rfl

theorem toFun3_add3 (a b : Vector ℝ 3) : toFun3 (add3 a b) = toFun3 a + toFun3 b := by
  ext i
  fin_cases i <;> rfl

/-- A vector of length one is left as it is. -/
theorem unit3_of_unit {a : Vector ℝ 3} (h : dot3 a a = 1) : unit3 a = a := by
  have hdiv : ∀ x : Vector ℝ 3, div3 x (1 : ℝ) = x := by
    intro x
    rw [div3_eq_scale3, inv_one, scale3_one]
  unfold unit3
  rw [norm3_real, h, Real.sqrt_one, hdiv, ite_self]

/-! ## The candidates

What the code makes of a singular value decomposition, if that is one; the rest
is the theorem about the four candidates. -/

/-- What Eigen documents of `JacobiSVD`: the factors of the matrix, and the values in descending order. -/
def NumericLibrary.Decomposes (lib : NumericLibrary ℝ) (m : Mat3 ℝ) : Prop :=
  Epipolar.IsSvd (toMatrix m) (toMatrix (lib.svd3 m).1) (toFun3 (lib.svd3 m).2.1)
    (toMatrix (lib.svd3 m).2.2)

/-- The relative pose of two cameras, up to the distance between them. -/
structure RelativeView where
  rotation : Mat3 ℝ
  translation : Vector ℝ 3
  orthogonal : toMatrix rotation * (toMatrix rotation)ᵀ = 1
  det : (toMatrix rotation).det = 1
  unit : dot3 translation translation = 1

namespace RelativeView

variable (view : RelativeView)

/-- `[t]ₓ R`. -/
noncomputable def essential : Matrix (Fin 3) (Fin 3) ℝ :=
  Epipolar.skew (toFun3 view.translation) * toMatrix view.rotation

/-- The rotation after half a turn about the translation. -/
structure Twisted (m : Mat3 ℝ) : Prop where
  eq : toMatrix m = Epipolar.halfTurn (toFun3 view.translation) * toMatrix view.rotation

end RelativeView

/-- **The candidates of an essential matrix.** The decomposition of a multiple
of an essential matrix has the rotation behind it as one of its two, and the
same after half a turn about the translation as the other, and the translation
up to its sign. -/
theorem decomposeEssential_candidates {lib : NumericLibrary ℝ} {e : Mat3 ℝ} {view : RelativeView}
    {c : ℝ} (hlib : lib.Decomposes e) (hc : c ≠ 0) (he : toMatrix e = c • view.essential) :
    let decomp := decomposeEssential lib e
    (decomp.t = view.translation ∨ decomp.t = neg3 view.translation) ∧
      ((decomp.r1 = view.rotation ∧ view.Twisted decomp.r2) ∨
        (view.Twisted decomp.r1 ∧ decomp.r2 = view.rotation)) := by
  intro decomp
  have hunit : toFun3 view.translation ⬝ᵥ toFun3 view.translation = 1 := by
    rw [← dot3_eq_dotProduct, view.unit]
  obtain ⟨ht, hr⟩ := hlib.essential hc he hunit view.orthogonal view.det
  have hcol : toFun3 ((transpose3 (lib.svd3 e).1) 2) = (toMatrix (lib.svd3 e).1).col 2 := by
    ext i
    fin_cases i <;> rfl
  -- the two rotations of the code are the candidates of the decomposition
  have h1 : toMatrix decomp.r1 = (Epipolar.candidates (toMatrix (lib.svd3 e).1)
      (toMatrix (lib.svd3 e).2.2)).1 := by
    simp only [decomp, decomposeEssential]
    rw [toMatrix_fixDeterminant, toMatrix_mulMat3, toMatrix_mulMat3, toMatrix_transpose3,
      toMatrix_kQuarterTurn]
    rfl
  have h2 : toMatrix decomp.r2 = (Epipolar.candidates (toMatrix (lib.svd3 e).1)
      (toMatrix (lib.svd3 e).2.2)).2 := by
    simp only [decomp, decomposeEssential]
    rw [toMatrix_fixDeterminant, toMatrix_mulMat3, toMatrix_mulMat3, toMatrix_transpose3,
      toMatrix_transpose3, toMatrix_kQuarterTurn]
    rfl
  refine ⟨?_, ?_⟩
  · rw [← hcol] at ht
    have hself : dot3 ((transpose3 (lib.svd3 e).1) 2) ((transpose3 (lib.svd3 e).1) 2) = 1 := by
      rw [dot3_eq_dotProduct]
      rcases ht with ht | ht
      · rw [← ht, hunit]
      · rw [← neg_dotProduct_neg, ← ht, hunit]
    have hdecomp : decomp.t = (transpose3 (lib.svd3 e).1) 2 := unit3_of_unit hself
    rw [hdecomp]
    rcases ht with ht | ht
    · exact .inl (toFun3_injective ht.symm)
    · refine .inr (toFun3_injective ?_)
      rw [toFun3_neg3, ht, neg_neg]
  -- one of them is the rotation, and the other one is twisted
  · rcases hr with hr | hr
    · rw [hr] at h1 h2
      exact .inl ⟨toMatrix_injective h1, ⟨h2⟩⟩
    · rw [hr] at h1 h2
      exact .inr ⟨⟨h1⟩, toMatrix_injective h2⟩

/-! ## The vote about them

Of the four candidates two have the rotation of the cameras and two are turned
by half a turn about the baseline. Rays that meet in front of both cameras meet
behind one of them, or are parallel, after half a turn. -/

theorem isRotation_of_orthogonal {m : Mat3 ℝ} (h : toMatrix m * (toMatrix m)ᵀ = 1) : IsRotation m := by
  intro x
  apply toFun3_injective
  rw [toFun3_mulVec3, toFun3_mulVec3, toMatrix_transpose3, Matrix.mulVec_mulVec,
    Epipolar.transpose_mul_self h, Matrix.one_mulVec]

/-- Rays that meet are triangulated where they do, or not at all. -/
theorem triangulateUnitRays_of_meet {rS rT t : Vector ℝ 3} {rotation : Mat3 ℝ} {a b : ℝ}
    (h : Meet rS rT rotation t a b) (hrotation : IsRotation rotation) :
    triangulateUnitRays rS rT rotation t =
      if spread rS (seenFromSource rT rotation) < 1e-12 then .failed
      else ⟨true, a * rS 2, b * rT 2⟩ := by
  rw [triangulateUnitRays_real]
  split_ifs with hspread
  · rfl
  · have hpos : 0 < spread rS (seenFromSource rT rotation) :=
      lt_of_lt_of_le (by norm_num) (not_lt.mp hspread)
    rw [h.alongSource_eq hrotation hpos.ne', h]
    rfl

/-- With the other sign of the translation, they meet on the other side. -/
theorem Meet.neg3 {rS rT t : Vector ℝ 3} {rotation : Mat3 ℝ} {a b : ℝ} (h : Meet rS rT rotation t a b) :
    Meet rS rT rotation (Geometry.neg3 t) (-a) (-b) := by
  apply toFun3_injective
  have hfront := congrArg toFun3 h
  rw [toFun3_add3, mulVec3_scale3, toFun3_scale3, toFun3_scale3] at hfront ⊢
  rw [toFun3_neg3, neg_smul, neg_smul, ← hfront, neg_add]

theorem votesFor_of_meet {pair : RayPair ℝ} {t : Vector ℝ 3} {rotation : Mat3 ℝ} {a b : ℝ}
    (h : Meet pair.rS pair.rT rotation t a b) (hrotation : IsRotation rotation)
    (hS : 0 < pair.rS 2) (hT : 0 < pair.rT 2) :
    pair.votesFor rotation t = true ↔
      1e-12 ≤ spread pair.rS (seenFromSource pair.rT rotation) ∧ 0 < a ∧ 0 < b := by
  have hzero : (0.0 : ℝ) = 0 := by norm_num
  unfold RayPair.votesFor
  rw [triangulateUnitRays_of_meet h hrotation]
  split_ifs with hspread
  · simp [Depths.failed, not_le.mpr hspread]
  · simp only [Bool.true_and, Bool.and_eq_true, decide_eq_true_eq, hzero, mul_pos_iff_of_pos_right hS,
      mul_pos_iff_of_pos_right hT, not_lt.mp hspread, true_and]

namespace RelativeView

variable {view : RelativeView} {pair : RayPair ℝ}

/-- The rays of a point in front of both cameras. -/
structure Sees (view : RelativeView) (pair : RayPair ℝ) : Prop where
  meet : ∃ a b, 0 < a ∧ 0 < b ∧ Meet pair.rS pair.rT view.rotation view.translation a b
  frontS : 0 < pair.rS 2
  frontT : 0 < pair.rT 2

/-- The rays are far enough from parallel. -/
def Wide (view : RelativeView) (pair : RayPair ℝ) : Prop :=
  1e-12 ≤ spread pair.rS (seenFromSource pair.rT view.rotation)

theorem Sees.votesFor (h : view.Sees pair) :
    (pair.votesFor view.rotation view.translation = true ↔ view.Wide pair) ∧
      pair.votesFor view.rotation (neg3 view.translation) = false := by
  obtain ⟨⟨a, b, ha, hb, hmeet⟩, hS, hT⟩ := h
  have hrotation := isRotation_of_orthogonal view.orthogonal
  refine ⟨?_, ?_⟩
  · rw [votesFor_of_meet hmeet hrotation hS hT]
    exact and_iff_left ⟨ha, hb⟩
  · rw [← Bool.not_eq_true, votesFor_of_meet hmeet.neg3 hrotation hS hT]
    rintro ⟨-, hpos, -⟩
    exact absurd hpos (not_lt.mpr (neg_nonpos.mpr ha.le))

/-- After half a turn, the rays meet behind one of the cameras, or are parallel. -/
theorem Sees.twisted (h : view.Sees pair) {m : Mat3 ℝ} (hm : view.Twisted m) :
    (∃ a b, a * b < 0 ∧ Meet pair.rS pair.rT m view.translation a b) ∨
      ∃ k : ℝ, mulVec3 m pair.rS = scale3 k pair.rT := by
  obtain ⟨⟨a, b, ha, hb, hmeet⟩, -, -⟩ := h
  obtain ⟨t, ht⟩ : ∃ t, t = toFun3 view.translation := ⟨_, rfl⟩
  have hunit : t ⬝ᵥ t = 1 := by rw [ht, ← dot3_eq_dotProduct, view.unit]
  obtain ⟨μ, hμ⟩ : ∃ μ, μ = 2 * b * (t ⬝ᵥ toFun3 pair.rT) - 1 := ⟨_, rfl⟩
  have hfront : a • toMatrix view.rotation *ᵥ toFun3 pair.rS = b • toFun3 pair.rT - t := by
    have hfun := congrArg toFun3 hmeet
    rw [toFun3_add3, mulVec3_scale3, toFun3_scale3, toFun3_scale3, toFun3_mulVec3, ← ht] at hfun
    rw [← hfun, add_sub_cancel_right]
  have hrotated : a • toFun3 (mulVec3 m pair.rS) = μ • t - b • toFun3 pair.rT := by
    rw [toFun3_mulVec3, hm.eq, ← ht, ← Matrix.mulVec_mulVec, ← Matrix.mulVec_smul, hfront,
      Epipolar.halfTurn_mulVec, dotProduct_sub, dotProduct_smul, hunit, hμ, smul_eq_mul]
    module
  by_cases hzero : μ = 0
  · refine .inr ⟨-(b / a), toFun3_injective ?_⟩
    rw [hzero, zero_smul, zero_sub] at hrotated
    rw [toFun3_scale3, neg_smul, div_eq_inv_mul, mul_smul, ← smul_neg, ← hrotated, smul_smul,
      inv_mul_cancel₀ ha.ne', one_smul]
  · refine .inl ⟨-(a / μ), b / μ, ?_, ?_⟩
    · have hsquare : 0 < μ * μ := mul_self_pos.mpr hzero
      rw [neg_mul, div_mul_div_comm]
      exact neg_neg_of_pos (div_pos (mul_pos ha hb) hsquare)
    · apply toFun3_injective
      rw [toFun3_add3, mulVec3_scale3, toFun3_scale3, toFun3_scale3, ← ht, neg_smul, div_eq_inv_mul,
        mul_smul, hrotated, smul_sub, smul_smul, smul_smul, inv_mul_cancel₀ hzero, one_smul,
        div_eq_inv_mul]
      module

/-- Nobody sees a point in front of both cameras after half a turn. -/
theorem Sees.votesFor_twisted (h : view.Sees pair) {m : Mat3 ℝ} (hm : view.Twisted m) :
    pair.votesFor m view.translation = false ∧ pair.votesFor m (neg3 view.translation) = false := by
  have hrotation : IsRotation m := by
    apply isRotation_of_orthogonal
    have hunit : toFun3 view.translation ⬝ᵥ toFun3 view.translation = 1 := by
      rw [← dot3_eq_dotProduct, view.unit]
    rw [hm.eq, Matrix.transpose_mul, Matrix.mul_assoc, ← Matrix.mul_assoc (toMatrix view.rotation),
      view.orthogonal, Matrix.one_mul, Epipolar.halfTurn_mul_transpose hunit]
  rcases h.twisted hm with ⟨a, b, hsign, hmeet⟩ | ⟨k, hk⟩
  · have hopposite : ¬ (0 < a ∧ 0 < b) ∧ ¬ (0 < -a ∧ 0 < -b) := by
      refine ⟨fun hab => ?_, fun hab => ?_⟩
      · exact absurd (mul_pos hab.1 hab.2) (not_lt.mpr hsign.le)
      · exact absurd (mul_pos hab.1 hab.2) (by rw [neg_mul_neg]; exact not_lt.mpr hsign.le)
    refine ⟨?_, ?_⟩
    · rw [← Bool.not_eq_true, votesFor_of_meet hmeet hrotation h.frontS h.frontT]
      exact fun hvote => hopposite.1 hvote.2
    · rw [← Bool.not_eq_true, votesFor_of_meet hmeet.neg3 hrotation h.frontS h.frontT]
      exact fun hvote => hopposite.2 hvote.2
  · -- parallel rays are not triangulated
    have hparallel : pair.rS = scale3 k (seenFromSource pair.rT m) := by
      rw [seenFromSource, ← mulVec3_scale3, ← hk, hrotation]
    have hspread : spread pair.rS (seenFromSource pair.rT m) < 1e-12 := by
      have hzero : spread pair.rS (seenFromSource pair.rT m) = 0 := by
        rw [hparallel]
        simp only [spread, dot3_real, scale3]
        simp
        ring
      rw [hzero]
      norm_num
    unfold RayPair.votesFor
    rw [triangulateUnitRays_real, triangulateUnitRays_real, if_pos hspread, if_pos hspread]
    exact ⟨rfl, rfl⟩

end RelativeView

/-! ## The winner

All votes go to one candidate. The others have none and never lead, which is an
induction over the candidates in front of it and behind it. -/

section fold

variable {R : Type} [DoubleArith R] {pairs : List (RayPair R)}

/-- Candidates without votes do not take the lead. -/
theorem bestVotes_foldl_zero {l : List (Mat3 R × Vector R 3)} (h : ∀ c ∈ l, votes pairs c.1 c.2 = 0)
    (leader : BestCandidate R) : (l.foldl (compareVotes pairs) leader).bestVotes = leader.bestVotes ∧
      (0 < leader.bestVotes → l.foldl (compareVotes pairs) leader = leader) := by
  induction l generalizing leader with
  | nil => exact ⟨rfl, fun _ => rfl⟩
  | cons c l ih =>
    have hzero := h c List.mem_cons_self
    have hstep : (compareVotes pairs leader c).bestVotes = leader.bestVotes ∧
        (0 < leader.bestVotes → compareVotes pairs leader c = leader) := by
      unfold compareVotes
      simp only [hzero, Nat.not_lt_zero, if_false]
      split_ifs with hequal
      · exact ⟨rfl, fun hpos => absurd hequal hpos.ne⟩
      · exact ⟨rfl, fun _ => rfl⟩
    obtain ⟨hvotes, hstay⟩ := ih (fun c hc => h c (List.mem_cons_of_mem _ hc))
      (compareVotes pairs leader c)
    rw [List.foldl_cons]
    refine ⟨hvotes.trans hstep.1, fun hpos => ?_⟩
    rw [hstay (hstep.1 ▸ hpos), hstep.2 hpos]

/-- The only candidate with votes is elected, if it has more than half of them. -/
theorem voteCheirality_of_sole {decomp : EssentialDecomposition R} {c : Mat3 R × Vector R 3}
    {before after : List (Mat3 R × Vector R 3)} (hsplit : decomp.candidates = before ++ c :: after)
    (hbefore : ∀ d ∈ before, votes pairs d.1 d.2 = 0) (hafter : ∀ d ∈ after, votes pairs d.1 d.2 = 0)
    (hmost : inlierTotal pairs < votes pairs c.1 c.2 * 2) : voteCheirality decomp pairs = some c := by
  have hpos : 0 < votes pairs c.1 c.2 := by omega
  have htotal : inlierTotal pairs ≠ 0 := by
    have hle : votes pairs c.1 c.2 ≤ inlierTotal pairs := by
      refine List.countP_mono_left fun pair _ h => ?_
      exact (Bool.and_eq_true _ _ ▸ h : pair.inlier = true ∧ _).1
    omega
  have hlead : decomp.candidates.foldl (compareVotes pairs) {} =
      ⟨votes pairs c.1 c.2, some c, false⟩ := by
    have hzero := (bestVotes_foldl_zero hbefore ({} : BestCandidate R)).1
    have htake : compareVotes pairs (before.foldl (compareVotes pairs) {}) c =
        ⟨votes pairs c.1 c.2, some c, false⟩ := if_pos (by rw [hzero]; exact hpos)
    rw [hsplit, List.foldl_append, List.foldl_cons, htake]
    exact (bestVotes_foldl_zero hafter _).2 hpos
  unfold voteCheirality
  simp only [hlead, htotal, if_false, Bool.false_eq_true, Nat.not_le.mpr hmost]

end fold

namespace RelativeView

variable {view : RelativeView} {pairs : List (RayPair ℝ)}

noncomputable instance instDecidablePredWide : DecidablePred view.Wide := fun pair =>
  inferInstanceAs (Decidable (1e-12 ≤ spread pair.rS (seenFromSource pair.rT view.rotation)))

/-- The inliers whose rays are far enough from parallel. -/
noncomputable def wideTotal (view : RelativeView) (pairs : List (RayPair ℝ)) : Nat :=
  pairs.countP fun pair => pair.inlier && decide (view.Wide pair)

/-- The votes of the pose behind the rays. -/
theorem votes_eq_wideTotal (hsees : ∀ pair ∈ pairs, pair.inlier = true → view.Sees pair) :
    votes pairs view.rotation view.translation = view.wideTotal pairs := by
  refine List.countP_congr fun pair hmem => ?_
  rw [Bool.and_eq_true, Bool.and_eq_true, decide_eq_true_eq]
  exact and_congr_right fun hinlier => (hsees pair hmem hinlier).votesFor.1

/-- No inlier votes for another candidate. -/
theorem votes_eq_zero (hsees : ∀ pair ∈ pairs, pair.inlier = true → view.Sees pair) {m : Mat3 ℝ}
    {t : Vector ℝ 3} (hother : ∀ pair, view.Sees pair → pair.votesFor m t = false) :
    votes pairs m t = 0 := by
  rw [votes, List.countP_eq_zero]
  intro pair hmem hvote
  obtain ⟨hinlier, hvotes⟩ := (Bool.and_eq_true _ _).mp hvote
  rw [hother pair (hsees pair hmem hinlier)] at hvotes
  cases hvotes

theorem neg3_neg3 (a : Vector ℝ 3) : neg3 (neg3 a) = a := by
  apply toFun3_injective
  rw [toFun3_neg3, toFun3_neg3, neg_neg]

/-- Of the candidates of its essential matrix, the pose is the only one with votes. -/
theorem exists_sole {decomp : EssentialDecomposition ℝ}
    (ht : decomp.t = view.translation ∨ decomp.t = neg3 view.translation)
    (hr : (decomp.r1 = view.rotation ∧ view.Twisted decomp.r2) ∨
      (view.Twisted decomp.r1 ∧ decomp.r2 = view.rotation))
    (hsees : ∀ pair ∈ pairs, pair.inlier = true → view.Sees pair) :
    ∃ before after, decomp.candidates = before ++ (view.rotation, view.translation) :: after ∧
      (∀ d ∈ before, votes pairs d.1 d.2 = 0) ∧ ∀ d ∈ after, votes pairs d.1 d.2 = 0 := by
  have hneg : votes pairs view.rotation (neg3 view.translation) = 0 :=
    votes_eq_zero hsees fun pair h => h.votesFor.2
  have htwist : ∀ m, view.Twisted m → votes pairs m view.translation = 0 ∧
      votes pairs m (neg3 view.translation) = 0 := fun m hm =>
    ⟨votes_eq_zero hsees fun pair h => (h.votesFor_twisted hm).1,
      votes_eq_zero hsees fun pair h => (h.votesFor_twisted hm).2⟩
  unfold EssentialDecomposition.candidates
  rcases hr with ⟨hr1, hr2⟩ | ⟨hr1, hr2⟩
  · rcases ht with ht | ht
    · refine ⟨[], _, by rw [hr1, ht]; rfl, by simp, ?_⟩
      simp [htwist _ hr2, hneg]
    · refine ⟨[_], _, by rw [hr1, ht, neg3_neg3]; rfl, ?_, ?_⟩
      · simp [hneg]
      · simp [htwist _ hr2]
  · rcases ht with ht | ht
    · refine ⟨[_, _], _, by rw [hr2, ht]; rfl, ?_, ?_⟩
      · simp [htwist _ hr1]
      · simp [hneg]
    · refine ⟨[_, _, _], _, by rw [hr2, ht, neg3_neg3]; rfl, ?_, ?_⟩
      · simp [htwist _ hr1, hneg]
      · simp

end RelativeView

/-- **The winner of the vote.** Let the inliers be points in front of both
cameras, and the matrix a multiple of the essential matrix of these. Then nobody
but the pose of the cameras can win, and it does exactly if the rays of more
than half of the inliers are far enough from parallel. -/
theorem voteCheirality_decomposeEssential {lib : NumericLibrary ℝ} {e : Mat3 ℝ} {view : RelativeView}
    {c : ℝ} {pairs : List (RayPair ℝ)} (hlib : lib.Decomposes e) (hc : c ≠ 0)
    (he : toMatrix e = c • view.essential)
    (hsees : ∀ pair ∈ pairs, pair.inlier = true → view.Sees pair) (winner : Mat3 ℝ × Vector ℝ 3) :
    voteCheirality (decomposeEssential lib e) pairs = some winner ↔
      winner = (view.rotation, view.translation) ∧
        inlierTotal pairs < view.wideTotal pairs * 2 := by
  obtain ⟨ht, hr⟩ := decomposeEssential_candidates hlib hc he
  obtain ⟨before, after, hsplit, hbefore, hafter⟩ := RelativeView.exists_sole ht hr hsees
  have hvotes := RelativeView.votes_eq_wideTotal hsees
  constructor
  · intro h
    obtain ⟨hmem, hmost, -, -⟩ := voteCheirality_eq_some h
    have hwinner : winner = (view.rotation, view.translation) := by
      rw [hsplit, List.mem_append, List.mem_cons] at hmem
      rcases hmem with hmem | hmem | hmem
      · rw [hbefore _ hmem] at hmost
        exact absurd hmost (Nat.not_lt_zero _)
      · exact hmem
      · rw [hafter _ hmem] at hmost
        exact absurd hmost (Nat.not_lt_zero _)
    rw [hwinner, hvotes] at hmost
    exact ⟨hwinner, hmost⟩
  · rintro ⟨rfl, hmost⟩
    exact voteCheirality_of_sole hsplit hbefore hafter (by rwa [hvotes])

end SpatialPlatform.Adapters.VisualGeometry
