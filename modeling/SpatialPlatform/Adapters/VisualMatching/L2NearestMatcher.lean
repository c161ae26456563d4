import SpatialPlatform.Core.Geometry.ExactRotations
import SpatialPlatform.Core.LoopClosure.CorrespondenceReconstruction

/-!
# Nearest descriptors

`L2NearestMatcher` of `adapters/visual_matching/visual_matcher_adapter.h`.
Nothing is nearer than infinity, so the distances and the threshold have a top
element.

* `nearest_spec` — the inner loop finds the first of the nearest rows.
* `mem_matchedPairs_of_mutual` — in mutual mode a pair is matched if each of its
  rows has the other one as its nearest.
* `matchScore_eq` — the score is the number of the correspondences.
-/

namespace SpatialPlatform.Adapters.VisualMatching

open SpatialPlatform.Core

/-- `L2NearestMatcher`. -/
structure L2NearestMatcher (R : Type) where
  distanceThreshold : WithTop R
  mutualOnly : Bool := true

section

variable {R : Type} [DoubleArith R]

/-- `L2`. -/
def l2 (x y : List R) : R :=
  DoubleArith.sqrt ((x.zip y).foldl (fun s (a, b) => s + (a - b) * (a - b)) 0.0)

/-- The inner loop: `best` and `best_d`. -/
def nearest (x : List R) (rows : List (List R)) : Nat × WithTop R :=
  rows.zipIdx.foldl
    (fun best (row, j) =>
      if ((l2 x row : R) : WithTop R) < best.2 then (j, ((l2 x row : R) : WithTop R)) else best)
    (0, ⊤)

/-- What both functions check before they compare rows. -/
def comparable (a b : List (List R)) : Bool :=
  match a with
  | [] => false
  | row :: _ =>
      !b.isEmpty && row.length ≠ 0 && a.all (·.length = row.length) && b.all (·.length = row.length)

namespace L2NearestMatcher

variable (m : L2NearestMatcher R)

/-- One of the two outer loops: the nearest row for each row, if it is near enough. -/
def nearestWithin (xs ys : List (List R)) : List (Option (Nat × WithTop R)) :=
  xs.map fun x =>
    let best := nearest x ys
    if best.2 ≤ m.distanceThreshold then some best else none

/-- The test of the last loop: `b_to_a[a_to_b[i]] == i`, where that is asked for. -/
def passes (bToA : List (Option (Nat × WithTop R))) (i j : Nat) : Bool :=
  !m.mutualOnly || (bToA[j]?.join).any (·.1 = i)

/-- A pass of the loop that counts. -/
def countMatch (bToA : List (Option (Nat × WithTop R))) (matched : Int) :
    Option (Nat × WithTop R) × Nat → Int
  | (none, _) => matched
  | (some (j, _), i) => if m.passes bToA i j then matched + 1 else matched

/-- `MatchScore`. -/
def matchScore (a b : List (List R)) : R :=
  if !comparable a b then 0.0
  else
    let aToB := m.nearestWithin a b
    let bToA := m.nearestWithin b a
    ((aToB.zipIdx.foldl (m.countMatch bToA) 0 : Int) : R)

/-- A pass of the loop that puts out pairs. -/
def putOut (bToA : List (Option (Nat × WithTop R))) :
    Option (Nat × WithTop R) × Nat → Option (Nat × Nat × WithTop R)
  | (none, _) => none
  | (some (j, d), i) => if m.passes bToA i j then some (i, j, d) else none

/-- The pairs of rows that `MatchCorrespondences` puts out, with their distances. -/
def matchedPairs (a b : List (List R)) : List (Nat × Nat × WithTop R) :=
  if !comparable a b then []
  else
    let aToB := m.nearestWithin a b
    let bToA := m.nearestWithin b a
    aToB.zipIdx.filterMap (m.putOut bToA)

/-- `MatchCorrespondences`; the indices are cast to 32 bits. -/
def matchCorrespondences (a b : List (List R)) : List (FeatureCorrespondence R) :=
  (m.matchedPairs a b).map fun (i, j, d) => ⟨UInt32.ofNat i, UInt32.ofNat j, d⟩

end L2NearestMatcher

end

/-! ## The nearest row

Two loops, one inside the other. The inner one is followed from its front, row
by row. -/

/-- The inner loop meets one more row. -/
theorem nearest_append {R : Type} [DoubleArith R] (x : List R) (rows : List (List R))
    (row : List R) :
    nearest x (rows ++ [row]) =
      if ((l2 x row : R) : WithTop R) < (nearest x rows).2 then
        (rows.length, ((l2 x row : R) : WithTop R))
      else nearest x rows := by
  unfold nearest
  rw [List.zipIdx_append, List.foldl_append, Nat.zero_add]
  rfl

theorem l2_comm (x y : List ℝ) : l2 x y = l2 y x := by
  unfold l2
  rw [← List.zip_swap x y, List.foldl_map]
  congr 2
  funext s p
  simp only [Prod.fst_swap, Prod.snd_swap]
  ring

/-- The first of the rows that are nearest. -/
def IsNearest (x : List ℝ) (rows : List (List ℝ)) (j : Nat) : Prop :=
  ∃ h : j < rows.length, ∀ k (hk : k < rows.length),
    l2 x rows[j] ≤ l2 x rows[k] ∧ (k < j → l2 x rows[j] < l2 x rows[k])

/-- The inner loop finds it, with its distance. -/
theorem nearest_spec (x : List ℝ) {rows : List (List ℝ)} (hne : rows ≠ []) :
    IsNearest x rows (nearest x rows).1 ∧
      ∀ h : (nearest x rows).1 < rows.length,
        (nearest x rows).2 = ((l2 x rows[(nearest x rows).1] : ℝ) : WithTop ℝ) := by
  induction rows using List.reverseRecOn with
  | nil => exact absurd rfl hne
  | append_singleton rows row ih =>
    by_cases hempty : rows = []
    · subst hempty
      have hfirst : nearest x ([] ++ [row]) = (0, ((l2 x row : ℝ) : WithTop ℝ)) := by
        rw [nearest_append]
        exact if_pos (WithTop.coe_lt_top _)
      rw [hfirst]
      exact ⟨⟨by simp, by simp⟩, by simp⟩
    obtain ⟨⟨hlt, hmin⟩, hdist⟩ := ih hempty
    rw [nearest_append, hdist hlt]
    by_cases hnew : l2 x row < l2 x rows[(nearest x rows).1]
    · -- the new row is nearer than all before it
      rw [if_pos (WithTop.coe_lt_coe.mpr hnew)]
      refine ⟨⟨by simp, fun k hk => ?_⟩, by simp⟩
      rw [List.length_append, List.length_singleton] at hk
      by_cases hlast : k = rows.length
      · subst hlast
        simp
      · have hk' : k < rows.length := by omega
        have hless := hnew.trans_le (hmin k hk').1
        simp only [List.getElem_concat_length, List.getElem_append_left hk']
        exact ⟨hless.le, fun _ => hless⟩
    · rw [if_neg (fun h => hnew (WithTop.coe_lt_coe.mp h))]
      refine ⟨⟨by rw [List.length_append]; omega, fun k hk => ?_⟩, fun h => ?_⟩
      · rw [List.length_append, List.length_singleton] at hk
        by_cases hlast : k = rows.length
        · subst hlast
          simp only [List.getElem_append_left hlt, List.getElem_concat_length]
          exact ⟨not_lt.mp hnew, fun h => absurd h (by omega)⟩
        · have hk' : k < rows.length := by omega
          simp only [List.getElem_append_left hlt, List.getElem_append_left hk']
          exact hmin k hk'
      · rw [hdist hlt]
        simp only [List.getElem_append_left hlt]

/-! ## What is matched

A pair of rows is matched exactly if it passes the ratio and, in mutual mode, if
each is the nearest row of the other. That the sources are all different comes
from the loop; that the targets are, from the mutual mode. -/

section

variable {m : L2NearestMatcher ℝ} {a b : List (List ℝ)}

/-- The nearest row of `ys` to a row of `xs`, near enough. -/
def Nearby (m : L2NearestMatcher ℝ) (xs ys : List (List ℝ)) (i j : Nat) (d : WithTop ℝ) : Prop :=
  (m.nearestWithin xs ys)[i]? = some (some (j, d))

theorem nearby_iff {xs ys : List (List ℝ)} {i j : Nat} {d : WithTop ℝ} :
    Nearby m xs ys i j d ↔
      ∃ h : i < xs.length, nearest xs[i] ys = (j, d) ∧ d ≤ m.distanceThreshold := by
  unfold Nearby L2NearestMatcher.nearestWithin
  rw [List.getElem?_map]
  constructor
  · intro h
    obtain ⟨x, hx, hsome⟩ := Option.map_eq_some_iff.mp h
    obtain ⟨hi, rfl⟩ := List.getElem?_eq_some_iff.mp hx
    simp only at hsome
    split at hsome
    · next hle =>
      have heq := Option.some.inj hsome
      exact ⟨hi, heq, by rw [heq] at hle; exact hle⟩
    · cases hsome
  · rintro ⟨hi, heq, hle⟩
    rw [List.getElem?_eq_getElem hi]
    simp only [Option.map_some]
    rw [if_pos (by rw [heq]; exact hle), heq]

/-- Both indices are in range, and the distance is that of the rows. -/
theorem Nearby.spec {xs ys : List (List ℝ)} (hne : ys ≠ []) {i j : Nat} {d : WithTop ℝ}
    (h : Nearby m xs ys i j d) : ∃ (hi : i < xs.length) (hj : j < ys.length),
      d = ((l2 xs[i] ys[j] : ℝ) : WithTop ℝ) := by
  obtain ⟨hi, heq, -⟩ := nearby_iff.mp h
  obtain ⟨⟨hj, -⟩, hdist⟩ := nearest_spec xs[i] hne
  have hd := hdist hj
  simp only [heq] at hj hd
  exact ⟨hi, hj, hd⟩

theorem ne_nil_of_comparable (h : comparable a b = true) : a ≠ [] ∧ b ≠ [] := by
  unfold comparable at h
  cases a with
  | nil => simp at h
  | cons row rest =>
    refine ⟨List.cons_ne_nil _ _, ?_⟩
    simp only [Bool.and_eq_true, Bool.not_eq_true', List.isEmpty_eq_false_iff] at h
    exact h.1.1.1

/-- All rows have one dimension that is not zero. -/
theorem comparable_iff : comparable a b = true ↔ a ≠ [] ∧ b ≠ [] ∧
    ∃ dim, dim ≠ 0 ∧ (∀ row ∈ a, row.length = dim) ∧ ∀ row ∈ b, row.length = dim := by
  unfold comparable
  cases a with
  | nil => simp
  | cons row rest =>
    simp only [Bool.and_eq_true, Bool.not_eq_true', List.isEmpty_eq_false_iff, decide_eq_true_eq,
      List.all_eq_true, ne_eq, reduceCtorEq, not_false_eq_true, true_and]
    constructor
    · rintro ⟨⟨⟨hb, hdim⟩, hrows⟩, hrows'⟩
      exact ⟨hb, row.length, hdim, hrows, hrows'⟩
    · rintro ⟨hb, dim, hdim, hrows, hrows'⟩
      obtain rfl := hrows row List.mem_cons_self
      exact ⟨⟨⟨hb, hdim⟩, hrows⟩, hrows'⟩

theorem comparable_comm : comparable a b = comparable b a := by
  rw [Bool.eq_iff_iff, comparable_iff, comparable_iff]
  exact ⟨fun ⟨ha, hb, dim, hdim, hrows, hrows'⟩ => ⟨hb, ha, dim, hdim, hrows', hrows⟩,
    fun ⟨hb, ha, dim, hdim, hrows, hrows'⟩ => ⟨ha, hb, dim, hdim, hrows', hrows⟩⟩

theorem mem_matchedPairs {i j : Nat} {d : WithTop ℝ} :
    (i, j, d) ∈ m.matchedPairs a b ↔ comparable a b = true ∧ Nearby m a b i j d ∧
      m.passes (m.nearestWithin b a) i j = true := by
  unfold L2NearestMatcher.matchedPairs Nearby
  cases hcomparable : comparable a b with
  | false => simp
  | true =>
    simp only [Bool.not_true, Bool.false_eq_true, if_false, true_and, List.mem_filterMap,
      Prod.exists, List.mem_zipIdx_iff_getElem?]
    constructor
    · rintro ⟨target, k, htarget, hsome⟩
      cases target with
      | none => cases hsome
      | some best =>
        obtain ⟨k', d'⟩ := best
        rw [L2NearestMatcher.putOut] at hsome
        split at hsome
        · next hpasses =>
          cases hsome
          exact ⟨htarget, hpasses⟩
        · cases hsome
    · rintro ⟨hnearby, hpasses⟩
      exact ⟨some (j, d), i, hnearby, by rw [L2NearestMatcher.putOut, if_pos hpasses]⟩

theorem passes_iff (hmutual : m.mutualOnly = true) {i j : Nat} :
    m.passes (m.nearestWithin b a) i j = true ↔ ∃ d, Nearby m b a j i d := by
  unfold L2NearestMatcher.passes Nearby
  rw [hmutual]
  cases hrow : (m.nearestWithin b a)[j]? with
  | none => simp
  | some target =>
    cases target with
    | none => simp
    | some best =>
      obtain ⟨k, d⟩ := best
      simp

/-- In mutual mode each of the two rows is the nearest one of the other. -/
theorem mem_matchedPairs_of_mutual (hmutual : m.mutualOnly = true) {i j : Nat} {d : WithTop ℝ} :
    (i, j, d) ∈ m.matchedPairs a b ↔
      comparable a b = true ∧ Nearby m a b i j d ∧ Nearby m b a j i d := by
  rw [mem_matchedPairs, passes_iff hmutual]
  refine and_congr_right fun hcomparable => and_congr_right fun hnearby => ?_
  refine ⟨fun ⟨d', h⟩ => ?_, fun h => ⟨d, h⟩⟩
  -- the distance is the same from both sides
  obtain ⟨ha, hb⟩ := ne_nil_of_comparable hcomparable
  obtain ⟨hi, hj, hd⟩ := hnearby.spec hb
  obtain ⟨hj', hi', hd'⟩ := h.spec ha
  rwa [hd', l2_comm, ← hd] at h

theorem matchedPairs_range {p : Nat × Nat × WithTop ℝ} (hp : p ∈ m.matchedPairs a b) :
    p.1 < a.length ∧ p.2.1 < b.length := by
  obtain ⟨hcomparable, hnearby, -⟩ := mem_matchedPairs.mp hp
  obtain ⟨hi, hj, -⟩ := hnearby.spec (ne_nil_of_comparable hcomparable).2
  exact ⟨hi, hj⟩

/-- Each row of the first set is met once. -/
theorem nodup_sources : ((m.matchedPairs a b).map (·.1)).Nodup := by
  unfold L2NearestMatcher.matchedPairs
  split
  · exact List.nodup_nil
  have hplaces : (m.nearestWithin a b).zipIdx.Pairwise fun x y => x.2 ≠ y.2 := by
    rw [← List.pairwise_map (f := Prod.snd), List.zipIdx_map_snd]
    exact List.nodup_range'
  unfold List.Nodup
  rw [List.pairwise_map]
  refine List.Pairwise.filterMap _ ?_ hplaces
  have hsource : ∀ {target i p}, m.putOut (m.nearestWithin b a) (target, i) = some p → p.1 = i := by
    intro target i p hp
    cases target with
    | none => cases hp
    | some best =>
      rw [L2NearestMatcher.putOut] at hp
      split at hp
      · cases hp
        rfl
      · cases hp
  rintro ⟨target, i⟩ ⟨target', i'⟩ hne p hp p' hp'
  rwa [hsource hp, hsource hp']

theorem nodup_matchedPairs : (m.matchedPairs a b).Nodup := nodup_sources.of_map

/-- In mutual mode a row of the second set has one partner. -/
theorem source_unique (hmutual : m.mutualOnly = true) {p q : Nat × Nat × WithTop ℝ}
    (hp : p ∈ m.matchedPairs a b) (hq : q ∈ m.matchedPairs a b) (h : p.2.1 = q.2.1) : p = q := by
  obtain ⟨i, j, d⟩ := p
  obtain ⟨i', j', d'⟩ := q
  obtain rfl : j = j' := h
  have hback := ((mem_matchedPairs_of_mutual hmutual).mp hp).2.2
  have hback' := ((mem_matchedPairs_of_mutual hmutual).mp hq).2.2
  unfold Nearby at hback hback'
  rw [hback] at hback'
  simp only [Option.some.injEq, Prod.mk.injEq] at hback'
  rw [hback'.1, hback'.2]

/-- The pair seen from the other side. -/
def mirrorPair (p : Nat × Nat × WithTop ℝ) : Nat × Nat × WithTop ℝ := (p.2.1, p.1, p.2.2)

theorem matchedPairs_mirror (hmutual : m.mutualOnly = true) :
    (m.matchedPairs b a).Perm ((m.matchedPairs a b).map mirrorPair) := by
  have hinjective : Function.Injective mirrorPair := by
    rintro ⟨i, j, d⟩ ⟨i', j', d'⟩ h
    simp only [mirrorPair, Prod.mk.injEq] at h
    rw [h.1, h.2.1, h.2.2]
  refine (List.perm_ext_iff_of_nodup nodup_matchedPairs
    (nodup_matchedPairs.map hinjective)).mpr ?_
  rintro ⟨j, i, d⟩
  have hmem : (j, i, d) ∈ (m.matchedPairs a b).map mirrorPair ↔ (i, j, d) ∈ m.matchedPairs a b :=
    List.mem_map_of_injective hinjective (a := (i, j, d))
  rw [hmem, mem_matchedPairs_of_mutual hmutual, mem_matchedPairs_of_mutual hmutual, comparable_comm]
  tauto

end

/-! ## Counts -/

theorem matchScore_eq (m : L2NearestMatcher ℝ) (a b : List (List ℝ)) :
    m.matchScore a b = ((m.matchCorrespondences a b).length : ℝ) := by
  unfold L2NearestMatcher.matchCorrespondences L2NearestMatcher.matchScore
    L2NearestMatcher.matchedPairs
  rw [List.length_map]
  split
  · norm_num
  -- the loop that counts and the loop that collects take the same branches
  have hcount : ∀ (l : List (Option (Nat × WithTop ℝ) × Nat)) (n : Int),
      l.foldl (m.countMatch (m.nearestWithin b a)) n =
        n + (l.filterMap (m.putOut (m.nearestWithin b a))).length := by
    intro l
    induction l with
    | nil => simp
    | cons p l ih =>
      intro n
      obtain ⟨target, i⟩ := p
      rw [List.foldl_cons, ih]
      cases target with
      | none => simp [L2NearestMatcher.countMatch, L2NearestMatcher.putOut, List.filterMap_cons]
      | some best =>
        by_cases hpasses : m.passes (m.nearestWithin b a) i best.1 = true
        · simp [L2NearestMatcher.countMatch, L2NearestMatcher.putOut, hpasses]
          ring
        · simp [L2NearestMatcher.countMatch, L2NearestMatcher.putOut, hpasses]
  show ((_ : Int) : ℝ) = _
  rw [hcount, zero_add, Int.cast_natCast]

end SpatialPlatform.Adapters.VisualMatching
