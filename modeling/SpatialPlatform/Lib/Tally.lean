import Mathlib.Algebra.BigOperators.Group.List.Lemmas
import Mathlib.Algebra.GroupWithZero.Nat
import Mathlib.Data.List.Induction
import Mathlib.Data.List.Sort

/-!
# Counting by keys

Elements that are counted key by key are all counted once, and what is counted
does not depend on the order of the elements.
-/

namespace SpatialPlatform.Lib.Tally

variable {α κ : Type} [DecidableEq κ]

/-- The elements of a list, each where it occurs first. -/
def distinct (l : List κ) : List κ :=
  l.foldl (fun found k => if k ∈ found then found else found ++ [k]) []

theorem distinct_concat (l : List κ) (k : κ) :
    distinct (l ++ [k]) = if k ∈ distinct l then distinct l else distinct l ++ [k] := by
  rw [distinct, List.foldl_concat]
  rfl

theorem distinct_spec (l : List κ) : (distinct l).Nodup ∧ ∀ k, k ∈ distinct l ↔ k ∈ l := by
  induction l using List.reverseRecOn with
  | nil => exact ⟨List.nodup_nil, fun k => Iff.rfl⟩
  | append_singleton l k ih =>
      obtain ⟨hnodup, hmem⟩ := ih
      rw [distinct_concat]
      split_ifs with hk
      · exact ⟨hnodup, fun j => by grind⟩
      · refine ⟨List.nodup_append.mpr ⟨hnodup, List.nodup_singleton k, ?_⟩, fun j => by grind⟩
        grind

/-- A sort by a linear order sees the elements only. -/
theorem insertionSort_congr {r : α → α → Prop} [DecidableRel r] [Std.Total r] [IsTrans α r]
    [Std.Antisymm r] {l l' : List α} (h : l.Perm l') : l.insertionSort r = l'.insertionSort r :=
  List.Perm.eq_of_pairwise' (List.pairwise_insertionSort r l) (List.pairwise_insertionSort r l')
    ((List.perm_insertionSort r l).trans (h.trans (List.perm_insertionSort r l').symm))

theorem perm_distinct {l l' : List κ} (h : l.Perm l') : (distinct l).Perm (distinct l') := by
  obtain ⟨hnodup, hmem⟩ := distinct_spec l
  obtain ⟨hnodup', hmem'⟩ := distinct_spec l'
  refine (List.perm_ext_iff_of_nodup hnodup hnodup').mpr fun k => ?_
  rw [hmem, hmem', h.mem_iff]

theorem sum_ite_key {ks : List κ} (hks : ks.Nodup) (k : κ) :
    (ks.map fun j => if k = j then 1 else 0).sum = if k ∈ ks then 1 else 0 := by
  induction ks with
  | nil => simp
  | cons j ks ih =>
      obtain ⟨hj, hks⟩ := List.nodup_cons.mp hks
      rw [List.map_cons, List.sum_cons, ih hks]
      by_cases hkj : k = j
      · subst hkj
        simp [hj]
      · simp [hkj]

/-- Counted key by key, every element is counted once. -/
theorem sum_countP_key {ks : List κ} (hks : ks.Nodup) (key : α → κ) {l : List α}
    (h : ∀ a ∈ l, key a ∈ ks) : (ks.map fun k => l.countP fun a => key a = k).sum = l.length := by
  induction l with
  | nil => simp
  | cons a l ih =>
      have hrest := ih fun b hb => h b (List.mem_cons_of_mem _ hb)
      have hone := sum_ite_key hks (key a)
      rw [if_pos (h a List.mem_cons_self)] at hone
      simp only [List.countP_cons, decide_eq_true_eq, List.sum_map_add, hrest, hone, List.length_cons]

/-- Of a sorted list, all up to a position are at most what is there. -/
theorem succ_le_length_filter {S : Type} [LinearOrder S] {l : List S} (hl : l.Pairwise (· ≤ ·)) {i : ℕ}
    (hi : i < l.length) {bound : S} (hbound : l[i] ≤ bound) :
    i + 1 ≤ (l.filter (· ≤ bound)).length := by
  have hfirst : ∀ a ∈ l.take (i + 1), a ≤ bound := by
    intro a ha
    obtain ⟨j, hj, rfl⟩ := List.mem_take_iff_getElem.mp ha
    refine le_trans ?_ hbound
    rcases Nat.lt_or_eq_of_le (show j ≤ i by omega) with hlt | heq
    · exact List.pairwise_iff_getElem.mp hl j i _ _ hlt
    · exact le_of_eq (by simp only [heq])
  have hall : (l.take (i + 1)).filter (· ≤ bound) = l.take (i + 1) :=
    List.filter_eq_self.mpr fun a ha => decide_eq_true (hfirst a ha)
  have hsub := ((List.take_sublist (i + 1) l).filter (fun a => decide (a ≤ bound))).length_le
  rw [hall, List.length_take] at hsub
  omega

/-- A greatest element is sorted behind all others, as often as it occurs. -/
theorem insertionSort_top {S : Type} [LinearOrder S] {l : List S} {top : S}
    (htop : ∀ a ∈ l, a ≤ top) : l.insertionSort (· ≤ ·) =
      (l.filter (· ≠ top)).insertionSort (· ≤ ·) ++ List.replicate (l.count top) top := by
  have hperm : (l.insertionSort (· ≤ ·)).Perm
      ((l.filter (· ≠ top)).insertionSort (· ≤ ·) ++ List.replicate (l.count top) top) := by
    have hequal : l.filter (fun a => ¬ (a ≠ top)) = List.replicate (l.count top) top := by
      rw [← List.filter_eq]
      exact List.filter_congr fun a _ => by simp
    refine (List.perm_insertionSort _ l).trans ?_
    refine (List.filter_append_perm (fun a => decide (a ≠ top)) l).symm.trans ?_
    rw [← hequal]
    refine ((List.perm_insertionSort _ _).symm).append (List.Perm.of_eq ?_)
    exact List.filter_congr fun a _ => by simp
  refine List.Perm.eq_of_pairwise' (List.pairwise_insertionSort (· ≤ ·) l) ?_ hperm
  refine List.pairwise_append.mpr ⟨List.pairwise_insertionSort (· ≤ ·) _,
    List.pairwise_replicate.mpr (Or.inr le_rfl), fun a ha b hb => ?_⟩
  rw [List.eq_of_mem_replicate hb]
  exact htop a (List.mem_of_mem_filter ((List.perm_insertionSort _ _).mem_iff.mp ha))

end SpatialPlatform.Lib.Tally
