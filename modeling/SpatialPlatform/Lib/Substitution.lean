import Mathlib.Data.List.Nodup
import Mathlib.Data.List.Perm.Basic
import Mathlib.Data.List.Zip

/-!
# Pairs that rename the elements of a list

Renaming pair after pair (`carry`) and all at once (`substitute`), and putting
what is missing behind a list (`appendMissing`). The two renamings agree on an
element exactly when the later pairs leave alone what it becomes
(`carry_eq_substitute_iff`).
-/

namespace SpatialPlatform.Lib

variable {α : Type*} [DecidableEq α]

/-- Where an element is after the pairs have been applied one after the other. -/
def carry : List (α × α) → α → α
  | [], r => r
  | (d, p) :: rest, r => carry rest (if r = d then p else r)

/-- Where an element is after all pairs have been applied at once; the first pair for it counts. -/
def substitute (pairs : List (α × α)) (r : α) : α := (pairs.lookup r).getD r

/-- Put each element behind the list, unless it is there already. -/
def appendMissing (refs new : List α) : List α :=
  new.foldl (fun refs r => if r ∈ refs then refs else refs ++ [r]) refs

/-! ## Renaming

One pair after the other, or all at once. The two differ only if what a pair
puts in is replaced by a later one; the inductions split the pairs at the one
that is used. -/

theorem foldl_map_eq_carry (pairs : List (α × α)) (refs : List α) :
    pairs.foldl (fun refs pair => refs.map fun r => if r = pair.1 then pair.2 else r) refs =
      refs.map (carry pairs) := by
  induction pairs generalizing refs with
  | nil => simp [carry]
  | cons pair rest ih =>
    rw [List.foldl_cons, ih, List.map_map]
    rfl

theorem carry_of_not_mem {pairs : List (α × α)} {r : α} (h : r ∉ pairs.map Prod.fst) :
    carry pairs r = r := by
  induction pairs with
  | nil => rfl
  | cons pair rest ih =>
    simp only [List.map_cons, List.mem_cons, not_or] at h
    rw [carry, if_neg h.1, ih h.2]

theorem substitute_of_not_mem {pairs : List (α × α)} {r : α} (h : r ∉ pairs.map Prod.fst) :
    substitute pairs r = r := by
  induction pairs with
  | nil => rfl
  | cons pair rest ih =>
    simp only [List.map_cons, List.mem_cons, not_or] at h
    have hne : (r == pair.1) = false := by simpa using h.1
    rw [substitute, List.lookup_cons, hne]
    exact ih h.2

/-- The pairs in front of the one for an element do nothing to it. -/
theorem carry_append {before : List (α × α)} {r : α} (h : r ∉ before.map Prod.fst) (p : α)
    (after : List (α × α)) : carry (before ++ (r, p) :: after) r = carry after p := by
  induction before with
  | nil => rw [List.nil_append, carry, if_pos rfl]
  | cons pair rest ih =>
    simp only [List.map_cons, List.mem_cons, not_or] at h
    rw [List.cons_append, carry, if_neg h.1, ih h.2]

theorem substitute_append {before : List (α × α)} {r : α} (h : r ∉ before.map Prod.fst) (p : α)
    (after : List (α × α)) : substitute (before ++ (r, p) :: after) r = p := by
  induction before with
  | nil => simp [substitute]
  | cons pair rest ih =>
    simp only [List.map_cons, List.mem_cons, not_or] at h
    have hne : (r == pair.1) = false := by simpa using h.1
    rw [List.cons_append, substitute, List.lookup_cons, hne]
    exact ih h.2

omit [DecidableEq α] in
/-- A pair, with the pairs before and after it. -/
theorem eq_append_getElem (pairs : List (α × α)) {i : Nat} (hi : i < pairs.length) :
    pairs = pairs.take i ++ (pairs[i].1, pairs[i].2) :: pairs.drop (i + 1) := by
  rw [← List.drop_eq_getElem_cons hi, List.take_append_drop]

omit [DecidableEq α] in
theorem not_mem_take {pairs : List (α × α)} (hnodup : (pairs.map Prod.fst).Nodup) {i : Nat}
    (hi : i < pairs.length) : pairs[i].1 ∉ (pairs.take i).map Prod.fst := by
  intro hmem
  rw [eq_append_getElem pairs hi, List.map_append, List.map_cons] at hnodup
  exact (List.nodup_append.mp hnodup).2.2 _ hmem _ List.mem_cons_self rfl

/-- Over a list both renamings agree exactly when the pairs after each one that
is used leave alone what it puts in. -/
theorem map_carry_eq_iff {pairs : List (α × α)} (hnodup : (pairs.map Prod.fst).Nodup)
    (refs : List α) :
    refs.map (carry pairs) = refs.map (substitute pairs) ↔
      ∀ i (hi : i < pairs.length), pairs[i].1 ∈ refs →
        carry (pairs.drop (i + 1)) pairs[i].2 = pairs[i].2 := by
  have hat : ∀ i (hi : i < pairs.length),
      carry pairs pairs[i].1 = carry (pairs.drop (i + 1)) pairs[i].2 ∧
        substitute pairs pairs[i].1 = pairs[i].2 := by
    intro i hi
    have hfresh := not_mem_take hnodup hi
    have hsplit := eq_append_getElem pairs hi
    exact ⟨(congrArg (carry · pairs[i].1) hsplit).trans (carry_append hfresh _ _),
      (congrArg (substitute · pairs[i].1) hsplit).trans (substitute_append hfresh _ _)⟩
  rw [List.map_inj_left]
  constructor
  · intro h i hi hmem
    rw [← (hat i hi).1, h _ hmem, (hat i hi).2]
  · intro h r hr
    by_cases hsource : r ∈ pairs.map Prod.fst
    · obtain ⟨i, hi, rfl⟩ := List.mem_iff_getElem.mp hsource
      rw [List.length_map] at hi
      rw [List.getElem_map] at hr ⊢
      rw [(hat i hi).1, (hat i hi).2, h i hi hr]
    · rw [carry_of_not_mem hsource, substitute_of_not_mem hsource]

/-- An element stays, or becomes what some pair puts in. -/
theorem carry_eq_or_mem (pairs : List (α × α)) (r : α) :
    carry pairs r = r ∨ carry pairs r ∈ pairs.map Prod.snd := by
  induction pairs generalizing r with
  | nil => exact .inl rfl
  | cons pair rest ih =>
    rw [carry]
    split
    · obtain h | h := ih pair.2
      · right
        rw [h]
        exact List.mem_cons_self
      · exact .inr (List.mem_cons_of_mem _ h)
    · obtain h | h := ih r
      · exact .inl h
      · exact .inr (List.mem_cons_of_mem _ h)

/-- The first parts of zipped lists, as far as the second list goes. -/
theorem fst_zip_sublist {α β : Type*} (l : List α) (l' : List β) :
    ((l.zip l').map Prod.fst).Sublist l := by
  induction l generalizing l' with
  | nil => exact .slnil
  | cons a l ih =>
    cases l' with
    | nil => exact List.nil_sublist _
    | cons b l' => exact (ih l').cons_cons a

theorem snd_zip_sublist {α β : Type*} (l : List α) (l' : List β) :
    ((l.zip l').map Prod.snd).Sublist l' := by
  rw [← List.zip_swap, List.map_map]
  exact fst_zip_sublist l' l

/-! ## Appending what is missing -/

theorem appendMissing_spec (refs new : List α) :
    ∃ extra, appendMissing refs new = refs ++ extra ∧ extra.Nodup ∧ extra.Sublist new ∧
      ∀ r, r ∈ extra ↔ r ∈ new ∧ r ∉ refs := by
  induction new generalizing refs with
  | nil => exact ⟨[], by simp [appendMissing], List.nodup_nil, .slnil, by simp⟩
  | cons a new ih =>
    by_cases ha : a ∈ refs
    · obtain ⟨extra, heq, hnodup, hsub, hmem⟩ := ih refs
      refine ⟨extra, ?_, hnodup, hsub.cons a, fun r => ?_⟩
      · rw [← heq, appendMissing, List.foldl_cons, if_pos ha]
        rfl
      · rw [hmem, List.mem_cons]
        grind
    · obtain ⟨extra, heq, hnodup, hsub, hmem⟩ := ih (refs ++ [a])
      refine ⟨a :: extra, ?_, ?_, hsub.cons_cons a, fun r => ?_⟩
      · rw [appendMissing, List.foldl_cons, if_neg ha]
        exact heq.trans (List.append_assoc _ _ _)
      · refine List.nodup_cons.mpr ⟨fun hin => ?_, hnodup⟩
        exact ((hmem a).mp hin).2 (List.mem_append_right _ (List.mem_singleton_self a))
      · rw [List.mem_cons, hmem, List.mem_append, List.mem_singleton, List.mem_cons]
        grind

end SpatialPlatform.Lib
