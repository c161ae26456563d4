import Mathlib.Data.List.Forall2
import Mathlib.Data.List.Perm.Basic
import Mathlib.Data.List.Sort
import Mathlib.Order.Antisymmetrization

/-!
# Sorting and taking the first

`std::sort` promises a permutation in which no element comes before one that
should be in front of it, and leaves the order of equal ones open. The first `k`
elements of such a list are the best ones (`Best`), whichever of the promised
lists it is. What is sorted in another order comes out the same place by place,
up to ties.
-/

namespace SpatialPlatform.Lib.Ranking

/-- A `std::sort` for a comparison. -/
structure StdSort (α : Type) (before : α → α → Bool) where
  sort : List α → List α
  perm : ∀ l, (sort l).Perm l
  sorted : ∀ l, (sort l).Pairwise fun a b => before b a = false

variable {α β S : Type} [LinearOrder S]

/-- Insertion sort is one, by descending scores. -/
def StdSort.insertion (score : α → S) : StdSort α fun a b => decide (score b < score a) where
  sort := List.insertionSort fun a b => score b ≤ score a
  perm := List.perm_insertionSort _
  sorted l := by
    have : Std.Total fun a b : α => score b ≤ score a := ⟨fun a b => le_total _ _⟩
    have : IsTrans α fun a b : α => score b ≤ score a := ⟨fun _ _ _ h h' => le_trans h' h⟩
    exact (List.pairwise_insertionSort (fun a b => score b ≤ score a) l).imp fun h => by
      simpa using h

/-- The chosen elements are some of the pool, in descending order, and none that
is left out is better. -/
structure Best (score : α → S) (pool chosen : List α) : Prop where
  nodup : chosen.Nodup
  mem : ∀ a ∈ chosen, a ∈ pool
  descending : chosen.Pairwise fun a b => score b ≤ score a
  best : ∀ a ∈ chosen, ∀ b ∈ pool, b ∉ chosen → score b ≤ score a

/-- What is in front of a sorted pool is the best of it. -/
theorem best_take {score : α → S} {pool ranked : List α} (hpool : pool.Nodup)
    (hperm : ranked.Perm pool) (hsorted : ranked.Pairwise fun a b => score b ≤ score a) (k : ℕ) :
    Best score pool (ranked.take k) where
  nodup := (hperm.nodup_iff.mpr hpool).sublist (List.take_sublist k ranked)
  mem a ha := hperm.mem_iff.mp (List.mem_of_mem_take ha)
  descending := hsorted.sublist (List.take_sublist k ranked)
  best a ha b hb hleft := by
    have hsplit : ranked.take k ++ ranked.drop k = ranked := List.take_append_drop k ranked
    have hdropped : b ∈ ranked.drop k := by
      have hmem := hperm.mem_iff.mpr hb
      rw [← hsplit] at hmem
      exact (List.mem_append.mp hmem).resolve_left hleft
    rw [← hsplit] at hsorted
    exact (List.pairwise_append.mp hsorted).2.2 a ha b hdropped

/-- A list of images that are permuted is the list of images of a permuted list. -/
theorem exists_perm_map {f : α → β} {l : List α} {images : List β} (h : images.Perm (l.map f)) :
    ∃ l' : List α, l'.Perm l ∧ images = l'.map f := by
  have himages : List.Forall₂ (fun b a => b = f a) (l.map f) l :=
    List.forall₂_map_left_iff.mpr (List.forall₂_same.mpr fun _ _ => rfl)
  obtain ⟨l', hforall, hperm⟩ := List.perm_comp_forall₂ h himages
  refine ⟨l', hperm, ?_⟩
  have hmapped : List.Forall₂ (· = ·) images (l'.map f) := List.forall₂_map_right_iff.mpr hforall
  exact List.forall₂_eq_eq_eq ▸ hmapped

/-! ## Ties -/

/-- Two sorted lists of the same elements agree place by place, up to ties. -/
theorem forall₂_of_sorted_perm [Preorder α] {l l' : List α} (hperm : l.Perm l')
    (hl : l.Pairwise (· ≤ ·)) (hl' : l'.Pairwise (· ≤ ·)) :
    List.Forall₂ (fun a b => a ≤ b ∧ b ≤ a) l l' := by
  have hsame : l.map (toAntisymmetrization (· ≤ ·)) = l'.map (toAntisymmetrization (· ≤ ·)) := by
    have hsorted : ∀ {k : List α}, k.Pairwise (· ≤ ·) →
        (k.map (toAntisymmetrization (· ≤ ·))).Pairwise (· ≤ ·) := fun hk =>
      List.pairwise_map.mpr (hk.imp fun h => h)
    exact List.Perm.eq_of_pairwise' (hsorted hl) (hsorted hl') (hperm.map _)
  have hclasses : List.Forall₂ (· = ·) (l.map (toAntisymmetrization (· ≤ ·)))
      (l'.map (toAntisymmetrization (· ≤ ·))) := List.forall₂_eq_eq_eq.symm ▸ hsame
  rw [List.forall₂_map_left_iff, List.forall₂_map_right_iff] at hclasses
  exact hclasses.imp fun a b h => Quotient.exact h

/-- What is sorted in another order comes out the same up to ties, if the
relation is total where the elements are. -/
theorem forall₂_insertionSort {r : α → α → Prop} [DecidableRel r] {P : α → Prop}
    (htotal : ∀ a b, P a → P b → r a b ∨ r b a) (htrans : ∀ a b c, r a b → r b c → r a c)
    {l l' : List α} (hl : ∀ a ∈ l, P a) (hperm : l'.Perm l) :
    List.Forall₂ (fun a b => r a b ∧ r b a) (l'.insertionSort r) (l.insertionSort r) := by
  have hl' : ∀ a ∈ l', P a := fun a ha => hl a (hperm.mem_iff.mp ha)
  let order : Preorder {a // P a} :=
    { le := fun a b => r a.1 b.1
      le_refl := fun a => (htotal a.1 a.1 a.2 a.2).elim id id
      le_trans := fun a b c => htrans a.1 b.1 c.1 }
  have : DecidableLE {a // P a} := fun a b => inferInstanceAs (Decidable (r a.1 b.1))
  have : Std.Total fun a b : {a // P a} => a ≤ b := ⟨fun a b => htotal a.1 b.1 a.2 b.2⟩
  have hvalues : ∀ (k : List α) (hk : ∀ a ∈ k, P a),
      ((k.pmap Subtype.mk hk).insertionSort (· ≤ ·)).map Subtype.val = k.insertionSort r := by
    intro k hk
    have hmapped := List.map_insertionSort (· ≤ ·) r Subtype.val (k.pmap Subtype.mk hk)
      fun a _ b _ => Iff.rfl
    rw [hmapped, List.map_pmap]
    simp
  rw [← hvalues l' hl', ← hvalues l hl, List.forall₂_map_left_iff, List.forall₂_map_right_iff]
  apply forall₂_of_sorted_perm
  · exact ((List.perm_insertionSort _ _).trans (hperm.pmap _)).trans (List.perm_insertionSort _ _).symm
  · exact List.pairwise_insertionSort _ _
  · exact List.pairwise_insertionSort _ _

end SpatialPlatform.Lib.Ranking
