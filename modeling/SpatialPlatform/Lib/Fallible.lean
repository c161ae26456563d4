import Mathlib.Data.List.Forall2
import Mathlib.Data.List.Perm.Basic

/-!
# Computations that may fail

When a chain or a list of computations succeeds, and with which values.
-/

namespace SpatialPlatform.Lib

variable {ε α β : Type}

theorem bind_eq_ok_iff {x : Except ε α} {f : α → Except ε β} {b : β} :
    (x >>= f) = .ok b ↔ ∃ a, x = .ok a ∧ f a = .ok b := by
  cases x with
  | error e => exact ⟨fun h => (nomatch h), fun ⟨_, h, _⟩ => (nomatch h)⟩
  | ok a =>
      constructor
      · exact fun h => ⟨a, rfl, h⟩
      · rintro ⟨_, hx, h⟩
        cases hx
        exact h

theorem exists_bind_ok {x : Except ε α} {f : α → Except ε β} :
    (∃ b, (x >>= f) = .ok b) ↔ ∃ a, x = .ok a ∧ ∃ b, f a = .ok b := by
  simp only [bind_eq_ok_iff]
  exact ⟨fun ⟨b, a, ha, hb⟩ => ⟨a, ha, b, hb⟩, fun ⟨a, ha, b, hb⟩ => ⟨b, a, ha, hb⟩⟩

theorem mapError_eq_ok_iff {ε' : Type} {x : Except ε α} {f : ε → ε'} {a : α} :
    x.mapError f = .ok a ↔ x = .ok a := by
  cases x with
  | error e => exact ⟨fun h => (nomatch h), fun h => (nomatch h)⟩
  | ok b => exact ⟨fun h => congrArg _ (Except.ok.inj h), fun h => congrArg _ (Except.ok.inj h)⟩

theorem mapM_eq_ok_iff {f : α → Except ε β} {l : List α} {values : List β} :
    l.mapM f = .ok values ↔ List.Forall₂ (fun a b => f a = .ok b) l values := by
  induction l generalizing values with
  | nil =>
      rw [List.mapM_nil, List.forall₂_nil_left_iff]
      exact ⟨fun h => (Except.ok.inj h).symm, fun h => congrArg Except.ok h.symm⟩
  | cons a l ih =>
      rw [List.mapM_cons, List.forall₂_cons_left_iff, bind_eq_ok_iff]
      constructor
      · rintro ⟨b, hb, h⟩
        obtain ⟨rest, hrest, h⟩ := bind_eq_ok_iff.mp h
        cases h
        exact ⟨b, rest, hb, ih.mp hrest, rfl⟩
      · rintro ⟨b, rest, hb, hrest, rfl⟩
        exact ⟨b, hb, bind_eq_ok_iff.mpr ⟨rest, ih.mpr hrest, rfl⟩⟩

/-- A list of computations succeeds if each of them does. -/
theorem exists_mapM_ok_iff {f : α → Except ε β} {l : List α} :
    (∃ values, l.mapM f = .ok values) ↔ ∀ a ∈ l, ∃ b, f a = .ok b := by
  induction l with
  | nil => exact iff_of_true ⟨[], rfl⟩ (by simp)
  | cons a l ih =>
    rw [List.mapM_cons, exists_bind_ok, List.forall_mem_cons, ← ih]
    constructor
    · rintro ⟨b, hb, values, h⟩
      obtain ⟨rest, hrest, -⟩ := bind_eq_ok_iff.mp h
      exact ⟨⟨b, hb⟩, rest, hrest⟩
    · rintro ⟨⟨b, hb⟩, rest, hrest⟩
      exact ⟨b, hb, b :: rest, bind_eq_ok_iff.mpr ⟨rest, hrest, rfl⟩⟩

/-- Every element has its value, and every value its element. -/
theorem exists_of_mapM {f : α → Except ε β} {l : List α} {values : List β}
    (h : l.mapM f = .ok values) :
    (∀ a ∈ l, ∃ b ∈ values, f a = .ok b) ∧ ∀ b ∈ values, ∃ a ∈ l, f a = .ok b := by
  induction mapM_eq_ok_iff.mp h with
  | nil => exact ⟨fun _ ha => (nomatch ha), fun _ hb => (nomatch hb)⟩
  | cons hab hrest ih =>
      obtain ⟨hleft, hright⟩ := ih (mapM_eq_ok_iff.mpr hrest)
      constructor <;> grind

/-- One list of computations after the other succeeds as one list does. -/
theorem mapM_bind_eq_ok_iff {γ : Type} {f : α → Except ε β} {g : β → Except ε γ} {l : List α}
    {values : List γ} :
    (∃ middle, l.mapM f = .ok middle ∧ middle.mapM g = .ok values) ↔
      l.mapM (fun a => f a >>= g) = .ok values := by
  simp only [mapM_eq_ok_iff, bind_eq_ok_iff]
  constructor
  · rintro ⟨middle, hleft, hright⟩
    induction hleft generalizing values with
    | nil =>
      cases hright
      exact .nil
    | cons hab _ ih =>
      cases hright with
      | cons hbc hrest => exact .cons ⟨_, hab, hbc⟩ (ih hrest)
  · intro h
    induction h with
    | nil => exact ⟨[], .nil, .nil⟩
    | cons hac _ ih =>
      obtain ⟨b, hab, hbc⟩ := hac
      obtain ⟨middle, hleft, hright⟩ := ih
      exact ⟨b :: middle, .cons hab hleft, .cons hbc hright⟩

/-- Computations that agree on a list agree on the whole list. -/
theorem mapM_eq_ok_congr {f g : α → Except ε β} {l : List α} (h : ∀ a ∈ l, f a = g a)
    {values : List β} : l.mapM f = .ok values ↔ l.mapM g = .ok values := by
  simp only [mapM_eq_ok_iff]
  induction l generalizing values with
  | nil => simp
  | cons a l ih =>
    simp only [List.forall₂_cons_left_iff, h a List.mem_cons_self,
      ih fun b hb => h b (List.mem_cons_of_mem a hb)]

/-- In another order the same values come out, in that order. -/
theorem mapM_perm {f : α → Except ε β} {l l' : List α} (hperm : l'.Perm l) {values : List β}
    (h : l.mapM f = .ok values) : ∃ values', l'.mapM f = .ok values' ∧ values'.Perm values := by
  obtain ⟨values', hforall, hvalues⟩ := List.perm_comp_forall₂ hperm (mapM_eq_ok_iff.mp h)
  exact ⟨values', mapM_eq_ok_iff.mpr hforall, hvalues⟩

end SpatialPlatform.Lib
