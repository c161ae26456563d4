import Mathlib.Data.List.Basic

/-!
# Separated parts

Texts that are joined with a separator can be taken apart again when no part
contains it: with the separator behind each part (`terminated`) or in front of
each part (`prefixed`).
-/

namespace SpatialPlatform.Lib

variable {α : Type*} {sep : α}

/-- Every part, with the separator behind it. -/
def terminated (sep : α) (parts : List (List α)) : List α := parts.flatMap (· ++ [sep])

/-- Every part, with the separator in front of it. -/
def prefixed (sep : α) (parts : List (List α)) : List α := parts.flatMap (sep :: ·)

@[simp] theorem terminated_cons (part : List α) (parts : List (List α)) :
    terminated sep (part :: parts) = part ++ sep :: terminated sep parts := by
  simp [terminated]

/-- The first separator of a text shows where the first part ends. -/
theorem append_sep_inj {a b as bs : List α} (ha : sep ∉ a) (hb : sep ∉ b)
    (h : a ++ sep :: as = b ++ sep :: bs) : a = b ∧ as = bs := by
  induction a generalizing b with
  | nil =>
      cases b with
      | nil => simpa using h
      | cons y b =>
          have hhead : sep = y := (List.cons.inj h).1
          exact absurd (hhead ▸ List.mem_cons_self) hb
  | cons x a ih =>
      cases b with
      | nil =>
          have hhead : x = sep := (List.cons.inj h).1
          exact absurd (hhead ▸ List.mem_cons_self) ha
      | cons y b =>
          obtain ⟨rfl, htail⟩ := List.cons.inj h
          obtain ⟨rfl, hrest⟩ :=
            ih (fun hmem => ha (.tail _ hmem)) (fun hmem => hb (.tail _ hmem)) htail
          exact ⟨rfl, hrest⟩

/-- Terminated parts with a last part behind them. -/
theorem terminated_inj {parts parts' : List (List α)} {last last' : List α}
    (hparts : ∀ part ∈ parts, sep ∉ part) (hparts' : ∀ part ∈ parts', sep ∉ part)
    (hlast : sep ∉ last) (hlast' : sep ∉ last')
    (h : terminated sep parts ++ last = terminated sep parts' ++ last') :
    parts = parts' ∧ last = last' := by
  induction parts generalizing parts' with
  | nil =>
      cases parts' with
      | nil => exact ⟨rfl, h⟩
      | cons part' parts' =>
          -- a separator on the right, none on the left
          have hmem : sep ∈ last := by
            rw [show last = terminated sep (part' :: parts') ++ last' from h]
            simp
          exact absurd hmem hlast
  | cons part parts ih =>
      cases parts' with
      | nil =>
          have hmem : sep ∈ last' := by
            rw [show last' = terminated sep (part :: parts) ++ last from h.symm]
            simp
          exact absurd hmem hlast'
      | cons part' parts' =>
          simp only [terminated_cons, List.append_assoc, List.cons_append] at h
          obtain ⟨rfl, hrest⟩ :=
            append_sep_inj (hparts part (by simp)) (hparts' part' (by simp)) h
          obtain ⟨rfl, hlasts⟩ :=
            ih (fun p hp => hparts p (.tail _ hp)) (fun p hp => hparts' p (.tail _ hp)) hrest
          exact ⟨rfl, hlasts⟩

/-- Moving every separator behind its part only moves the first one to the end. -/
theorem prefixed_append_sep (parts : List (List α)) :
    prefixed sep parts ++ [sep] = sep :: terminated sep parts := by
  induction parts with
  | nil => rfl
  | cons part parts ih =>
      show sep :: (part ++ prefixed sep parts) ++ [sep] = _
      rw [terminated_cons, List.cons_append, List.append_assoc, ih]

theorem prefixed_inj {parts parts' : List (List α)} (hparts : ∀ part ∈ parts, sep ∉ part)
    (hparts' : ∀ part ∈ parts', sep ∉ part) (h : prefixed sep parts = prefixed sep parts') :
    parts = parts' := by
  have hterminated : terminated sep parts ++ [] = terminated sep parts' ++ [] := by
    have hsep : sep :: terminated sep parts = sep :: terminated sep parts' := by
      rw [← prefixed_append_sep, ← prefixed_append_sep, h]
    simpa using hsep
  exact (terminated_inj hparts hparts' (by simp) (by simp) hterminated).1

end SpatialPlatform.Lib
