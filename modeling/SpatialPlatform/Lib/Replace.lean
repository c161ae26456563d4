import Mathlib.Data.List.Basic
import Mathlib.Data.List.Nodup
import Mathlib.Data.List.Perm.Basic

/-!
# Rows under a key

Tables in which a new row takes the place of the one with its key
(`replaceRow`). What a list of rows does to a table is known from what it makes
of the empty one (`mem_replaceRows`), and putting the same rows again changes
nothing (`replaceRows_twice`).

Where every key occurs once, the row that a search finds is the one with that
key, wherever it stands (`find?_key_iff`), so the order of the rows does not
matter.
-/

namespace SpatialPlatform.Lib

/-! ## Putting rows

A table in which a row replaces the one with its key, and the same for lists of
rows by induction over them. -/

section

variable {ρ ι : Type*} [DecidableEq ι] {key : ρ → ι}

/-- Remove the row with the key of the new one, and put that behind all others. -/
def replaceRow (key : ρ → ι) (rows : List ρ) (row : ρ) : List ρ :=
  rows.filter (key · ≠ key row) ++ [row]

/-- The same for each of some rows. -/
def replaceRows (key : ρ → ι) (rows new : List ρ) : List ρ := new.foldl (replaceRow key) rows

theorem mem_replaceRow {rows : List ρ} {row other : ρ} (h : other ∈ replaceRow key rows row) :
    other ∈ rows ∨ other = row := by
  rcases List.mem_append.mp h with hold | hnew
  · exact .inl (List.mem_of_mem_filter hold)
  · exact .inr (List.mem_singleton.mp hnew)

theorem replaceRows_append (rows new new' : List ρ) :
    replaceRows key rows (new ++ new') = replaceRows key (replaceRows key rows new) new' :=
  List.foldl_append

/-- The old rows that stay are in front of the new ones. -/
theorem replaceRows_eq (rows new : List ρ) : replaceRows key rows new =
    rows.filter (key · ∉ new.map key) ++ replaceRows key [] new := by
  induction new generalizing rows with
  | nil => simp [replaceRows]
  | cons row new ih =>
      have hstep : ∀ rows, replaceRows key rows (row :: new) =
          replaceRows key (replaceRow key rows row) new := fun _ => rfl
      rw [hstep, hstep [], ih (replaceRow key rows row), ih (replaceRow key [] row)]
      simp only [replaceRow, List.filter_append, List.filter_filter, List.filter_nil,
        List.nil_append, List.append_assoc, List.map_cons, List.mem_cons, not_or]
      congr 1
      apply List.filter_congr
      intro old _
      rw [← Bool.decide_and]
      exact decide_eq_decide.mpr and_comm

theorem mem_map_replaceRow {rows : List ρ} {row : ρ} {k : ι} :
    k ∈ (replaceRow key rows row).map key ↔ k ∈ rows.map key ∨ k = key row := by
  rw [replaceRow, List.map_append, List.mem_append, List.map_singleton, List.mem_singleton]
  by_cases hk : k = key row
  · exact ⟨fun _ => .inr hk, fun _ => .inr hk⟩
  · constructor
    · rintro (hold | hnew)
      · obtain ⟨old, hmem, rfl⟩ := List.mem_map.mp hold
        exact .inl (List.mem_map_of_mem (List.mem_of_mem_filter hmem))
      · exact absurd hnew hk
    · rintro (hold | hnew)
      · obtain ⟨old, hmem, rfl⟩ := List.mem_map.mp hold
        exact .inl (List.mem_map_of_mem (List.mem_filter.mpr ⟨hmem, by simpa using hk⟩))
      · exact absurd hnew hk

/-- No key is lost. -/
theorem mem_map_replaceRows {rows new : List ρ} {k : ι} :
    k ∈ (replaceRows key rows new).map key ↔ k ∈ rows.map key ∨ k ∈ new.map key := by
  induction new generalizing rows with
  | nil => simp [replaceRows]
  | cons row new ih =>
      show k ∈ (replaceRows key (replaceRow key rows row) new).map key ↔ _
      rw [ih, mem_map_replaceRow, List.map_cons, List.mem_cons, or_assoc]

/-- The rows that a table has in the end: what the new ones make of the empty
table, and the old ones with other keys. -/
theorem mem_replaceRows {rows new : List ρ} {row : ρ} :
    row ∈ replaceRows key rows new ↔ row ∈ replaceRows key [] new ∨
      row ∈ rows ∧ ∀ other ∈ replaceRows key [] new, key other ≠ key row := by
  have hkeys : key row ∉ new.map key ↔ ∀ other ∈ replaceRows key [] new, key other ≠ key row := by
    have hempty : key row ∈ (replaceRows key [] new).map key ↔ key row ∈ new.map key := by
      rw [mem_map_replaceRows, List.map_nil]
      exact or_iff_right List.not_mem_nil
    rw [← hempty, List.mem_map]
    exact ⟨fun h other hother heq => h ⟨other, hother, heq⟩,
      fun h ⟨other, hother, heq⟩ => h other hother heq⟩
  rw [replaceRows_eq, List.mem_append, List.mem_filter, decide_eq_true_iff, hkeys]
  exact or_comm

/-- Rows that are put a second time are where they were. -/
theorem replaceRows_twice (rows new : List ρ) :
    replaceRows key (replaceRows key rows new) new = replaceRows key rows new := by
  rw [replaceRows_eq (replaceRows key rows new) new, replaceRows_eq rows new, List.filter_append,
    List.filter_filter]
  have hnone : (replaceRows key [] new).filter (key · ∉ new.map key) = [] := by
    rw [List.filter_eq_nil_iff]
    intro row hrow
    have hkey := mem_map_replaceRows.mp (List.mem_map_of_mem hrow)
    simpa using hkey
  rw [hnone, List.append_nil]
  simp only [Bool.and_self]

end

/-! ## Searching by a key -/

section

variable {α κ : Type} [DecidableEq κ] (key : α → κ)

theorem find?_key_iff {l : List α} (hl : (l.map key).Nodup) {k : κ} {a : α} :
    l.find? (fun x => key x = k) = some a ↔ a ∈ l ∧ key a = k := by
  constructor
  · intro h
    exact ⟨List.mem_of_find?_eq_some h, by simpa using List.find?_some h⟩
  · rintro ⟨hmem, rfl⟩
    cases hfind : l.find? (fun x => key x = key a) with
    | none => exact absurd (List.find?_eq_none.mp hfind a hmem) (by simp)
    | some b =>
        have hkey : key b = key a := by simpa using List.find?_some hfind
        rw [List.inj_on_of_nodup_map hl (List.mem_of_find?_eq_some hfind) hmem hkey]

theorem find?_key_perm {l l' : List α} (hperm : l.Perm l') (hl : (l.map key).Nodup) (k : κ) :
    l.find? (fun x => key x = k) = l'.find? (fun x => key x = k) := by
  have hl' : (l'.map key).Nodup := (hperm.map key).nodup_iff.mp hl
  apply Option.ext
  intro a
  rw [find?_key_iff key hl, find?_key_iff key hl', hperm.mem_iff]

end

end SpatialPlatform.Lib
