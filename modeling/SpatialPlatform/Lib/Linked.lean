import Mathlib.Data.List.Nodup
import Mathlib.Logic.ExistsUnique

/-!
# Rows linked by a parent key

A table whose rows carry a key and the key of an optional parent, grown only by
children of the last row. Such rows form a line: one root, one parent for each
other row, no two children of one row, and the last row as the only leaf.
-/

namespace SpatialPlatform.Lib

variable {R K : Type*} (key : R → K) (parent : R → Option K)

/-- Rows that start with a root and go on with children of the last row, under fresh keys. -/
inductive Linked : List R → Prop where
  | root (row : R) (hroot : parent row = none) : Linked [row]
  | child {rows : List R} {last : R} (row : R) (hrows : Linked rows)
      (hlast : rows.getLast? = some last) (hparent : parent row = some (key last))
      (hfresh : key row ∉ rows.map key) : Linked (rows ++ [row])

namespace Linked

variable {key parent} {rows : List R}

theorem ne_nil (h : Linked key parent rows) : rows ≠ [] := by
  cases h <;> simp

theorem nodup (h : Linked key parent rows) : (rows.map key).Nodup := by
  induction h with
  | root row _ => simp
  | child row _ _ _ hfresh ih =>
      rw [List.map_append, List.map_singleton, List.nodup_append]
      refine ⟨ih, by simp, ?_⟩
      intro k hk k' hk'
      rw [List.mem_singleton.mp hk']
      intro heq
      exact hfresh (heq ▸ hk)

theorem eq_of_key_eq (h : Linked key parent rows) {v w : R} (hv : v ∈ rows) (hw : w ∈ rows)
    (heq : key v = key w) : v = w :=
  List.inj_on_of_nodup_map h.nodup hv hw heq

/-- Parents are rows of the table. -/
theorem parent_mem (h : Linked key parent rows) {v : R} (hv : v ∈ rows) {k : K}
    (hk : parent v = some k) : ∃ p ∈ rows, key p = k := by
  induction h with
  | root row hroot =>
      rw [List.mem_singleton.mp hv, hroot] at hk
      exact (nomatch hk)
  | @child rows last row _ hlast hparent _ ih =>
      rcases List.mem_append.mp hv with hv | hv
      · obtain ⟨p, hp, hpk⟩ := ih hv
        exact ⟨p, List.mem_append_left _ hp, hpk⟩
      · rw [List.mem_singleton.mp hv, hparent] at hk
        exact ⟨last, List.mem_append_left _ (List.mem_of_getLast? hlast), Option.some.inj hk⟩

/-- The last row has no child. -/
theorem parent_ne_last (h : Linked key parent rows) {last : R} (hlast : rows.getLast? = some last)
    {w : R} (hw : w ∈ rows) : parent w ≠ some (key last) := by
  cases h with
  | root row hroot =>
      rw [List.mem_singleton.mp hw, hroot]
      intro hnone
      exact (nomatch hnone)
  | @child rows prev row hrows hprev hparent hfresh =>
      obtain rfl : row = last := by simpa using hlast
      intro hk
      -- the key of the new row is fresh, so no older row and not the row itself names it
      have hmem : ∃ p ∈ rows, key p = key row := by
        rcases List.mem_append.mp hw with hw | hw
        · exact hrows.parent_mem hw hk
        · rw [List.mem_singleton.mp hw, hparent] at hk
          exact ⟨prev, List.mem_of_getLast? hprev, Option.some.inj hk⟩
      obtain ⟨p, hp, heq⟩ := hmem
      exact hfresh (heq ▸ List.mem_map_of_mem hp)

theorem existsUnique_root (h : Linked key parent rows) : ∃! v, v ∈ rows ∧ parent v = none := by
  induction h with
  | root row hroot =>
      refine ⟨row, ⟨by simp, hroot⟩, ?_⟩
      intro v hv
      exact List.mem_singleton.mp hv.1
  | child row _ _ hparent _ ih =>
      obtain ⟨v, ⟨hv, hnone⟩, huniq⟩ := ih
      refine ⟨v, ⟨List.mem_append_left _ hv, hnone⟩, ?_⟩
      intro w ⟨hw, hwnone⟩
      rcases List.mem_append.mp hw with hw | hw
      · exact huniq w ⟨hw, hwnone⟩
      · rw [List.mem_singleton.mp hw, hparent] at hwnone
        exact (nomatch hwnone)

theorem existsUnique_parent (h : Linked key parent rows) {v : R} (hv : v ∈ rows)
    (hne : parent v ≠ none) : ∃! p, p ∈ rows ∧ parent v = some (key p) := by
  obtain ⟨k, hk⟩ := Option.ne_none_iff_exists'.mp hne
  obtain ⟨p, hp, rfl⟩ := h.parent_mem hv hk
  refine ⟨p, ⟨hp, hk⟩, ?_⟩
  intro q ⟨hq, hqk⟩
  exact h.eq_of_key_eq hq hp (Option.some.inj (hqk.symm.trans hk))

/-- No row has two children. -/
theorem eq_of_parent_eq (h : Linked key parent rows) {v w : R} (hv : v ∈ rows) (hw : w ∈ rows)
    {k : K} (hvk : parent v = some k) (hwk : parent w = some k) : v = w := by
  induction h with
  | root row _ => rw [List.mem_singleton.mp hv, List.mem_singleton.mp hw]
  | @child rows last row hrows hlast hparent hfresh ih =>
      -- a row before the new one and the new one would both be children of the last row
      have hold : ∀ u ∈ rows, parent u ≠ parent row := by
        intro u hu heq
        exact hrows.parent_ne_last hlast hu (heq.trans hparent)
      rcases List.mem_append.mp hv with hv | hv <;> rcases List.mem_append.mp hw with hw | hw
      · exact ih hv hw
      · rw [List.mem_singleton.mp hw] at hwk
        exact absurd (hvk.trans hwk.symm) (hold v hv)
      · rw [List.mem_singleton.mp hv] at hvk
        exact absurd (hwk.trans hvk.symm) (hold w hw)
      · rw [List.mem_singleton.mp hv, List.mem_singleton.mp hw]

/-- A row without a child is the last row. -/
theorem getLast?_of_leaf (h : Linked key parent rows) {v : R} (hv : v ∈ rows)
    (hleaf : ∀ w ∈ rows, parent w ≠ some (key v)) : rows.getLast? = some v := by
  induction h with
  | root row _ => simp [List.mem_singleton.mp hv]
  | @child rows last row hrows hlast hparent _ ih =>
      rcases List.mem_append.mp hv with hv | hv
      · have hlast' : rows.getLast? = some v := by
          apply ih hv
          intro w hw
          exact hleaf w (List.mem_append_left _ hw)
        obtain rfl : last = v := Option.some.inj (hlast.symm.trans hlast')
        exact absurd hparent (hleaf row (by simp))
      · simp [List.mem_singleton.mp hv]

theorem existsUnique_leaf (h : Linked key parent rows) :
    ∃! v, v ∈ rows ∧ ∀ w ∈ rows, parent w ≠ some (key v) := by
  obtain ⟨last, hlast⟩ : ∃ last, rows.getLast? = some last :=
    ⟨_, List.getLast?_eq_some_getLast h.ne_nil⟩
  refine ⟨last, ⟨List.mem_of_getLast? hlast, fun w hw => h.parent_ne_last hlast hw⟩, ?_⟩
  intro v ⟨hv, hleaf⟩
  exact Option.some.inj ((h.getLast?_of_leaf hv hleaf).symm.trans hlast)

end Linked

end SpatialPlatform.Lib
