import Mathlib.Data.List.Basic
import Mathlib.Data.List.Induction
import Mathlib.Order.Basic
import Mathlib.Order.Defs.LinearOrder
import Mathlib.Order.Lattice

/-!
# Maps that are ordered by a key

A map as the list of its entries, in the order of a key of their names, and
`m[name] = value`. Names of one key are one entry: the first of them stays, and
the last value wins (`mem_assignAll`).
-/

namespace SpatialPlatform.Lib.OrderedMap

variable {α β κ : Type} [LinearOrder κ] (key : α → κ)

def assign (name : α) (value : β) : List (α × β) → List (α × β)
  | [] => [(name, value)]
  | e :: m =>
      if key name < key e.1 then (name, value) :: e :: m
      else if key e.1 < key name then e :: assign name value m
      else (e.1, value) :: m

def assignAll (entries : List (α × β)) : List (α × β) :=
  entries.foldl (fun m e => assign key e.1 e.2 m) []

/-- Every key is greater than those before it. -/
def Ordered (m : List (α × β)) : Prop := m.Pairwise fun e f => key e.1 < key f.1

variable {key}

theorem mem_assign_key {name : α} {value : β} {m : List (α × β)} {e : α × β}
    (he : e ∈ assign key name value m) : key e.1 = key name ∨ ∃ f ∈ m, key f.1 = key e.1 := by
  induction m with
  | nil =>
      rw [List.mem_singleton.mp he]
      exact Or.inl rfl
  | cons f m ih =>
      unfold assign at he
      split_ifs at he with hlt hgt
      · rcases List.mem_cons.mp he with rfl | hmem
        · exact Or.inl rfl
        · exact Or.inr ⟨e, hmem, rfl⟩
      · rcases List.mem_cons.mp he with rfl | hmem
        · exact Or.inr ⟨e, List.mem_cons_self, rfl⟩
        · rcases ih hmem with hname | ⟨g, hg, hkey⟩
          · exact Or.inl hname
          · exact Or.inr ⟨g, List.mem_cons_of_mem _ hg, hkey⟩
      · rcases List.mem_cons.mp he with rfl | hmem
        · exact Or.inr ⟨f, List.mem_cons_self, rfl⟩
        · exact Or.inr ⟨e, List.mem_cons_of_mem _ hmem, rfl⟩

theorem Ordered.assign {m : List (α × β)} (h : Ordered key m) (name : α) (value : β) :
    Ordered key (assign key name value m) := by
  induction m with
  | nil => exact List.pairwise_singleton _ _
  | cons f m ih =>
      obtain ⟨hfirst, hrest⟩ := List.pairwise_cons.mp h
      unfold OrderedMap.assign
      split_ifs with hlt hgt
      · refine List.pairwise_cons.mpr ⟨?_, h⟩
        intro g hg
        rcases List.mem_cons.mp hg with rfl | hg
        · exact hlt
        · exact hlt.trans (hfirst g hg)
      · refine List.pairwise_cons.mpr ⟨?_, ih hrest⟩
        intro g hg
        rcases mem_assign_key hg with hname | ⟨e, he, hkey⟩
        · exact hname ▸ hgt
        · exact hkey ▸ hfirst e he
      · exact List.pairwise_cons.mpr ⟨hfirst, hrest⟩

/-- An entry of another key stays. Of the name's own key there is one entry:
with the name that was there, or else the new one. -/
theorem mem_assign {m : List (α × β)} (h : Ordered key m) {name : α} {value : β} {x : α} {y : β} :
    (x, y) ∈ assign key name value m ↔
      key x ≠ key name ∧ (x, y) ∈ m ∨
      key x = key name ∧ y = value ∧ ((∃ z, (x, z) ∈ m) ∨ x = name ∧ ∀ e ∈ m, key e.1 ≠ key name) := by
  induction m with
  | nil =>
      simp only [assign, List.mem_singleton, Prod.mk.injEq, List.not_mem_nil, and_false, false_or,
        exists_false]
      grind
  | cons f m ih =>
      obtain ⟨hfirst, hrest⟩ := List.pairwise_cons.mp h
      obtain ⟨a, b⟩ := f
      have ih := ih hrest
      unfold assign
      split_ifs with hlt hgt
      · -- the name comes first, and its key is nowhere else
        have habsent : ∀ e ∈ (a, b) :: m, key e.1 ≠ key name := by
          intro e he
          rcases List.mem_cons.mp he with rfl | he
          · exact hlt.ne'
          · exact (hlt.trans (hfirst e he)).ne'
        grind
      · have hne : key a ≠ key name := hgt.ne
        grind
      · have heq : key a = key name := le_antisymm (not_lt.mp hlt) (not_lt.mp hgt)
        have habsent : ∀ e ∈ m, key e.1 ≠ key name := fun e he => heq ▸ (hfirst e he).ne'
        constructor
        · intro hmem
          rcases List.mem_cons.mp hmem with hhead | hmem
          · obtain ⟨rfl, rfl⟩ := Prod.mk.injEq .. ▸ hhead
            exact Or.inr ⟨heq, rfl, Or.inl ⟨b, List.mem_cons_self⟩⟩
          · exact Or.inl ⟨habsent _ hmem, List.mem_cons_of_mem _ hmem⟩
        · rintro (⟨hne, hmem⟩ | ⟨hkey, rfl, ⟨z, hz⟩ | ⟨rfl, hnone⟩⟩)
          · grind
          · rcases List.mem_cons.mp hz with hhead | hmem
            · rw [(Prod.mk.inj hhead).1]
              exact List.mem_cons_self
            · exact absurd hkey (habsent _ hmem)
          · exact absurd heq (hnone _ List.mem_cons_self)

section

variable (key) (entries : List (α × β)) (k : κ)

/-- The name of the first entry with a key. -/
def firstName : Option α := (entries.find? fun e => key e.1 = k).map Prod.fst

/-- The value of the last entry with a key. -/
def lastValue : Option β := (entries.reverse.find? fun e => key e.1 = k).map Prod.snd

end

theorem firstName_append (entries : List (α × β)) (e : α × β) (k : κ) :
    firstName key (entries ++ [e]) k =
      (firstName key entries k).or (if key e.1 = k then some e.1 else none) := by
  unfold firstName
  rw [List.find?_append]
  cases entries.find? fun e => key e.1 = k with
  | some f => rfl
  | none => by_cases hk : key e.1 = k <;> simp [hk]

theorem lastValue_append (entries : List (α × β)) (e : α × β) (k : κ) :
    lastValue key (entries ++ [e]) k = if key e.1 = k then some e.2 else lastValue key entries k := by
  unfold lastValue
  rw [List.reverse_concat, List.find?_cons]
  by_cases hk : key e.1 = k <;> simp [hk]

/-- Behind the last entry of its key, nothing matters. -/
theorem lastValue_of_last (key : α → κ) {before after : List (α × β)} (e : α × β)
    (hafter : ∀ f ∈ after, key f.1 ≠ key e.1) :
    lastValue key (before ++ e :: after) (key e.1) = some e.2 := by
  have hlater : (after.reverse.find? fun f => key f.1 = key e.1) = none := by
    simpa using hafter
  unfold lastValue
  rw [List.reverse_append, List.reverse_cons, List.append_assoc, List.find?_append, hlater,
    Option.none_or, List.singleton_append, List.find?_cons_of_pos (by simp)]
  rfl

theorem mem_of_firstName {entries : List (α × β)} {k : κ} {x : α}
    (h : firstName key entries k = some x) : ∃ e ∈ entries, e.1 = x ∧ key e.1 = k := by
  obtain ⟨e, he, rfl⟩ := Option.map_eq_some_iff.mp h
  exact ⟨e, List.mem_of_find?_eq_some he, rfl, by simpa using List.find?_some he⟩

theorem mem_of_lastValue {entries : List (α × β)} {k : κ} {y : β}
    (h : lastValue key entries k = some y) : ∃ e ∈ entries, e.2 = y ∧ key e.1 = k := by
  obtain ⟨e, he, rfl⟩ := Option.map_eq_some_iff.mp h
  exact ⟨e, List.mem_reverse.mp (List.mem_of_find?_eq_some he), rfl,
    by simpa using List.find?_some he⟩

theorem firstName_eq_none {entries : List (α × β)} {k : κ} :
    firstName key entries k = none ↔ ∀ e ∈ entries, key e.1 ≠ k := by
  simp [firstName]

theorem exists_lastValue {entries : List (α × β)} {k : κ} {x : α}
    (h : firstName key entries k = some x) : ∃ y, lastValue key entries k = some y := by
  cases hlast : lastValue key entries k with
  | some y => exact ⟨y, rfl⟩
  | none =>
      have hnone : firstName key entries k = none :=
        firstName_eq_none.mpr (by simpa [lastValue] using hlast)
      rw [h] at hnone
      cases hnone

theorem key_of_firstName {entries : List (α × β)} {k : κ} {x : α}
    (h : firstName key entries k = some x) : key x = k := by
  obtain ⟨e, -, rfl, hkey⟩ := mem_of_firstName h
  exact hkey

/-- Each entry of a map has the first name and the last value of its key, and no
two entries have one key. -/
theorem assignAll_spec (key : α → κ) (entries : List (α × β)) :
    Ordered key (assignAll key entries) ∧ ∀ x y, (x, y) ∈ assignAll key entries ↔
      firstName key entries (key x) = some x ∧ lastValue key entries (key x) = some y := by
  induction entries using List.reverseRecOn with
  | nil => exact ⟨List.Pairwise.nil, by simp [assignAll, firstName]⟩
  | append_singleton entries e ih =>
      obtain ⟨hordered, hmem⟩ := ih
      have hstep : assignAll key (entries ++ [e]) = assign key e.1 e.2 (assignAll key entries) := by
        simp [assignAll, List.foldl_append]
      rw [hstep]
      refine ⟨hordered.assign e.1 e.2, ?_⟩
      intro x y
      rw [mem_assign hordered, firstName_append, lastValue_append]
      -- the last assignment decides the value of its key, the first one the name
      by_cases hkey : key x = key e.1
      · have hk : key e.1 = key x := hkey.symm
        simp only [hkey, ne_eq, not_true_eq_false, false_and, false_or, true_and, if_true,
          Option.some.injEq]
        rw [and_comm, eq_comm (a := y)]
        apply and_congr_left
        intro _
        cases hfirst : firstName key entries (key e.1) with
        | some w =>
            -- the key was there: its name stays
            obtain ⟨v, hlast⟩ := exists_lastValue hfirst
            have hw := key_of_firstName hfirst
            have hthere : (w, v) ∈ assignAll key entries :=
              (hmem w v).mpr (by rw [hw]; exact ⟨hfirst, hlast⟩)
            rw [Option.some_or, Option.some.injEq]
            constructor
            · rintro (⟨z, hz⟩ | ⟨-, habsent⟩)
              · have hx := ((hmem x z).mp hz).1
                rw [hkey, hfirst] at hx
                exact Option.some.inj hx
              · exact absurd hw (habsent _ hthere)
            · rintro rfl
              exact Or.inl ⟨v, hthere⟩
        | none =>
            have habsent : ∀ f ∈ assignAll key entries, key f.1 ≠ key e.1 := by
              intro f hf hkeys
              have hname := ((hmem f.1 f.2).mp hf).1
              rw [hkeys, hfirst] at hname
              cases hname
            rw [Option.none_or, Option.some.injEq]
            constructor
            · rintro (⟨z, hz⟩ | ⟨rfl, -⟩)
              · exact absurd hkey (habsent _ hz)
              · rfl
            · rintro rfl
              exact Or.inr ⟨rfl, habsent⟩
      · have hne : key e.1 ≠ key x := fun h => hkey h.symm
        simp only [hkey, hne, if_false, Option.or_none, ← hmem, ne_eq, not_false_eq_true, true_and,
          false_and, or_false]

end SpatialPlatform.Lib.OrderedMap
