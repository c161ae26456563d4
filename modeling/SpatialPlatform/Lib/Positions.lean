import Mathlib.Data.Set.Subsingleton
import SpatialPlatform.Lib.Fallible

/-!
# Positions of a list

The positions of a list whose entries have a property, as parties of a protocol
that hold a resource. At most one party holds it when the set of positions is a
subsingleton.

* `Apart` — any two parties are so related; `Apart.set` is the rule for one that
  moves.
* `Apart.positions_subsingleton` — what keeps them from holding the resource
  together.

A loop over a list is told by how many turns it has done: `P n s` says what
holds of the state `s` after `n` turns.

* `foldlM_position`, `foldlM_zipIdx` — loops whose turns may fail, and when they
  do.
* `foldl_zipIdx` — loops whose turns cannot.
* `exists_first` — how far a property reaches from the front.
-/

namespace SpatialPlatform.Lib

/-! ## Entries with a property -/

section

variable {α : Type*} {P : α → Prop} {l : List α} {i : Nat} {a b : α}

/-- The positions of the entries in `P`. -/
def positions (P : α → Prop) (l : List α) : Set Nat := {i | ∃ a, l[i]? = some a ∧ P a}

@[grind =] theorem mem_positions : i ∈ positions P l ↔ ∃ a, l[i]? = some a ∧ P a := Iff.rfl

@[simp] theorem positions_nil : positions P [] = ∅ := by
  ext i
  simp [mem_positions]

end

/-! ## Entries at different positions

A relation between any two parties of a protocol is kept when the one that moves
is again so related to all others, in both directions. -/

section

variable {α : Type*} {P : α → Prop} {R R' : α → α → Prop} {l : List α} {i : Nat} {a b : α}

/-- Entries at different positions are so related. -/
def Apart (R : α → α → Prop) (l : List α) : Prop :=
  ∀ ⦃i j : Nat⦄ ⦃a b : α⦄, l[i]? = some a → l[j]? = some b → i ≠ j → R a b

theorem apart_nil : Apart R [] := by
  intro i j a b ha
  simp at ha

theorem Apart.mono (h : Apart R l) (himp : ∀ a ∈ l, ∀ b ∈ l, R a b → R' a b) : Apart R' l := by
  intro i j a b ha hb hij
  exact himp a (List.mem_of_getElem? ha) b (List.mem_of_getElem? hb) (h ha hb hij)

theorem Apart.concat (h : Apart R l) (hlast : ∀ b ∈ l, R a b ∧ R b a) : Apart R (l ++ [a]) := by
  have hget : ∀ {k : Nat} {c : α}, (l ++ [a])[k]? = some c → l[k]? = some c ∨ k = l.length ∧ c = a := by
    intro k c hk
    rcases Nat.lt_or_ge k l.length with hlt | hge
    · exact .inl (by rwa [List.getElem?_append_left hlt] at hk)
    · rw [List.getElem?_append_right hge, List.getElem?_singleton] at hk
      split at hk
      · exact .inr ⟨by omega, (Option.some.inj hk).symm⟩
      · exact (nomatch hk)
  intro i j b c hb hc hij
  rcases hget hb with hb | ⟨hi, hb⟩ <;> rcases hget hc with hc | ⟨hj, hc⟩
  · exact h hb hc hij
  · rw [hc]
    exact (hlast b (List.mem_of_getElem? hb)).2
  · rw [hb]
    exact (hlast c (List.mem_of_getElem? hc)).1
  · omega

theorem Apart.map {f : α → α} (h : Apart R l) (hf : ∀ a b, R a b → R (f a) (f b)) :
    Apart R (l.map f) := by
  intro i j b c hb hc hij
  rw [List.getElem?_map] at hb hc
  obtain ⟨a, ha, rfl⟩ := Option.map_eq_some_iff.mp hb
  obtain ⟨d, hd, rfl⟩ := Option.map_eq_some_iff.mp hc
  exact hf a d (h ha hd hij)

/-- The rule for one party that moves. -/
theorem Apart.set (h : Apart R l) (hnew : ∀ (j : Nat) c, j ≠ i → l[j]? = some c → R b c ∧ R c b) :
    Apart R (l.set i b) := by
  intro j k c d hc hd hjk
  rw [List.getElem?_set] at hc hd
  split at hc <;> split at hd
  · omega
  · split at hc
    · cases hc
      exact (hnew k d (by omega) hd).1
    · exact (nomatch hc)
  · split at hd
    · cases hd
      exact (hnew j c (by omega) hc).2
    · exact (nomatch hd)
  · exact h hc hd hjk

/-- At most one entry has a property that no two of them have. -/
theorem Apart.positions_subsingleton (h : Apart R l) (hR : ∀ a ∈ l, ∀ b ∈ l, R a b → P a → ¬ P b) :
    (positions P l).Subsingleton := by
  rintro i ⟨a, ha, hPa⟩ j ⟨b, hb, hPb⟩
  by_contra hij
  exact hR a (List.mem_of_getElem? ha) b (List.mem_of_getElem? hb) (h ha hb hij) hPa hPb

end

/-! ## Loops

Loops over a list whose turns see their position, by induction over the list
from any position. -/

section

variable {ε α σ : Type}

/-- A fold, told by its position: the turn at `i` succeeds when `Q i` says so, and `P` is kept. -/
theorem foldlM_position {σ : Type} {f : σ → α → Except ε σ} {l : List α} {P : ℕ → σ → Prop}
    {Q : ℕ → Prop} (hok : ∀ i a s, l[i]? = some a → P i s → ((∃ s', f s a = .ok s') ↔ Q i))
    (hkeep : ∀ i a s s', l[i]? = some a → P i s → f s a = .ok s' → P (i + 1) s') {s : σ}
    (h₀ : P 0 s) :
    ((∃ s', l.foldlM f s = .ok s') ↔ ∀ i < l.length, Q i) ∧
      ∀ s', l.foldlM f s = .ok s' → P l.length s' := by
  induction l generalizing P Q s with
  | nil =>
      refine ⟨iff_of_true ⟨s, rfl⟩ (by simp), ?_⟩
      intro s' h
      cases h
      exact h₀
  | cons a l ih =>
      -- the rest of the list, with all positions moved by one
      have hturn : ∀ s₁, f s a = .ok s₁ →
          ((∃ s', l.foldlM f s₁ = .ok s') ↔ ∀ i < l.length, Q (i + 1)) ∧
            ∀ s', l.foldlM f s₁ = .ok s' → P (l.length + 1) s' := by
        intro s₁ h₁
        refine @ih (fun i => P (i + 1)) (fun i => Q (i + 1)) ?_ ?_ s₁ (hkeep 0 a s s₁ rfl h₀ h₁)
        · intro i b t hb
          exact hok (i + 1) b t hb
        · intro i b t t' hb
          exact hkeep (i + 1) b t t' hb
      rw [List.foldlM_cons]
      constructor
      · rw [exists_bind_ok, List.length_cons]
        constructor
        · rintro ⟨s₁, h₁, hrest⟩ i hi
          cases i with
          | zero => exact (hok 0 a s rfl h₀).mp ⟨s₁, h₁⟩
          | succ i => exact (hturn s₁ h₁).1.mp hrest i (Nat.lt_of_succ_lt_succ hi)
        · intro hall
          obtain ⟨s₁, h₁⟩ := (hok 0 a s rfl h₀).mpr (hall 0 (Nat.succ_pos _))
          exact ⟨s₁, h₁, (hturn s₁ h₁).1.mpr fun i hi => hall (i + 1) (Nat.succ_lt_succ hi)⟩
      · intro s' h
        obtain ⟨s₁, h₁, hrest⟩ := bind_eq_ok_iff.mp h
        exact (hturn s₁ h₁).2 s' hrest

/-- A loop whose turns see the position. -/
theorem foldlM_zipIdx {f : σ → α × ℕ → Except ε σ} {l : List α} {P : ℕ → σ → Prop}
    (hturn : ∀ i a s, l[i]? = some a → P i s → ∃ s', f s (a, i) = .ok s' ∧ P (i + 1) s') {s : σ}
    (h₀ : P 0 s) : ∃ s', l.zipIdx.foldlM f s = .ok s' ∧ P l.length s' := by
  have hget : ∀ {i j : ℕ} {a : α}, l.zipIdx[i]? = some (a, j) → l[i]? = some a ∧ j = i := by
    intro i j a h
    rw [List.getElem?_zipIdx] at h
    obtain ⟨b, hb, heq⟩ := Option.map_eq_some_iff.mp h
    cases heq
    exact ⟨hb, Nat.zero_add i⟩
  have hstep : ∀ i (a : α × ℕ) s, l.zipIdx[i]? = some a → P i s →
      ∃ s', f s a = .ok s' ∧ P (i + 1) s' := by
    rintro i ⟨a, j⟩ s ha hs
    obtain ⟨ha, rfl⟩ := hget ha
    exact hturn _ a s ha hs
  obtain ⟨hiff, hend⟩ := foldlM_position (l := l.zipIdx) (f := f) (P := P) (Q := fun _ => True)
    (fun i a s ha hs => iff_of_true ((hstep i a s ha hs).imp fun _ h => h.1) trivial)
    (fun i a s s' ha hs hok => by
      obtain ⟨s'', hok', hs''⟩ := hstep i a s ha hs
      rw [hok] at hok'
      cases hok'
      exact hs'') h₀
  obtain ⟨s', hok⟩ := hiff.mpr fun _ _ => trivial
  refine ⟨s', hok, ?_⟩
  rw [← List.length_zipIdx (l := l) (i := 0)]
  exact hend s' hok

/-- A loop that cannot fail. -/
theorem foldl_zipIdx {f : σ → α × ℕ → σ} {l : List α} {P : ℕ → σ → Prop}
    (hturn : ∀ i a s, l[i]? = some a → P i s → P (i + 1) (f s (a, i))) {s : σ} (h₀ : P 0 s) :
    P l.length (l.zipIdx.foldl f s) := by
  obtain ⟨s', hok, hend⟩ := foldlM_zipIdx (ε := Empty) (f := fun s a => .ok (f s a)) (P := P)
    (fun i a s ha hs => ⟨_, rfl, hturn i a s ha hs⟩) h₀
  have hpure : ∀ (l : List (α × ℕ)) (s : σ),
      l.foldlM (fun s a => (.ok (f s a) : Except Empty σ)) s = .ok (l.foldl f s) := by
    intro l
    induction l with
    | nil => exact fun _ => rfl
    | cons a l ih => exact fun s => ih (f s a)
  rw [hpure] at hok
  cases hok
  exact hend

/-- How far a property reaches from the front. -/
theorem exists_first (p : ℕ → Prop) (n : ℕ) : ∃ m ≤ n, (∀ i < m, p i) ∧ (m < n → ¬ p m) := by
  induction n with
  | zero => exact ⟨0, Nat.le_refl 0, by simp, fun h => absurd h (Nat.lt_irrefl 0)⟩
  | succ n ih =>
      obtain ⟨m, hm, hall, hstop⟩ := ih
      by_cases hend : m < n ∨ ¬ p m
      · refine ⟨m, Nat.le_succ_of_le hm, hall, fun _ => ?_⟩
        exact hend.elim hstop id
      · obtain ⟨hge, hp⟩ := not_or.mp hend
        obtain rfl : m = n := Nat.le_antisymm hm (Nat.le_of_not_lt hge)
        refine ⟨m + 1, Nat.le_refl _, fun i hi => ?_, fun h => absurd h (Nat.lt_irrefl _)⟩
        rcases Nat.lt_succ_iff_lt_or_eq.mp hi with hlt | rfl
        · exact hall i hlt
        · exact not_not.mp hp

end

end SpatialPlatform.Lib
