import Mathlib.Data.List.Basic

/-!
# Inputs that should make no difference

A `Transducer` answers each input with a list of outputs. Foreign inputs of a
kind of their own are inserted into a run anywhere, and the question is whether
the outputs that matter stay the same.

`Intrusive` describes a machine that is disturbed by each foreign input, unless
it is deaf, and `Intrusive.outputs_padded_iff` says that for such a machine the
outputs stay the same exactly when every foreign input comes while it is deaf.
-/

namespace SpatialPlatform.Lib

structure Transducer (S I O : Type*) where
  step : S → I → List O × S

variable {S I J O : Type*}

/-- Everything that the machine puts out over a list of inputs. -/
def Transducer.outputs (m : Transducer S I O) : S → List I → List O
  | _, [] => []
  | s, i :: is => (m.step s i).1 ++ m.outputs (m.step s i).2 is

theorem Transducer.outputs_cons (m : Transducer S I O) (s : S) (i : I) (is : List I) :
    m.outputs s (i :: is) = (m.step s i).1 ++ m.outputs (m.step s i).2 is := rfl

/-! ## Scripts

A script mixes the own inputs of a machine with foreign ones. Induction over the
script, for two states that the machine has with and without them. -/

/-- The machine's own inputs, without the foreign ones. -/
def original (script : List (I ⊕ J)) : List I := script.filterMap Sum.getLeft?

/-- All inputs. -/
def padded (insert : J → I) (script : List (I ⊕ J)) : List I := script.map (Sum.elim id insert)

section script

variable (insert : J → I) (i : I) (j : J) (script : List (I ⊕ J))

@[simp] theorem original_inl : original (.inl i :: script) = i :: original script := rfl

@[simp] theorem original_inr : original (.inr j :: script) = original script := rfl

@[simp] theorem padded_inl : padded insert (.inl i :: script) = i :: padded insert script := rfl

@[simp] theorem padded_inr : padded insert (.inr j :: script) = insert j :: padded insert script :=
  rfl

end script

/-- Every foreign input comes while the machine is deaf, if it becomes so with
the inputs that `ends` tells. -/
def Unheard (ends : I → Bool) : Bool → List (I ⊕ J) → Prop
  | _, [] => True
  | deaf, .inl i :: script => Unheard ends (deaf || ends i) script
  | deaf, .inr _ :: script => deaf = true ∧ Unheard ends deaf script

instance (ends : I → Bool) : ∀ deaf (script : List (I ⊕ J)), Decidable (Unheard ends deaf script)
  | _, [] => .isTrue trivial
  | deaf, .inl i :: script => instDecidableUnheard ends (deaf || ends i) script
  | deaf, .inr _ :: script =>
      have := instDecidableUnheard ends deaf script
      inferInstanceAs (Decidable (_ ∧ _))

/-- A foreign input disturbs the machine unless it is deaf: it causes an output
of a kind that depends on nothing that it changes. -/
structure Intrusive (m : Transducer S I O) (insert : J → I) (keep : O → Bool) where
  deaf : S → Bool
  /-- The inputs that make the machine deaf. -/
  ends : I → Bool
  /-- The outputs that foreign inputs cause. -/
  marked : O → Bool
  keep_of_marked : ∀ o, marked o = true → keep o = true
  deaf_own : ∀ s i, deaf (m.step s i).2 = (deaf s || ends i)
  deaf_insert : ∀ s j, deaf (m.step s (insert j)).2 = deaf s
  /-- To a deaf machine a foreign input is nothing. -/
  step_deaf : ∀ s j, deaf s = true → m.step s (insert j) = ([], s)
  marked_insert : ∀ s j, deaf s = false → 0 < (m.step s (insert j)).1.countP marked
  /-- How many marked outputs an input causes depends on the state's deafness only. -/
  marked_own : ∀ s t i, deaf s = deaf t →
    (m.step s i).1.countP marked = (m.step t i).1.countP marked

namespace Intrusive

variable {m : Transducer S I O} {insert : J → I} {keep : O → Bool} (h : Intrusive m insert keep)

/-- Foreign inputs that go unheard change nothing at all. -/
theorem outputs_padded_of_unheard (script : List (I ⊕ J)) {s : S}
    (hunheard : Unheard h.ends (h.deaf s) script) :
    m.outputs s (padded insert script) = m.outputs s (original script) := by
  induction script generalizing s with
  | nil => rfl
  | cons entry script ih =>
      cases entry with
      | inl i =>
          rw [Unheard, ← h.deaf_own] at hunheard
          rw [padded_inl, original_inl, m.outputs_cons, m.outputs_cons, ih hunheard]
      | inr j =>
          obtain ⟨hdeaf, hunheard⟩ := hunheard
          rw [padded_inr, original_inr, m.outputs_cons, h.step_deaf s j hdeaf, List.nil_append,
            ih hunheard]

/-- Foreign inputs add marked outputs, one at least for each that is heard. -/
theorem marked_padded (script : List (I ⊕ J)) {s t : S} (hdeaf : h.deaf s = h.deaf t) :
    (m.outputs t (original script)).countP h.marked ≤
        (m.outputs s (padded insert script)).countP h.marked ∧
      (¬ Unheard h.ends (h.deaf s) script →
        (m.outputs t (original script)).countP h.marked <
          (m.outputs s (padded insert script)).countP h.marked) := by
  induction script generalizing s t with
  | nil => exact ⟨Nat.le_refl _, fun hheard => absurd trivial hheard⟩
  | cons entry script ih =>
      cases entry with
      | inl i =>
          have hdeaf' : h.deaf (m.step s i).2 = h.deaf (m.step t i).2 := by
            rw [h.deaf_own, h.deaf_own, hdeaf]
          have hmarked := h.marked_own s t i hdeaf
          obtain ⟨hle, hlt⟩ := ih hdeaf'
          rw [h.deaf_own] at hlt
          rw [original_inl, padded_inl, m.outputs_cons, m.outputs_cons, List.countP_append,
            List.countP_append, hmarked]
          exact ⟨Nat.add_le_add_left hle _, fun hheard => Nat.add_lt_add_left (hlt hheard) _⟩
      | inr j =>
          have hdeaf' : h.deaf (m.step s (insert j)).2 = h.deaf t := by
            rw [h.deaf_insert, hdeaf]
          obtain ⟨hle, hlt⟩ := ih hdeaf'
          rw [h.deaf_insert] at hlt
          rw [original_inr, padded_inr, m.outputs_cons, List.countP_append]
          refine ⟨Nat.le_trans hle (Nat.le_add_left _ _), fun hheard => ?_⟩
          cases hs : h.deaf s with
          | true =>
              -- this one is not heard, so a later one is
              rw [Unheard, not_and] at hheard
              exact Nat.lt_of_lt_of_le (hlt (hheard hs)) (Nat.le_add_left _ _)
          | false =>
              have hpos := h.marked_insert s j hs
              omega

/-- The outputs that matter are the same with the foreign inputs as without them
exactly when all of these come while the machine is deaf. -/
theorem outputs_padded_iff (s : S) (script : List (I ⊕ J)) :
    (m.outputs s (padded insert script)).filter keep =
        (m.outputs s (original script)).filter keep ↔
      Unheard h.ends (h.deaf s) script := by
  constructor
  · intro heq
    by_contra hheard
    have hlt := (h.marked_padded script (Eq.refl (h.deaf s))).2 hheard
    -- the marked outputs are among those that matter
    have hcount : ∀ os : List O, (os.filter keep).countP h.marked = os.countP h.marked := by
      intro os
      rw [List.countP_filter]
      congr 1
      funext o
      cases hmarked : h.marked o with
      | false => rfl
      | true => rw [h.keep_of_marked o hmarked]; rfl
    rw [← hcount, ← hcount (m.outputs s (padded insert script)), heq] at hlt
    exact Nat.lt_irrefl _ hlt
  · intro hunheard
    rw [h.outputs_padded_of_unheard script hunheard]

end Intrusive

end SpatialPlatform.Lib
