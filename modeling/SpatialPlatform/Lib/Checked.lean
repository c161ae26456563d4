import Mathlib.Algebra.Group.Nat.Defs
import SpatialPlatform.Lib.Persist

/-!
# Checked programs on a buffer

A program reads a buffer and computes offsets into it. A read outside the buffer
ends the program, and so does a loop that uses up its fuel; an offset that does
not fit its type wraps, as unsigned integers do, and leaves a mark. `Clean` says
that a program does none of this, with a rule for each construct.
-/

namespace SpatialPlatform.Lib

/-- What ends a program on a buffer. -/
inductive Fault where
  | outOfBounds (offset : Nat)
  | unfinished
  deriving DecidableEq, Repr

/-- A program on a buffer; the state tells whether an offset has wrapped. -/
abbrev Checked (α : Type) := Persist Bool Fault α

namespace Checked

variable {α β S : Type}

/-- The byte at an offset. -/
def readAt (data : List UInt8) (offset : Nat) : Checked UInt8 :=
  match data[offset]? with
  | some byte => pure byte
  | none => Persist.fail (.outOfBounds offset)

/-- The bytes from an offset on. -/
def readRange (data : List UInt8) (offset count : Nat) : Checked (List UInt8) :=
  if offset + count ≤ data.length then pure ((data.drop offset).take count)
  else Persist.fail (.outOfBounds (offset + count))

/-- A number in an unsigned type of some width. -/
def cast (width n : Nat) : Checked Nat := fun wrapped =>
  (.ok (n % 2 ^ width), wrapped || decide (2 ^ width ≤ n))

/-- A sum of type `size_t`. -/
def plus (a b : Nat) : Checked Nat := cast 64 (a + b)

/-- A difference of type `size_t`. -/
def minus (a b : Nat) : Checked Nat := fun wrapped =>
  (.ok (if b ≤ a then a - b else 2 ^ 64 + a - b), wrapped || decide (a < b))

/-- A loop: a step goes on from another state or ends with a result. -/
def iterate (step : S → Checked (S ⊕ α)) : Nat → S → Checked α
  | 0, _ => Persist.fail .unfinished
  | fuel + 1, s => do
      match ← step s with
      | .inl s => iterate step fuel s
      | .inr a => pure a

theorem iterate_inl {step : S → Checked (S ⊕ α)} {s s' : S} (h : step s = pure (.inl s'))
    (fuel : Nat) : iterate step (fuel + 1) s = iterate step fuel s' := by
  rw [iterate, h]
  rfl

theorem iterate_inr {step : S → Checked (S ⊕ α)} {s : S} {a : α} (h : step s = pure (.inr a))
    (fuel : Nat) : iterate step (fuel + 1) s = pure a := by
  rw [iterate, h]
  rfl

/-- From a state without a mark, the program returns a result in `Q` and leaves no mark. -/
def Clean (x : Checked α) (Q : α → Prop) : Prop :=
  Persist.Triple (· = false) x (fun a wrapped => wrapped = false ∧ Q a) fun _ => False

variable {x : Checked α} {Q Q' : α → Prop}

theorem Clean.pure {a : α} (h : Q a) : Clean (pure a) Q :=
  Persist.Triple.pure fun _ hs => ⟨hs, h⟩

theorem Clean.bind {f : α → Checked β} {R : β → Prop} (hx : Clean x Q)
    (hf : ∀ a, Q a → Clean (f a) R) : Clean (x >>= f) R := by
  apply Persist.Triple.bind hx
  intro a s ⟨hs, ha⟩
  exact hf a ha s hs

theorem Clean.ite {c : Prop} [Decidable c] {x y : Checked α} (hx : c → Clean x Q)
    (hy : ¬ c → Clean y Q) : Clean (if c then x else y) Q :=
  Persist.Triple.ite hx hy

theorem Clean.mono (h : Clean x Q) (hmono : ∀ a, Q a → Q' a) : Clean x Q' :=
  Persist.Triple.post h (fun a _ ha => ⟨ha.1, hmono a ha.2⟩) fun _ => id

/-- The result of a clean program. -/
theorem Clean.run (h : Clean x Q) : ∃ a, x false = (.ok a, false) ∧ Q a := by
  obtain ⟨a, s, hrun, rfl, ha⟩ | ⟨_, _, _, hfalse⟩ := Persist.Triple.cases h rfl
  · exact ⟨a, hrun, ha⟩
  · exact hfalse.elim

theorem Clean.of_run {a : α} (h : x false = (.ok a, false)) (ha : Q a) : Clean x Q := by
  intro s hs
  subst hs
  rw [h]
  exact ⟨rfl, ha⟩

theorem readAt_of_lt {data : List UInt8} {offset : Nat} (h : offset < data.length) :
    readAt data offset = pure data[offset] := by
  simp only [readAt, List.getElem?_eq_getElem h]

theorem readRange_of_le {data : List UInt8} {offset count : Nat} (h : offset + count ≤ data.length) :
    readRange data offset count = pure ((data.drop offset).take count) := if_pos h

theorem cast_of_lt {width n : Nat} (h : n < 2 ^ width) : cast width n = pure n := by
  funext wrapped
  simp only [cast, Nat.mod_eq_of_lt h, Nat.not_le.mpr h, decide_false, Bool.or_false]
  rfl

theorem plus_of_lt {a b : Nat} (h : a + b < 2 ^ 64) : plus a b = pure (a + b) := cast_of_lt h

theorem minus_of_le {a b : Nat} (h : b ≤ a) : minus a b = pure (a - b) := by
  funext wrapped
  simp only [minus, h, if_true, Nat.not_lt.mpr h, decide_false, Bool.or_false]
  rfl

theorem Clean.readAt {data : List UInt8} {offset : Nat} (h : offset < data.length) :
    Clean (readAt data offset) (· = data[offset]) := by
  rw [readAt_of_lt h]
  exact Clean.pure rfl

theorem Clean.plus {a b : Nat} (h : a + b < 2 ^ 64) : Clean (plus a b) (· = a + b) := by
  rw [plus_of_lt h]
  exact Clean.pure rfl

theorem Clean.readRange {data : List UInt8} {offset count : Nat} (h : offset + count ≤ data.length) :
    Clean (readRange data offset count) (· = (data.drop offset).take count) := by
  rw [readRange_of_le h]
  exact Clean.pure rfl

/-- A loop is clean when its step keeps an invariant and makes a measure
smaller, for which there is fuel. -/
theorem Clean.iterate {step : S → Checked (S ⊕ α)} (I : S → Prop) (measure : S → Nat)
    (hstep : ∀ s, I s → Clean (step s) fun
      | .inl s' => I s' ∧ measure s' < measure s
      | .inr a => Q a)
    {fuel : Nat} {s : S} (hs : I s) (hfuel : measure s < fuel) : Clean (iterate step fuel s) Q := by
  induction fuel generalizing s with
  | zero => exact absurd hfuel (Nat.not_lt_zero _)
  | succ fuel ih =>
    apply Clean.bind (hstep s hs)
    intro next hnext
    cases next with
    | inl s' => exact ih hnext.1 (by omega)
    | inr a => exact Clean.pure hnext

end Checked

end SpatialPlatform.Lib
