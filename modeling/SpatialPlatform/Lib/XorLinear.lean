import Mathlib.Data.BitVec

/-!
# Functions of words that are linear over exclusive or

A linear function is known from the words with a single bit, so that two of them
can be compared by evaluating both on finitely many words (`XorLinear.ext`).
That a linear function loses nothing follows from a table that inverts it there
(`XorLinear.injective`).
-/

namespace SpatialPlatform.Lib

variable {u v w : Nat}

def XorLinear (f : BitVec v → BitVec w) : Prop := ∀ x y, f (x ^^^ y) = f x ^^^ f y

namespace XorLinear

theorem identity : XorLinear fun x : BitVec w => x := fun _ _ => rfl

theorem comp {g : BitVec v → BitVec w} {f : BitVec u → BitVec v} (hg : XorLinear g)
    (hf : XorLinear f) : XorLinear fun x => g (f x) := by
  intro x y
  show g (f (x ^^^ y)) = g (f x) ^^^ g (f y)
  rw [hf, hg]

theorem xor {f g : BitVec v → BitVec w} (hf : XorLinear f) (hg : XorLinear g) :
    XorLinear fun x => f x ^^^ g x := by
  intro x y
  show f (x ^^^ y) ^^^ g (x ^^^ y) = (f x ^^^ g x) ^^^ (f y ^^^ g y)
  rw [hf, hg]
  ac_rfl

theorem shiftLeft (n : Nat) : XorLinear fun x : BitVec w => x <<< n :=
  fun x y => BitVec.shiftLeft_xor_distrib x y n

theorem shiftRight (n : Nat) : XorLinear fun x : BitVec w => x >>> n :=
  fun x y => BitVec.ushiftRight_xor_distrib x y n

theorem mask (bits : BitVec w) : XorLinear fun x => x &&& bits := by
  intro x y
  apply BitVec.eq_of_getLsbD_eq
  intro i hi
  simp only [BitVec.getLsbD_and, BitVec.getLsbD_xor]
  cases x.getLsbD i <;> cases y.getLsbD i <;> cases bits.getLsbD i <;> rfl

theorem zero {f : BitVec v → BitVec w} (hf : XorLinear f) : f 0 = 0 := by
  have h := hf 0 0
  simpa using h

/-- The lowest `n` bits of a word. -/
def lowBits (x : BitVec w) : Nat → BitVec w
  | 0 => 0
  | n + 1 => lowBits x n ^^^ (if x.getLsbD n then BitVec.twoPow w n else 0)

theorem getLsbD_lowBits (x : BitVec w) (n i : Nat) :
    (lowBits x n).getLsbD i = (decide (i < n) && x.getLsbD i) := by
  induction n with
  | zero => simp [lowBits]
  | succ n ih =>
      rw [lowBits, BitVec.getLsbD_xor, ih]
      by_cases hin : i = n
      · subst hin
        cases hx : x.getLsbD i with
        | false => simp
        | true => simp [BitVec.lt_of_getLsbD hx]
      · have hlt : decide (i < n + 1) = decide (i < n) := by simp; omega
        rw [hlt]
        split <;> simp [BitVec.getLsbD_twoPow, Ne.symm hin]

theorem lowBits_width (x : BitVec w) : lowBits x w = x := by
  apply BitVec.eq_of_getLsbD_eq
  intro i hi
  rw [getLsbD_lowBits]
  simp [hi]

/-- Linear functions that agree on the words with a single bit are the same. -/
theorem ext {f g : BitVec v → BitVec w} (hf : XorLinear f) (hg : XorLinear g)
    (h : ∀ i < v, f (BitVec.twoPow v i) = g (BitVec.twoPow v i)) (x : BitVec v) : f x = g x := by
  have hlow (n : Nat) (hn : n ≤ v) : f (lowBits x n) = g (lowBits x n) := by
    induction n with
    | zero => exact hf.zero.trans hg.zero.symm
    | succ n ih =>
        rw [lowBits, hf, hg, ih (by omega)]
        split
        · rw [h n (by omega)]
        · rw [hf.zero, hg.zero]
  rw [← lowBits_width x]
  exact hlow v le_rfl

/-- The linear function with the given values on the words with a single bit. -/
def ofTable (table : Nat → BitVec w) (x : BitVec v) : Nat → BitVec w
  | 0 => 0
  | n + 1 => ofTable table x n ^^^ (if x.getLsbD n then table n else 0)

theorem linear_ofTable (table : Nat → BitVec w) (n : Nat) :
    XorLinear fun x : BitVec v => ofTable table x n := by
  induction n with
  | zero => exact fun x y => (BitVec.xor_self).symm
  | succ n ih =>
      apply ih.xor
      intro x y
      dsimp only
      rw [BitVec.getLsbD_xor]
      cases x.getLsbD n <;> cases y.getLsbD n <;> simp

/-- A linear function is injective if a table inverts it on the words with a single bit. -/
theorem injective {f : BitVec v → BitVec w} (hf : XorLinear f) (table : Nat → BitVec v)
    (h : ∀ i < v, ofTable table (f (BitVec.twoPow v i)) w = BitVec.twoPow v i) :
    Function.Injective f := by
  have hinverse : ∀ x, ofTable table (f x) w = x :=
    ((linear_ofTable table w).comp hf).ext identity h
  intro x y hxy
  rw [← hinverse x, hxy, hinverse y]

end XorLinear

end SpatialPlatform.Lib
