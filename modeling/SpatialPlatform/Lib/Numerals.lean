import Mathlib.Data.Nat.Digits.Defs
import Mathlib.Data.Nat.Digits.Lemmas

/-!
# Numerals

Numbers written digit by digit, most significant digit first, as a scanner reads
them. Mathlib's `Nat.ofDigits` has the least significant digit first;
`numeral_eq_ofDigits` carries its lemmas over.
-/

namespace SpatialPlatform.Lib

/-- The number that these digits denote. -/
def numeral (base : Nat) (digits : List Nat) : Nat :=
  digits.foldl (fun value digit => base * value + digit) 0

variable {base : Nat} {digits digits' : List Nat}

@[simp] theorem numeral_nil : numeral base [] = 0 := rfl

@[simp] theorem numeral_concat (digit : Nat) :
    numeral base (digits ++ [digit]) = base * numeral base digits + digit := by
  rw [numeral, List.foldl_append]
  rfl

theorem numeral_eq_ofDigits (base : Nat) (digits : List Nat) :
    numeral base digits = Nat.ofDigits base digits.reverse := by
  induction digits using List.reverseRecOn with
  | nil => rfl
  | append_singleton digits digit ih =>
      rw [numeral_concat, ih, List.reverse_append, List.reverse_singleton, List.singleton_append,
        Nat.ofDigits_cons, Nat.add_comm]

theorem numeral_append (base : Nat) (digits digits' : List Nat) :
    numeral base (digits ++ digits') =
      base ^ digits'.length * numeral base digits + numeral base digits' := by
  rw [numeral_eq_ofDigits, List.reverse_append, Nat.ofDigits_append, List.length_reverse,
    ← numeral_eq_ofDigits, ← numeral_eq_ofDigits, Nat.add_comm]

/-- Digits below the base keep the number below its power. -/
theorem numeral_lt (hbase : 1 < base) (h : ∀ d ∈ digits, d < base) :
    numeral base digits < base ^ digits.length := by
  rw [numeral_eq_ofDigits, ← List.length_reverse]
  exact Nat.ofDigits_lt_base_pow_length hbase fun d hd => h d (List.mem_reverse.mp hd)

/-- Numerals of one length are told apart by their numbers. -/
theorem numeral_injective (hbase : 1 < base) (hlen : digits.length = digits'.length)
    (h : ∀ d ∈ digits, d < base) (h' : ∀ d ∈ digits', d < base)
    (heq : numeral base digits = numeral base digits') : digits = digits' := by
  rw [numeral_eq_ofDigits, numeral_eq_ofDigits] at heq
  apply List.reverse_injective
  exact Nat.ofDigits_inj_of_len_eq hbase (by rw [List.length_reverse, List.length_reverse, hlen])
    (fun d hd => h d (List.mem_reverse.mp hd)) (fun d hd => h' d (List.mem_reverse.mp hd)) heq

end SpatialPlatform.Lib
