import Mathlib.Data.Nat.Bitwise
import Mathlib.Tactic.Ring

/-!
# Base-128 numbers

Numbers written seven bits a byte, lowest first, with the high bit on every byte
but the last. A number may be written with more bytes than it needs.
-/

namespace SpatialPlatform.Lib

/-- The bytes write the number. -/
inductive Varint : List UInt8 → Nat → Prop
  | last {b : UInt8} : b.toNat < 128 → Varint [b] b.toNat
  | more {b : UInt8} {rest : List UInt8} {n : Nat} :
      128 ≤ b.toNat → Varint rest n → Varint (b :: rest) (b.toNat % 128 + 128 * n)

namespace Varint

variable {run : List UInt8} {n : Nat}

theorem ne_nil (h : Varint run n) : run ≠ [] := by
  cases h <;> exact List.cons_ne_nil _ _

/-- A run that is cut short has the high bit on every byte. -/
theorem high_of_cut {cut rest : List UInt8} (h : Varint (cut ++ rest) n) (hrest : rest ≠ []) :
    ∀ b ∈ cut, 128 ≤ b.toNat := by
  generalize hrun : cut ++ rest = run at h
  induction h generalizing cut with
  | last _ =>
      cases cut with
      | nil => exact fun _ hb => absurd hb List.not_mem_nil
      | cons b cut =>
          have hnil := (List.cons.inj hrun).2
          exact absurd (List.append_eq_nil_iff.mp hnil).2 hrest
  | more hb _ ih =>
      cases cut with
      | nil => exact fun _ hb => absurd hb List.not_mem_nil
      | cons b' cut =>
          obtain ⟨rfl, hcut⟩ := List.cons.inj hrun
          exact List.forall_mem_cons.mpr ⟨hb, ih hcut⟩

/-- The first byte holds the low bits. -/
theorem value_more {b : UInt8} (n : Nat) :
    b.toNat % 128 + 128 * n = (b.toNat &&& 0x7F) ||| (n <<< 7) := by
  have hlow : b.toNat &&& 0x7F = b.toNat % 128 := Nat.and_two_pow_sub_one_eq_mod b.toNat 7
  have hlt : b.toNat % 2 ^ 7 < 2 ^ 7 := Nat.mod_lt _ (by decide)
  rw [hlow, Nat.shiftLeft_eq, Nat.mul_comm n, Nat.or_comm]
  exact (Nat.add_comm _ _).trans (Nat.two_pow_add_eq_or_of_lt hlt n)

/-- The high bit tells the last byte. -/
theorem highBit_eq_zero_iff (b : UInt8) : b.toNat &&& 0x80 = 0 ↔ b.toNat < 128 := by
  have hlt := b.toNat_lt
  rw [show (0x80 : Nat) = 2 ^ 7 from rfl, Nat.and_two_pow, Nat.testBit_eq_decide_div_mod_eq]
  by_cases hb : b.toNat < 128
  · simp [hb, Nat.div_eq_of_lt]
  · have hdiv : b.toNat / 128 = 1 := by omega
    simp [hb, hdiv]

end Varint

end SpatialPlatform.Lib
