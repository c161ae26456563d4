import Mathlib.Tactic.IntervalCases
import SpatialPlatform.Core.Sha256
import SpatialPlatform.Lib.SecureHash

/-!
# The block function of SHA-256

`Transform` of `core/utils/sha256.cpp` against the standard: the big-endian
words of a block are those of its bits, the schedule array holds the words of
the recurrence, and a round is a step.
-/

namespace SpatialPlatform.Core

open SpatialPlatform.Lib
open SpatialPlatform.Lib.SecureHash (bitsOf wordOf)

/-! ## Bytes and bits

The standard speaks of bits, the code of bytes and words. Words are bytes with
the highest one first. -/

/-- The bits of bytes. -/
def bitString (bytes : List UInt8) : List Bool := bytes.flatMap fun byte => bitsOf byte.toBitVec

/-- The bytes of a number, highest first, have its bits. -/
theorem flatMap_bitsOf_setWidth (count : Nat) (x : BitVec (8 * count)) :
    ((List.range count).flatMap fun i => bitsOf ((x >>> (8 * (count - 1 - i))).setWidth 8)) =
      bitsOf x := by
  have hfirst : ∀ n ≤ count,
      ((List.range n).flatMap fun i => bitsOf ((x >>> (8 * (count - 1 - i))).setWidth 8)) =
        (List.range (8 * n)).map x.getMsbD := by
    intro n hn
    induction n with
    | zero => rfl
    | succ n ih =>
        rw [List.range_succ, List.flatMap_append, ih (by omega), Nat.mul_succ, List.range_add,
          List.map_append, List.flatMap_singleton, bitsOf, List.map_map]
        congr 1
        apply List.map_congr_left
        intro j hj
        have hj := List.mem_range.mp hj
        have hplace : 8 * (count - 1 - n) + (8 - 1 - j) = 8 * count - 1 - (8 * n + j) := by omega
        show ((x >>> (8 * (count - 1 - n))).setWidth 8).getMsbD j = x.getMsbD (8 * n + j)
        rw [BitVec.getMsbD, BitVec.getMsbD, BitVec.getLsbD_setWidth, BitVec.getLsbD_ushiftRight,
          hplace, decide_eq_true hj, decide_eq_true (show 8 - 1 - j < 8 by omega),
          decide_eq_true (show 8 * n + j < 8 * count by omega), Bool.true_and]
  exact hfirst count (Nat.le_refl count)

/-- The bytes of a word that was read from four bytes. -/
theorem wordBytes_join (b₀ b₁ b₂ b₃ : UInt8) :
    Sha256.wordBytes ((b₀.toUInt32 <<< 24) ||| (b₁.toUInt32 <<< 16) ||| (b₂.toUInt32 <<< 8) |||
      b₃.toUInt32) = [b₀, b₁, b₂, b₃] := by
  simp only [Sha256.wordBytes, List.cons.injEq, and_true]
  refine ⟨?_, ?_, ?_, ?_⟩ <;>
    (apply UInt8.eq_of_toBitVec_eq
     apply BitVec.eq_of_getLsbD_eq
     intro i hi
     interval_cases i <;> simp)

theorem bitString_wordBytes (word : UInt32) :
    bitString (Sha256.wordBytes word) = bitsOf word.toBitVec := by
  rw [← flatMap_bitsOf_setWidth 4 word.toBitVec]
  rfl

/-- The word that is read from four bytes. -/
theorem toBitVec_blockWord (b₀ b₁ b₂ b₃ : UInt8) :
    ((b₀.toUInt32 <<< 24) ||| (b₁.toUInt32 <<< 16) ||| (b₂.toUInt32 <<< 8) |||
      b₃.toUInt32).toBitVec = wordOf (bitString [b₀, b₁, b₂, b₃]) := by
  rw [← wordBytes_join, bitString_wordBytes, SecureHash.wordOf_bitsOf]

theorem length_bitString (bytes : List UInt8) : (bitString bytes).length = 8 * bytes.length := by
  simp [bitString, List.length_flatMap, List.map_const', Nat.mul_comm]

theorem bitString_append (bytes bytes' : List UInt8) :
    bitString (bytes ++ bytes') = bitString bytes ++ bitString bytes' :=
  List.flatMap_append

/-! ## Words -/

theorem exists_word {block : List UInt8} {count : Nat} (h : block.length = 4 * count)
    (hcount : 0 < count) : ∃ b₀ b₁ b₂ b₃ rest, block = b₀ :: b₁ :: b₂ :: b₃ :: rest := by
  rcases block with _ | ⟨b₀, _ | ⟨b₁, _ | ⟨b₂, _ | ⟨b₃, rest⟩⟩⟩⟩
  · simp only [List.length_nil] at h
    omega
  · simp only [List.length_cons, List.length_nil] at h
    omega
  · simp only [List.length_cons, List.length_nil] at h
    omega
  · simp only [List.length_cons, List.length_nil] at h
    omega
  · exact ⟨b₀, b₁, b₂, b₃, rest, rfl⟩

theorem length_blockWords {block : List UInt8} {count : Nat} (h : block.length = 4 * count) :
    (Sha256.blockWords block).length = count := by
  induction count generalizing block with
  | zero =>
      rw [List.eq_nil_of_length_eq_zero h]
      rfl
  | succ count ih =>
      obtain ⟨b₀, b₁, b₂, b₃, rest, rfl⟩ := exists_word h (Nat.succ_pos count)
      simp only [List.length_cons] at h
      rw [Sha256.blockWords, List.length_cons, ih (by omega)]

/-- The words of a block are those of its bits. -/
theorem getElem?_blockWords {block : List UInt8} {count : Nat} (h : block.length = 4 * count)
    {t : Nat} (ht : t < count) :
    (Sha256.blockWords block)[t]?.map UInt32.toBitVec =
      some (wordOf (((bitString block).drop (32 * t)).take 32)) := by
  induction t generalizing block count with
  | zero =>
      obtain ⟨b₀, b₁, b₂, b₃, rest, rfl⟩ := exists_word h (by omega)
      have hbits : bitString (b₀ :: b₁ :: b₂ :: b₃ :: rest) =
          bitString [b₀, b₁, b₂, b₃] ++ bitString rest := bitString_append [b₀, b₁, b₂, b₃] rest
      rw [hbits, Nat.mul_zero, List.drop_zero, List.take_left' (by rw [length_bitString]; rfl)]
      exact congrArg some (toBitVec_blockWord b₀ b₁ b₂ b₃)
  | succ t ih =>
      obtain ⟨b₀, b₁, b₂, b₃, rest, rfl⟩ := exists_word h (by omega)
      have hbits : bitString (b₀ :: b₁ :: b₂ :: b₃ :: rest) =
          bitString [b₀, b₁, b₂, b₃] ++ bitString rest := bitString_append [b₀, b₁, b₂, b₃] rest
      have hlen : (bitString [b₀, b₁, b₂, b₃]).length = 32 := by rw [length_bitString]; rfl
      have hrest : rest.length = 4 * (count - 1) := by
        simp only [List.length_cons] at h
        omega
      rw [hbits, Nat.mul_succ, Nat.add_comm (32 * t), ← List.drop_drop, List.drop_left' hlen]
      exact ih hrest (by omega)

/-! ## Functions

Function by function the words of the code are those of the standard. The
schedule is filled by a loop and defined by a recurrence, and the rounds are a
fold: two inductions over the number of words and of rounds. -/

namespace Sha256

theorem toBitVec_rotR {x n : UInt32} (hpos : 0 < n.toNat) (hlt : n.toNat < 32) :
    (rotR x n).toBitVec = x.toBitVec.rotateRight n.toNat := by
  have hsub : (32 - n).toNat = 32 - n.toNat := UInt32.toNat_sub_of_le _ _ (by
    rw [UInt32.le_iff_toNat_le]
    exact Nat.le_of_lt hlt)
  rw [rotR, BitVec.rotateRight_eq_rotateRightAux_of_lt hlt, BitVec.rotateRightAux]
  rw [UInt32.toBitVec_or, UInt32.toBitVec_shiftRight, UInt32.toBitVec_shiftLeft,
    BitVec.shiftLeft_eq', BitVec.ushiftRight_eq', BitVec.toNat_umod, BitVec.toNat_umod,
    UInt32.toNat_toBitVec, UInt32.toNat_toBitVec]
  show x.toBitVec >>> (n.toNat % 32) ||| x.toBitVec <<< ((32 - n).toNat % 32) = _
  rw [hsub, Nat.mod_eq_of_lt hlt, Nat.mod_eq_of_lt (by omega)]

theorem toBitVec_smallSigma0 (x : UInt32) :
    (rotR x 7 ^^^ rotR x 18 ^^^ (x >>> 3)).toBitVec = SecureHash.smallSigma0 x.toBitVec := by
  rw [UInt32.toBitVec_xor, UInt32.toBitVec_xor, toBitVec_rotR (by decide) (by decide),
    toBitVec_rotR (by decide) (by decide)]
  rfl

theorem toBitVec_smallSigma1 (x : UInt32) :
    (rotR x 17 ^^^ rotR x 19 ^^^ (x >>> 10)).toBitVec = SecureHash.smallSigma1 x.toBitVec := by
  rw [UInt32.toBitVec_xor, UInt32.toBitVec_xor, toBitVec_rotR (by decide) (by decide),
    toBitVec_rotR (by decide) (by decide)]
  rfl

theorem toBitVec_bigSigma0 (x : UInt32) :
    (rotR x 2 ^^^ rotR x 13 ^^^ rotR x 22).toBitVec = SecureHash.bigSigma0 x.toBitVec := by
  rw [UInt32.toBitVec_xor, UInt32.toBitVec_xor, toBitVec_rotR (by decide) (by decide),
    toBitVec_rotR (by decide) (by decide), toBitVec_rotR (by decide) (by decide)]
  rfl

theorem toBitVec_bigSigma1 (x : UInt32) :
    (rotR x 6 ^^^ rotR x 11 ^^^ rotR x 25).toBitVec = SecureHash.bigSigma1 x.toBitVec := by
  rw [UInt32.toBitVec_xor, UInt32.toBitVec_xor, toBitVec_rotR (by decide) (by decide),
    toBitVec_rotR (by decide) (by decide), toBitVec_rotR (by decide) (by decide)]
  rfl

/-- The words as the standard has them. -/
def Words.toHash (s : Words) : SecureHash.Hash :=
  ⟨s.a.toBitVec, s.b.toBitVec, s.c.toBitVec, s.d.toBitVec, s.e.toBitVec, s.f.toBitVec,
    s.g.toBitVec, s.h.toBitVec⟩

theorem getElem_kK {i : Nat} (hi : i < 64) :
    kK[i]!.toBitVec = SecureHash.constants[i]! := by
  have htable : kK.toList.map UInt32.toBitVec = SecureHash.constants := by decide +kernel
  have hsize : kK.size = 64 := rfl
  rw [← htable, getElem!_pos kK i (by omega), getElem!_pos _ i (by simp; omega)]
  simp

/-- One word more of a schedule that agrees with the standard so far. -/
theorem push_scheduleWord {w : Array UInt32} {bits : List Bool} {n : Nat} (hsize : w.size = 16 + n)
    (hw : ∀ t < 16 + n, w[t]!.toBitVec = SecureHash.schedule bits t) :
    ∀ t < 16 + (n + 1), (w.push (scheduleWord w))[t]!.toBitVec = SecureHash.schedule bits t := by
  intro t ht
  rcases Nat.lt_or_eq_of_le (Nat.le_of_lt_succ ht) with hold | rfl
  · rw [← hw t hold, getElem!_pos _ t (by rw [Array.size_push, hsize]; exact ht),
      getElem!_pos w t (by rw [hsize]; exact hold), Array.getElem_push_lt]
  · have hlast : (w.push (scheduleWord w))[16 + n]! = scheduleWord w := by
      rw [getElem!_pos _ _ (by rw [Array.size_push, hsize]; exact Nat.lt_succ_self _)]
      simp [← hsize]
    rw [Nat.add_eq, hlast, SecureHash.schedule, if_neg (by omega)]
    simp only [scheduleWord, hsize]
    rw [UInt32.toBitVec_add, UInt32.toBitVec_add, UInt32.toBitVec_add, toBitVec_smallSigma0,
      toBitVec_smallSigma1, hw _ (by omega), hw _ (by omega), hw _ (by omega), hw _ (by omega)]
    ac_rfl

/-- The words of the schedule are those of the standard. -/
theorem getElem_schedule {block : List UInt8} (h : block.length = 64) {t : Nat} (ht : t < 64) :
    (schedule block)[t]!.toBitVec = SecureHash.schedule (bitString block) t := by
  have hupto : ∀ n, ∃ w, (List.range n).foldl (fun w _ => w.push (scheduleWord w))
      (blockWords block).toArray = w ∧ w.size = 16 + n ∧
      ∀ t < 16 + n, w[t]!.toBitVec = SecureHash.schedule (bitString block) t := by
    intro n
    induction n with
    | zero =>
        refine ⟨_, rfl, @length_blockWords block 16 h, fun t ht => ?_⟩
        obtain ⟨word, hword, hbits⟩ := Option.map_eq_some_iff.mp (@getElem?_blockWords block 16 h t ht)
        rw [SecureHash.schedule, if_pos ht, ← hbits]
        simp [hword]
    | succ n ih =>
        obtain ⟨w, hfold, hsize, hw⟩ := ih
        refine ⟨_, rfl, ?_, ?_⟩
        · rw [List.range_succ, List.foldl_append, hfold, List.foldl_cons, List.foldl_nil,
            Array.size_push, hsize, Nat.add_assoc]
        · rw [List.range_succ, List.foldl_append, hfold]
          exact push_scheduleWord hsize hw
  obtain ⟨w, hfold, -, hw⟩ := hupto 48
  rw [schedule, hfold]
  exact hw t ht

theorem round_toHash {w : Array UInt32} {w' : Nat → BitVec 32} {i : Nat} (hi : i < 64)
    (hw : w[i]!.toBitVec = w' i) (s : Words) :
    (round w s i).toHash = SecureHash.step w' s.toHash i := by
  simp only [round, Words.toHash, SecureHash.step, UInt32.toBitVec_add, toBitVec_bigSigma0,
    toBitVec_bigSigma1, getElem_kK hi, hw]
  rfl

/-- `Transform` is the hash computation of the standard on the bits of the block. -/
theorem transform_toHash {block : List UInt8} (h : block.length = 64) (s : Words) :
    (transform s block).toHash = SecureHash.compress s.toHash (bitString block) := by
  have hrounds : ∀ n ≤ 64, ((List.range n).foldl (round (schedule block)) s).toHash =
      (List.range n).foldl (SecureHash.step (SecureHash.schedule (bitString block))) s.toHash := by
    intro n hn
    induction n with
    | zero => rfl
    | succ n ih =>
        rw [List.range_succ, List.foldl_append, List.foldl_append, List.foldl_cons, List.foldl_nil,
          List.foldl_cons, List.foldl_nil, ← ih (by omega)]
        exact round_toHash (by omega) (getElem_schedule h (by omega)) _
  rw [SecureHash.compress, ← hrounds 64 (Nat.le_refl 64), transform]
  simp only [Words.toHash, UInt32.toBitVec_add, BitVec.add_comm]

end Sha256

end SpatialPlatform.Core
