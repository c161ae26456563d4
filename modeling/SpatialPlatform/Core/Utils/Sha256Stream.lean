import Mathlib.Data.List.GetD
import SpatialPlatform.Core.Utils.Sha256Block

/-!
# The incremental hasher

`Sha256` of `core/utils/sha256.{h,cpp}` as an object in memory: the buffer is an
array of 64 bytes of which the first `buffer_len_` are in use, and `Update`
copies as much as fits at a time. It does what the hasher of `Core.Sha256` does
byte by byte, and its digest is that of the standard.

* `Sha256.final_update` — the digest of the hasher is that of the object.
* `Sha256Object.final_again` — a second `Final` changes nothing.
-/

namespace SpatialPlatform.Core

open SpatialPlatform.Lib
open SpatialPlatform.Lib.SecureHash (bitsOf)

/-- The members of the class. What the unused part of the buffer holds is not
known: the constructor leaves it as it is. -/
structure Sha256Object where
  state : Sha256.Words := {}
  bitCount : UInt64 := 0
  buffer : Vector UInt8 64
  bufferLen : Nat := 0
  finalized : Bool := false
  bufferLen_lt : bufferLen < 64 := by decide

namespace Sha256Object

/-- `std::memcpy` into the buffer, from a place of it on. -/
def memcpy {size : Nat} (buffer : Vector UInt8 size) (place : Nat) (data : List UInt8) :
    Vector UInt8 size :=
  Vector.ofFn fun i =>
    if place ≤ i.val ∧ i.val < place + data.length then data.getD (i.val - place) 0
    else buffer[i.val]

/-- `take`: as much as there is, or as there is space for. -/
def take (hasher : Sha256Object) (size : Nat) : Nat :=
  let space := 64 - hasher.bufferLen
  if size < space then size else space

theorem take_spec (hasher : Sha256Object) (size : Nat) :
    hasher.take size ≤ size ∧ hasher.bufferLen + hasher.take size ≤ 64 ∧
      (size ≠ 0 → hasher.take size ≠ 0) := by
  have hlt := hasher.bufferLen_lt
  unfold take
  grind

/-- One turn of the loop of `Update`: copy, and transform when the buffer is full. -/
def turn (hasher : Sha256Object) (data : List UInt8) : Sha256Object :=
  let take := hasher.take data.length
  let buffer := memcpy hasher.buffer hasher.bufferLen (data.take take)
  if hfull : hasher.bufferLen + take = 64 then
    { hasher with
      state := Sha256.transform hasher.state buffer.toList
      buffer
      bufferLen := 0
      bufferLen_lt := by decide }
  else
    { hasher with
      buffer
      bufferLen := hasher.bufferLen + take
      bufferLen_lt := Nat.lt_of_le_of_ne (hasher.take_spec data.length).2.1 hfull }

/-- The loop of `Update`. -/
def fill (hasher : Sha256Object) (data : List UInt8) : Sha256Object :=
  if data = [] then hasher
  else (hasher.turn data).fill (data.drop (hasher.take data.length))
termination_by data.length
decreasing_by
  have hlen := List.length_pos_of_ne_nil (by assumption)
  have htake := (hasher.take_spec data.length).2.2 (Nat.ne_of_gt hlen)
  rw [List.length_drop]
  omega

/-- `Update`. -/
def update (hasher : Sha256Object) (data : List UInt8) : Sha256Object :=
  { hasher with bitCount := hasher.bitCount + UInt64.ofNat data.length * 8 }.fill data

/-! ## Update

A turn of the loop copies as much as fits. `buffered` is what has been hashed
together with what waits, and a turn takes its bytes one after the other from
this point of view; the induction is that of `fill`. -/

/-- Data that fits stands behind what was in use. -/
theorem take_memcpy {size : Nat} (buffer : Vector UInt8 size) (place : Nat) (data : List UInt8)
    (hfit : place + data.length ≤ size) :
    (memcpy buffer place data).toList.take (place + data.length) =
      buffer.toList.take place ++ data := by
  have hlen : (buffer.toList.take place).length = place := by
    rw [List.length_take, Vector.length_toList]
    omega
  apply List.ext_getElem
  · rw [List.length_append, hlen, List.length_take, Vector.length_toList]
    omega
  · intro i hi hi'
    rw [List.getElem_take, Vector.getElem_toList]
    unfold memcpy
    rw [Vector.getElem_ofFn]
    dsimp only
    have hi : i < place + data.length := by
      rw [List.length_take] at hi
      omega
    by_cases hplace : i < place
    · rw [if_neg (by omega), List.getElem_append_left (by rw [hlen]; exact hplace)]
      simp
    · rw [if_pos ⟨by omega, hi⟩, List.getElem_append_right (by rw [hlen]; omega)]
      simp only [hlen]
      exact List.getD_eq_getElem ..

/-- What has been worked off, and the part of the buffer that is in use. -/
def buffered (hasher : Sha256Object) : Buffered Sha256.Words UInt8 :=
  ⟨hasher.state, hasher.buffer.toList.take hasher.bufferLen⟩

theorem length_buffered (hasher : Sha256Object) :
    hasher.buffered.buffer.length = hasher.bufferLen := by
  have := hasher.bufferLen_lt
  rw [buffered, List.length_take, Vector.length_toList]
  omega

/-- A turn of the loop takes its bytes one after the other. -/
theorem turn_buffered (hasher : Sha256Object) {data : List UInt8} (hne : data ≠ []) :
    (hasher.turn data).buffered = (data.take (hasher.take data.length)).foldl
      (Buffered.absorb 64 Sha256.transform) hasher.buffered := by
  obtain ⟨hle, hfit, hpos⟩ := hasher.take_spec data.length
  have hpos := hpos (Nat.ne_of_gt (List.length_pos_of_ne_nil hne))
  have hlen : (data.take (hasher.take data.length)).length = hasher.take data.length := by
    rw [List.length_take]
    omega
  have hbuffer := take_memcpy hasher.buffer hasher.bufferLen (data.take (hasher.take data.length))
    (by rw [hlen]; exact hfit)
  rw [hlen] at hbuffer
  unfold turn
  simp only
  split
  next hfull =>
    have hwhole : (memcpy hasher.buffer hasher.bufferLen
        (data.take (hasher.take data.length))).toList =
        hasher.buffered.buffer ++ data.take (hasher.take data.length) := by
      rw [hfull, List.take_of_length_le (by rw [Vector.length_toList])] at hbuffer
      exact hbuffer
    rw [Buffered.foldl_absorb_of_eq (List.ne_nil_of_length_pos (by omega))
      (by rw [length_buffered, hlen, hfull]), ← hwhole]
    rfl
  next hfull =>
    rw [Buffered.foldl_absorb_of_lt (by rw [length_buffered, hlen]; omega)]
    exact congrArg (Buffered.mk hasher.state) hbuffer

theorem fill_spec (hasher : Sha256Object) (data : List UInt8) :
    (hasher.fill data).buffered =
        data.foldl (Buffered.absorb 64 Sha256.transform) hasher.buffered ∧
      (hasher.fill data).bitCount = hasher.bitCount ∧
      (hasher.fill data).finalized = hasher.finalized := by
  induction hasher, data using fill.induct with
  | case1 hasher =>
      rw [fill, if_pos rfl]
      exact ⟨rfl, rfl, rfl⟩
  | case2 hasher data hne ih =>
      have hturn : (hasher.turn data).bitCount = hasher.bitCount ∧
          (hasher.turn data).finalized = hasher.finalized := by
        unfold turn
        simp only
        split <;> exact ⟨rfl, rfl⟩
      rw [fill, if_neg hne, ih.1, ih.2.1, ih.2.2, turn_buffered hasher hne, ← List.foldl_append,
        List.take_append_drop]
      exact ⟨rfl, hturn⟩

theorem update_buffered (hasher : Sha256Object) (data : List UInt8) :
    (hasher.update data).buffered =
      data.foldl (Buffered.absorb 64 Sha256.transform) hasher.buffered :=
  (fill_spec _ data).1

theorem update_bitCount (hasher : Sha256Object) (data : List UInt8) :
    (hasher.update data).bitCount = hasher.bitCount + UInt64.ofNat data.length * 8 :=
  (fill_spec _ data).2.1

/-- A byte more is in use, or the buffer was full. -/
theorem bufferLen_update_byte (hasher : Sha256Object) (byte : UInt8) :
    (hasher.update [byte]).bufferLen = (hasher.bufferLen + 1) % 64 := by
  have hlt := hasher.bufferLen_lt
  rw [← length_buffered, update_buffered, List.foldl_cons, List.foldl_nil, Buffered.absorb,
    List.length_append, length_buffered, List.length_singleton]
  split
  next hfull => rw [hfull]; rfl
  next hwaits =>
    rw [List.length_append, length_buffered, List.length_singleton, Nat.mod_eq_of_lt (by omega)]

/-! ## Final

The padding is written by `Update`, byte by byte. The loop that writes zeros is
an induction of its own; after it the buffer has room for the length and nothing
else. -/

/-- The loop of `Final`: zeros until 56 bytes of the buffer are in use. -/
def zeroFill (hasher : Sha256Object) : Sha256Object :=
  if hasher.bufferLen = 56 then hasher else (hasher.update [0]).zeroFill
termination_by (120 - hasher.bufferLen) % 64
decreasing_by
  have hlt := hasher.bufferLen_lt
  rw [bufferLen_update_byte]
  omega

/-- `len_bytes`. -/
def lenBytes (bitCount : UInt64) : List UInt8 :=
  (List.range 8).map fun i => (bitCount >>> UInt64.ofNat (56 - i * 8)).toUInt8

/-- The padding of `Final`. -/
def finish (hasher : Sha256Object) : Sha256Object :=
  if hasher.finalized then hasher
  else
    let bitCount := hasher.bitCount
    let padded := ({ hasher with finalized := true }.update [0x80]).zeroFill
    padded.update (lenBytes bitCount)

/-- `Final`: the digest, and the object afterwards. -/
def final (hasher : Sha256Object) : List UInt8 × Sha256Object :=
  let finished := hasher.finish
  let s := finished.state
  ([s.a, s.b, s.c, s.d, s.e, s.f, s.g, s.h].flatMap Sha256.wordBytes, finished)

theorem zeroFill_buffered (hasher : Sha256Object) :
    hasher.zeroFill.buffered = (Sha256.padding hasher.bufferLen).foldl
      (Buffered.absorb 64 Sha256.transform) hasher.buffered := by
  induction hasher using zeroFill.induct with
  | case1 hasher hfull =>
      rw [zeroFill, if_pos hfull, Sha256.padding, hfull]
      rfl
  | case2 hasher hless ih =>
      have hlt := hasher.bufferLen_lt
      have hzeros : Sha256.padding hasher.bufferLen =
          0 :: Sha256.padding ((hasher.bufferLen + 1) % 64) := by
        have hcount : (120 - hasher.bufferLen) % 64 =
            (120 - (hasher.bufferLen + 1) % 64) % 64 + 1 := by omega
        rw [Sha256.padding, hcount, List.replicate_succ]
        rfl
      rw [zeroFill, if_neg hless, ih, bufferLen_update_byte, update_buffered, hzeros]
      rfl

theorem zeroFill_finalized (hasher : Sha256Object) :
    hasher.zeroFill.finalized = hasher.finalized := by
  induction hasher using zeroFill.induct with
  | case1 hasher hfull => rw [zeroFill, if_pos hfull]
  | case2 hasher hless ih =>
      rw [zeroFill, if_neg hless, ih]
      exact (fill_spec _ [0]).2.2

/-- A second `Final` returns the same digest and leaves the object as it is. -/
theorem final_again (hasher : Sha256Object) : hasher.final.2.final = hasher.final := by
  have hfinished : hasher.finish.finalized = true := by
    unfold finish
    split
    · assumption
    · refine (fill_spec _ _).2.2.trans ?_
      refine (zeroFill_finalized _).trans ?_
      exact (fill_spec _ [0x80]).2.2
  have hagain : hasher.finish.finish = hasher.finish := by rw [finish, if_pos hfinished]
  unfold final
  simp only [hagain]

/-- The message with the padding of `Final`. -/
def padded (message : List UInt8) : List UInt8 :=
  message ++ ([0x80] ++ (Sha256.padding ((message.length + 1) % 64) ++
    lenBytes (UInt64.ofNat message.length * 8)))

/-- After any updates, the message so far has been absorbed, whatever its pieces. -/
theorem updates_spec (buffer : Vector UInt8 64) (chunks : List (List UInt8)) :
    (chunks.foldl update { buffer }).buffered =
        chunks.flatten.foldl (Buffered.absorb 64 Sha256.transform) ⟨{}, []⟩ ∧
      (chunks.foldl update { buffer }).bitCount = UInt64.ofNat chunks.flatten.length * 8 ∧
      (chunks.foldl update { buffer }).finalized = false := by
  induction chunks using List.reverseRecOn with
  | nil => exact ⟨rfl, rfl, rfl⟩
  | append_singleton chunks chunk ih =>
      obtain ⟨hbuffered, hcount, hfinal⟩ := ih
      rw [List.foldl_append, List.foldl_cons, List.foldl_nil, List.flatten_append,
        List.flatten_singleton, List.foldl_append, List.length_append]
      refine ⟨by rw [update_buffered, hbuffered], ?_, ?_⟩
      · rw [update_bitCount, hcount, UInt64.ofNat_add, UInt64.add_mul]
      · exact (fill_spec _ chunk).2.2.trans hfinal

/-- The state at the end: the blocks of the padded message. -/
theorem finish_state (buffer : Vector UInt8 64) (chunks : List (List UInt8)) :
    (chunks.foldl update { buffer }).finish.state =
      (blocks 64 (padded chunks.flatten)).foldl Sha256.transform {} := by
  obtain ⟨hbuffered, hcount, hfinal⟩ := updates_spec buffer chunks
  generalize chunks.foldl update { buffer } = hasher at hbuffered hcount hfinal
  have hlen : hasher.bufferLen = chunks.flatten.length % 64 := by
    rw [← length_buffered, hbuffered, Buffered.foldl_absorb (by decide), length_leftover]
  have hplace : ({ hasher with finalized := true }.update [0x80]).bufferLen =
      (chunks.flatten.length + 1) % 64 := by
    rw [bufferLen_update_byte, hlen, Nat.mod_add_mod]
  have hfinish : hasher.finish.buffered = (padded chunks.flatten).foldl
      (Buffered.absorb 64 Sha256.transform) ⟨{}, []⟩ := by
    rw [finish, hfinal, if_neg Bool.false_ne_true]
    simp only
    rw [update_buffered, zeroFill_buffered, update_buffered, hplace, hcount, padded,
      List.foldl_append, List.foldl_append, List.foldl_append, ← hbuffered]
    rfl
  rw [Buffered.foldl_absorb (by decide)] at hfinish
  exact congrArg Buffered.state hfinish

/-! ## The standard

The padding of the code, as bits, is that of the standard; so the blocks are the
same, and so is the digest. -/

/-- The bits of the padded message are those that the standard pads. -/
theorem bitString_padded (message : List UInt8) :
    bitString (padded message) = SecureHash.pad (bitString message) := by
  have hzeros : ∀ n, bitString (List.replicate n 0) = List.replicate (8 * n) false := by
    intro n
    induction n with
    | zero => rfl
    | succ n ih =>
        rw [List.replicate_succ, bitString, List.flatMap_cons, ← bitString, ih, Nat.mul_succ,
          Nat.add_comm, List.replicate_add]
        rfl
  have hcount : SecureHash.zeroBits (bitString message).length =
      7 + 8 * ((120 - (message.length + 1) % 64) % 64) := by
    rw [length_bitString]
    obtain ⟨hfits, hleast⟩ := SecureHash.zeroBits_least (8 * message.length)
    have hle := hleast (7 + 8 * ((120 - (message.length + 1) % 64) % 64)) (by omega)
    omega
  have hlength : bitString (lenBytes (UInt64.ofNat message.length * 8)) =
      bitsOf (BitVec.ofNat 64 (bitString message).length) := by
    have hbits : (UInt64.ofNat message.length * 8).toBitVec =
        BitVec.ofNat 64 (8 * message.length) := by
      rw [Nat.mul_comm]
      exact (BitVec.ofNat_mul message.length 8).symm
    rw [length_bitString, ← hbits, ← flatMap_bitsOf_setWidth 8]
    rfl
  rw [padded, bitString_append, bitString_append, bitString_append, Sha256.padding, hzeros, hlength,
    SecureHash.pad, hcount, List.replicate_add]
  rfl

theorem bitString_words (s : Sha256.Words) :
    bitString ([s.a, s.b, s.c, s.d, s.e, s.f, s.g, s.h].flatMap Sha256.wordBytes) =
      s.toHash.words.flatMap bitsOf := by
  simp only [List.flatMap_cons, List.flatMap_nil, bitString_append, bitString_wordBytes]
  rfl

theorem foldl_transform (s : Sha256.Words) (data : List UInt8) :
    ((blocks 64 data).foldl Sha256.transform s).toHash =
      (blocks 512 (bitString data)).foldl SecureHash.compress s.toHash := by
  have hblocks : blocks 512 (bitString data) = (blocks 64 data).map bitString :=
    blocks_flatMap 64 (fun byte => SecureHash.length_bitsOf byte.toBitVec) (by decide) data
  have hlen : ∀ block ∈ blocks 64 data, block.length = 64 := fun _ h => length_of_mem_blocks h
  rw [hblocks]
  generalize blocks 64 data = bs at hlen
  induction bs generalizing s with
  | nil => rfl
  | cons block bs ih =>
      obtain ⟨hblock, hbs⟩ := List.forall_mem_cons.mp hlen
      rw [List.foldl_cons, ih _ hbs, Sha256.transform_toHash hblock]
      rfl

/-- The digest of the object is the digest of the standard, however the message was split. -/
theorem final_eq_standard (buffer : Vector UInt8 64) (chunks : List (List UInt8)) :
    bitString (chunks.foldl update { buffer }).final.1 =
      SecureHash.sha256 (bitString chunks.flatten) := by
  have hinitial : ({} : Sha256.Words).toHash = SecureHash.initial := by decide +kernel
  rw [final, bitString_words, finish_state, foldl_transform, bitString_padded, hinitial]
  rfl

end Sha256Object

/-! ## The hasher by which the store names bytes

That hasher takes one byte at a time, and its state is that of the object:
induction over the data. -/

namespace Sha256

/-- What has been worked off, and what waits. -/
def buffered (hasher : Sha256) : Buffered Words UInt8 := ⟨hasher.state, hasher.buffer⟩

theorem state_buffered (hasher : Sha256) : hasher.buffered.state = hasher.state := rfl

theorem update_buffered (hasher : Sha256) (data : List UInt8) :
    (hasher.update data).buffered = data.foldl (Buffered.absorb 64 transform) hasher.buffered := by
  have hfold : ∀ h : Sha256, (data.foldl absorb h).buffered =
      data.foldl (Buffered.absorb 64 transform) h.buffered := by
    induction data with
    | nil => exact fun _ => rfl
    | cons byte data ih =>
        intro h
        rw [List.foldl_cons, ih, List.foldl_cons]
        congr 1
        unfold absorb Buffered.absorb buffered
        simp only
        split <;> rfl
  exact hfold _

theorem update_bitCount (hasher : Sha256) (data : List UInt8) :
    (hasher.update data).bitCount = hasher.bitCount + 8 * UInt64.ofNat data.length := by
  have hfold : ∀ h : Sha256, (data.foldl absorb h).bitCount = h.bitCount := by
    induction data with
    | nil => exact fun _ => rfl
    | cons byte data ih =>
        intro h
        rw [List.foldl_cons, ih, absorb]
        split <;> rfl
  exact hfold _

theorem lenBytes_eq (bitCount : UInt64) :
    wordBytes (bitCount >>> 32).toUInt32 ++ wordBytes bitCount.toUInt32 =
      Sha256Object.lenBytes bitCount := by
  show [_, _, _, _, _, _, _, _] = [_, _, _, _, _, _, _, _]
  simp only [List.cons.injEq, and_true]
  refine ⟨?_, ?_, ?_, ?_, ?_, ?_, ?_, ?_⟩ <;>
    (apply UInt8.eq_of_toBitVec_eq
     apply BitVec.eq_of_getLsbD_eq
     intro i hi
     interval_cases i <;> simp)

/-- The state in which `Final` ends. -/
theorem final_eq (data : List UInt8) : (update {} data).final =
    let s := (blocks 64 (Sha256Object.padded data)).foldl transform {}
    [s.a, s.b, s.c, s.d, s.e, s.f, s.g, s.h].flatMap wordBytes := by
  have hdata : (update {} data).buffered = data.foldl (Buffered.absorb 64 transform) ⟨{}, []⟩ :=
    update_buffered {} data
  have hlen : ((update {} data).update [0x80]).buffer.length = (data.length + 1) % 64 := by
    have hone := update_buffered (update {} data) [0x80]
    rw [hdata, ← List.foldl_append, Buffered.foldl_absorb (by decide)] at hone
    show ((update {} data).update [0x80]).buffered.buffer.length = _
    rw [hone, length_leftover, List.length_append, List.length_singleton]
  have hcount : (update {} data).bitCount = UInt64.ofNat data.length * 8 := by
    rw [update_bitCount, UInt64.mul_comm]
    exact UInt64.zero_add _
  generalize update {} data = hasher at hdata hlen hcount
  have hstate : (((hasher.update [0x80]).update (padding ((data.length + 1) % 64))).update
      (Sha256Object.lenBytes (UInt64.ofNat data.length * 8))).buffered =
      ⟨(blocks 64 (Sha256Object.padded data)).foldl transform {},
        leftover 64 (Sha256Object.padded data)⟩ := by
    rw [update_buffered, update_buffered, update_buffered, hdata, ← Buffered.foldl_absorb (by decide),
      Sha256Object.padded, List.foldl_append, List.foldl_append, List.foldl_append]
  have hwords : (((hasher.update [0x80]).update (padding ((data.length + 1) % 64))).update
      (Sha256Object.lenBytes (UInt64.ofNat data.length * 8))).state =
      (blocks 64 (Sha256Object.padded data)).foldl transform {} := by
    rw [← state_buffered, hstate]
  rw [← hwords, ← hcount, ← hlen, ← lenBytes_eq]
  rfl

/-- The digest of the hasher is that of the object. -/
theorem final_update (buffer : Vector UInt8 64) (data : List UInt8) :
    (update {} data).final = (({ buffer } : Sha256Object).update data).final.1 := by
  have hstate := Sha256Object.finish_state buffer [data]
  rw [List.flatten_singleton, List.foldl_cons, List.foldl_nil] at hstate
  rw [final_eq, Sha256Object.final, hstate]

end Sha256

end SpatialPlatform.Core
