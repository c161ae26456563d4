import Mathlib.Data.List.GetD
import SpatialPlatform.Importers.Images.ImageFormat

/-!
# The directory of a TIFF file

What the checked readers of a TIFF container return, as functions of the bytes:
numbers, entries, the directory up to its first malformed entry. The loop over
the entries is a fold over that directory, and leaves a mark exactly when the
offset of a value in its field has been cut.
-/

namespace SpatialPlatform.Importers

open SpatialPlatform.Core SpatialPlatform.Lib SpatialPlatform.Lib.Checked

/-! ## Numbers

A checked read is a number or nothing, in either byte order. -/

/-- Two bytes as a number. -/
def u16? (data : List UInt8) (size off : Nat) (little : Bool) : Option UInt16 :=
  if off + 2 ≤ size then
    let a := data.getD off 0
    let b := data.getD (off + 1) 0
    some (if little then a.toUInt16 ||| b.toUInt16 <<< 8 else b.toUInt16 ||| a.toUInt16 <<< 8)
  else none

/-- Four bytes as a number. -/
def u32? (data : List UInt8) (size off : Nat) (little : Bool) : Option UInt32 :=
  if off + 4 ≤ size then
    let a := data.getD off 0
    let b := data.getD (off + 1) 0
    let c := data.getD (off + 2) 0
    let d := data.getD (off + 3) 0
    some (if little then littleU32 a b c d else littleU32 d c b a)
  else none

/-- A number is what its bytes make. -/
theorem join_u16 (n : UInt16) :
    n.toUInt8.toUInt16 ||| (n >>> 8).toUInt8.toUInt16 <<< 8 = n := by
  apply UInt16.eq_of_toBitVec_eq
  simp only [UInt16.toBitVec_or, UInt16.toBitVec_shiftLeft, UInt8.toBitVec_toUInt16,
    UInt16.toBitVec_toUInt8, UInt16.toBitVec_shiftRight]
  ext i hi
  rw [BitVec.getElem_or]
  by_cases hlow : i < 8
  · simp [hlow, BitVec.getLsbD_eq_getElem hi]
  · have hback : 8 + (i - 8) = i := by omega
    have hhigh : i - 8 < 8 := by omega
    simp [hlow, hback, hhigh, BitVec.getLsbD_eq_getElem hi]

theorem join_u32 (n : UInt32) :
    littleU32 n.toUInt8 (n >>> 8).toUInt8 (n >>> 16).toUInt8 (n >>> 24).toUInt8 = n := by
  apply UInt32.eq_of_toBitVec_eq
  simp only [littleU32, UInt32.toBitVec_or, UInt32.toBitVec_shiftLeft, UInt8.toBitVec_toUInt32,
    UInt32.toBitVec_toUInt8, UInt32.toBitVec_shiftRight]
  apply BitVec.eq_of_getLsbD_eq
  intro i hi
  have h8 : ((8 : UInt32).toBitVec % 32).toNat = 8 := rfl
  have h16 : ((16 : UInt32).toBitVec % 32).toNat = 16 := rfl
  have h24 : ((24 : UInt32).toBitVec % 32).toNat = 24 := rfl
  simp only [BitVec.getLsbD_or, BitVec.shiftLeft_eq', BitVec.ushiftRight_eq', h8, h16, h24,
    BitVec.getLsbD_shiftLeft, BitVec.getLsbD_ushiftRight, BitVec.getLsbD_setWidth]
  -- the bit is in one of the four bytes
  have hbyte : i < 8 ∨ (8 ≤ i ∧ i < 16) ∨ (16 ≤ i ∧ i < 24) ∨ 24 ≤ i := by omega
  rcases hbyte with h | h | h | h <;> grind

/-- Numbers inside the first part of a buffer. -/
theorem u16?_append_left {front rest : List UInt8} {size off : Nat} (little : Bool)
    (hoff : off + 2 ≤ front.length) (hsize : front.length ≤ size) :
    u16? (front ++ rest) size off little = u16? front front.length off little := by
  unfold u16?
  rw [if_pos (by omega), if_pos hoff, List.getD_append _ _ _ _ (by omega),
    List.getD_append _ _ _ _ (by omega)]

theorem u32?_append_left {front rest : List UInt8} {size off : Nat} (little : Bool)
    (hoff : off + 4 ≤ front.length) (hsize : front.length ≤ size) :
    u32? (front ++ rest) size off little = u32? front front.length off little := by
  unfold u32?
  rw [if_pos (by omega), if_pos hoff, List.getD_append _ _ _ _ (by omega),
    List.getD_append _ _ _ _ (by omega), List.getD_append _ _ _ _ (by omega),
    List.getD_append _ _ _ _ (by omega)]

/-- Numbers inside the last part of a buffer. -/
theorem u16?_append_right (front rest : List UInt8) (off : Nat) (little : Bool) :
    u16? (front ++ rest) (front ++ rest).length (front.length + off) little =
      u16? rest rest.length off little := by
  have hget : ∀ i, (front ++ rest).getD (front.length + i) 0 = rest.getD i 0 := by
    intro i
    rw [List.getD_append_right _ _ _ _ (by omega), Nat.add_sub_cancel_left]
  unfold u16?
  simp only [Nat.add_assoc, hget, List.length_append, Nat.add_le_add_iff_left]

theorem u32?_append_right (front rest : List UInt8) (off : Nat) (little : Bool) :
    u32? (front ++ rest) (front ++ rest).length (front.length + off) little =
      u32? rest rest.length off little := by
  have hget : ∀ i, (front ++ rest).getD (front.length + i) 0 = rest.getD i 0 := by
    intro i
    rw [List.getD_append_right _ _ _ _ (by omega), Nat.add_sub_cancel_left]
  unfold u32?
  simp only [Nat.add_assoc, hget, List.length_append, Nat.add_le_add_iff_left]

section Readers

variable {data : List UInt8} {size : Nat}

theorem readAt_eq {off : Nat} (h : off < data.length) : readAt data off = pure (data.getD off 0) := by
  simp only [readAt_of_lt h, List.getD_eq_getElem?_getD, List.getElem?_eq_getElem h,
    Option.getD_some]

theorem readU16_eq (hsize : size ≤ data.length) (hfits : size < 2 ^ 64) (off : Nat) (little : Bool) :
    readU16 data size off little = pure (u16? data size off little) := by
  unfold readU16 u16?
  by_cases hoff : size < off
  · rw [if_pos hoff, if_neg (by omega)]
  · rw [if_neg hoff, minus_of_le (by omega), Persist.pure_bind]
    by_cases hrest : size - off < 2
    · rw [if_pos hrest, if_neg (by omega)]
    · rw [if_neg hrest, if_pos (by omega), readAt_eq (by omega), Persist.pure_bind, plus_of_lt (by omega),
        Persist.pure_bind, readAt_eq (by omega), Persist.pure_bind]

theorem readU32_eq (hsize : size ≤ data.length) (hfits : size < 2 ^ 64) (off : Nat) (little : Bool) :
    readU32 data size off little = pure (u32? data size off little) := by
  unfold readU32 u32?
  by_cases hoff : size < off
  · rw [if_pos hoff, if_neg (by omega)]
  · rw [if_neg hoff, minus_of_le (by omega), Persist.pure_bind]
    by_cases hrest : size - off < 4
    · rw [if_pos hrest, if_neg (by omega)]
    · rw [if_neg hrest, if_pos (by omega), readAt_eq (by omega), Persist.pure_bind, plus_of_lt (by omega),
        Persist.pure_bind, readAt_eq (by omega), Persist.pure_bind, plus_of_lt (by omega), Persist.pure_bind,
        readAt_eq (by omega), Persist.pure_bind, plus_of_lt (by omega), Persist.pure_bind, readAt_eq (by omega),
        Persist.pure_bind]

end Readers

/-! ## Entries

An entry is four numbers; the watched reader gives the same entry and leaves a
mark if an offset was cut. -/

/-- The entry at an offset. A value of at most four bytes is in the entry itself. -/
def entryAt (data : List UInt8) (size base : Nat) (little : Bool) : Option TiffIfdEntry := do
  if base + 12 ≤ size then
    let tag ← u16? data size base little
    let type ← u16? data size (base + 2) little
    let count ← u32? data size (base + 4) little
    if typeSize type = 0 then none
    else
      let total := count.toNat * typeSize type
      if total ≤ 4 then some ⟨tag, type, count, (base + 8) % 2 ^ 32, total⟩
      else
        let off ← u32? data size (base + 8) little
        some ⟨tag, type, count, off.toNat, total⟩
  else none

/-- The offset of a value in the entry at an offset does not fit 32 bits. -/
def Cut (data : List UInt8) (size base : Nat) (little : Bool) : Prop :=
  2 ^ 32 ≤ base + 8 ∧ ∃ e, entryAt data size base little = some e ∧ e.valueSize ≤ 4

instance (data : List UInt8) (size base : Nat) (little : Bool) :
    Decidable (Cut data size base little) :=
  inferInstanceAs (Decidable (2 ^ 32 ≤ base + 8 ∧ ∃ e, e ∈ entryAt data size base little ∧ _))

theorem u16?_isSome {data : List UInt8} {size off : Nat} {little : Bool} (h : off + 2 ≤ size) :
    ∃ v, u16? data size off little = some v := ⟨_, if_pos h⟩

theorem u32?_isSome {data : List UInt8} {size off : Nat} {little : Bool} (h : off + 4 ≤ size) :
    ∃ v, u32? data size off little = some v := ⟨_, if_pos h⟩

theorem typeSize_le (type : UInt16) : typeSize type ≤ 4 := by
  unfold typeSize
  grind

variable {data : List UInt8} {size : Nat}

/-- An entry is read as it is, with a mark when the offset of its value has been cut. -/
theorem tiffEntry_run (hsize : size ≤ data.length) (hfits : size < 2 ^ 64) {base : Nat}
    (hbase : base + 12 < 2 ^ 64) (little : Bool) (wrapped : Bool) :
    tiffEntry data size base little wrapped =
      (.ok (entryAt data size base little), wrapped || decide (Cut data size base little)) := by
  unfold tiffEntry
  rw [plus_of_lt hbase, Persist.pure_bind]
  by_cases hfin : base + 12 ≤ size
  · obtain ⟨tag, htag⟩ : ∃ v, u16? data size base little = some v := u16?_isSome (by omega)
    obtain ⟨type, htype⟩ : ∃ v, u16? data size (base + 2) little = some v := u16?_isSome (by omega)
    obtain ⟨count, hcount⟩ : ∃ v, u32? data size (base + 4) little = some v :=
      u32?_isSome (by omega)
    obtain ⟨off, hoff⟩ : ∃ v, u32? data size (base + 8) little = some v := u32?_isSome (by omega)
    have htotal : count.toNat * typeSize type < 2 ^ 64 :=
      calc count.toNat * typeSize type ≤ count.toNat * 4 := Nat.mul_le_mul_left _ (typeSize_le type)
        _ < 2 ^ 64 := by have := count.toNat_lt; omega
    rw [if_neg (by omega), readU16_eq hsize hfits, Persist.pure_bind, plus_of_lt (by omega),
      Persist.pure_bind, readU16_eq hsize hfits, Persist.pure_bind, plus_of_lt (by omega),
      Persist.pure_bind, readU32_eq hsize hfits, Persist.pure_bind, plus_of_lt (by omega),
      Persist.pure_bind, htag, htype, hcount]
    have hentry : entryAt data size base little =
        if typeSize type = 0 then none
        else if count.toNat * typeSize type ≤ 4 then
          some ⟨tag, type, count, (base + 8) % 2 ^ 32, count.toNat * typeSize type⟩
        else some ⟨tag, type, count, off.toNat, count.toNat * typeSize type⟩ := by
      simp only [entryAt, hfin, if_true, htag, htype, hcount, hoff, Option.bind_eq_bind,
        Option.bind_some]
    by_cases hsupported : typeSize type = 0
    · have hcut : ¬ Cut data size base little := by
        simp only [Cut, hentry, hsupported, if_true]
        rintro ⟨_, _, h, _⟩
        cases h
      simp only [hsupported, if_true, hentry, decide_eq_false hcut, Bool.or_false]
      rfl
    · simp only [hsupported, if_false, cast_of_lt htotal, Persist.pure_bind]
      by_cases hinline : count.toNat * typeSize type ≤ 4
      · -- the value is in the entry, and its offset is cut
        have hcut : Cut data size base little ↔ 2 ^ 32 ≤ base + 8 := by
          simp only [Cut, hentry, hsupported, if_false, hinline, if_true, Option.some.injEq,
            exists_eq_left', and_true]
        simp only [hinline, if_true, hentry, hsupported, if_false, hcut]
        rfl
      · have hcut : ¬ Cut data size base little := by
          simp only [Cut, hentry, hsupported, if_false, hinline, Option.some.injEq,
            exists_eq_left', and_false, not_false_eq_true]
        simp only [hinline, if_false, readU32_eq hsize hfits, hoff, Persist.pure_bind, hentry,
          hsupported, decide_eq_false hcut, Bool.or_false]
        rfl
  · have hnone : entryAt data size base little = none := if_neg hfin
    have hcut : ¬ Cut data size base little := by
      intro ⟨_, e, he, _⟩
      rw [hnone] at he
      cases he
    rw [if_pos (by omega), hnone, decide_eq_false hcut, Bool.or_false]
    rfl

/-! ## The loop

The loop stops at the first malformed entry. By induction over the rounds it is
a fold over the entries that stand in front of it. -/

/-- The entries from one on, up to the first that is malformed. -/
def entriesFrom (data : List UInt8) (size ifdOff : Nat) (little : Bool) : Nat → Nat → List TiffIfdEntry
  | 0, _ => []
  | n + 1, i =>
      match entryAt data size (ifdOff + 2 + i * 12) little with
      | none => []
      | some e => e :: entriesFrom data size ifdOff little n (i + 1)

/-- One of these entries has its value in it, at an offset that does not fit 32 bits. -/
def cutFrom (data : List UInt8) (size ifdOff : Nat) (little : Bool) : Nat → Nat → Bool
  | 0, _ => false
  | n + 1, i =>
      match entryAt data size (ifdOff + 2 + i * 12) little with
      | none => false
      | some _ => decide (Cut data size (ifdOff + 2 + i * 12) little) ||
          cutFrom data size ifdOff little n (i + 1)

/-- The entries of a directory. -/
def entries (data : List UInt8) (size ifdOff : Nat) (little : Bool) : List TiffIfdEntry :=
  match u16? data size ifdOff little with
  | none => []
  | some count => entriesFrom data size ifdOff little count.toNat 0

/-- A value in an entry of the directory is at an offset that does not fit 32 bits. -/
def CutIn (data : List UInt8) (size ifdOff : Nat) (little : Bool) : Prop :=
  ∃ i e, (entries data size ifdOff little)[i]? = some e ∧ e.valueSize ≤ 4 ∧
    2 ^ 32 ≤ ifdOff + 2 + i * 12 + 8

theorem cutFrom_iff {ifdOff : Nat} {little : Bool} (n i : Nat) :
    cutFrom data size ifdOff little n i ↔
      ∃ k e, (entriesFrom data size ifdOff little n i)[k]? = some e ∧ e.valueSize ≤ 4 ∧
        2 ^ 32 ≤ ifdOff + 2 + (i + k) * 12 + 8 := by
  induction n generalizing i with
  | zero => simp [cutFrom, entriesFrom]
  | succ n ih =>
    unfold cutFrom entriesFrom
    cases hentry : entryAt data size (ifdOff + 2 + i * 12) little with
    | none => simp
    | some e =>
      have hcut : Cut data size (ifdOff + 2 + i * 12) little ↔
          2 ^ 32 ≤ ifdOff + 2 + i * 12 + 8 ∧ e.valueSize ≤ 4 := by
        simp only [Cut, hentry, Option.some.injEq, exists_eq_left']
      simp only [Bool.or_eq_true, decide_eq_true_eq, hcut, ih (i + 1)]
      constructor
      · intro h
        obtain ⟨hoff, hinline⟩ | ⟨k, e', hk, hinline, hoff⟩ := h
        · exact ⟨0, e, rfl, hinline, hoff⟩
        · exact ⟨k + 1, e', hk, hinline, by omega⟩
      · intro ⟨k, e', hk, hinline, hoff⟩
        cases k with
        | zero =>
          cases hk
          exact .inl ⟨hoff, hinline⟩
        | succ k => exact .inr ⟨k, e', hk, hinline, by omega⟩

/-- The rounds from one on fold the entries. -/
theorem iterate_tiffRound {S : Type} (hsize : size ≤ data.length) (hfits : size < 2 ^ 64)
    {ifdOff : Nat} (hifd : ifdOff < 2 ^ 32) (little : Bool) {onEntry : TiffIfdEntry → S → Checked S}
    {f : S → TiffIfdEntry → S} (hentry : ∀ e s, onEntry e s = pure (f s e)) (n i : Nat)
    (hcount : i + n < 2 ^ 16) (s : S) (wrapped : Bool) :
    iterate (tiffRound data size ifdOff little onEntry (i + n)) (n + 1) (i, s) wrapped =
      (.ok ((entriesFrom data size ifdOff little n i).foldl f s),
        wrapped || cutFrom data size ifdOff little n i) := by
  induction n generalizing i s wrapped with
  | zero =>
    have hround : tiffRound data size ifdOff little onEntry (i + 0) (i, s) = pure (.inr s) :=
      if_pos (Nat.le_refl i)
    unfold iterate
    rw [hround, Persist.pure_bind]
    simp only [cutFrom, entriesFrom, List.foldl_nil, Bool.or_false]
    rfl
  | succ n ih =>
    have hround : tiffRound data size ifdOff little onEntry (i + (n + 1)) (i, s) =
        (tiffEntry data size (ifdOff + 2 + i * 12) little >>= fun entry =>
          entry.elim (pure (.inr s)) fun e => pure (.inl (i + 1, f s e))) := by
      apply (if_neg (show ¬ i + (n + 1) ≤ i by omega)).trans
      rw [plus_of_lt (by omega), Persist.pure_bind, plus_of_lt (by omega), Persist.pure_bind]
      congr
      funext entry
      cases entry with
      | none => rfl
      | some e => simp only [hentry, Persist.pure_bind, Option.elim_some]
    have hrun := tiffEntry_run hsize hfits (show ifdOff + 2 + i * 12 + 12 < 2 ^ 64 by omega) little
      wrapped
    unfold iterate
    rw [hround, Persist.bind_assoc, Persist.bind_of_ok hrun]
    unfold entriesFrom cutFrom
    -- the loop ends at the first entry that cannot be read
    cases hread : entryAt data size (ifdOff + 2 + i * 12) little with
    | none =>
      have hcut : ¬ Cut data size (ifdOff + 2 + i * 12) little := by
        rintro ⟨_, e, he, _⟩
        rw [hread] at he
        cases he
      simp only [Option.elim_none, Persist.pure_bind, decide_eq_false hcut, Bool.or_false,
        List.foldl_nil]
      rfl
    | some e =>
      simp only [Option.elim_some, Persist.pure_bind, List.foldl_cons]
      rw [show i + (n + 1) = i + 1 + n by omega, ih (i + 1) (by omega), Bool.or_assoc]

/-- The loop folds the entries of the directory, and leaves a mark when a value is cut. -/
theorem forEachTiffEntry_run {S : Type} (hsize : size ≤ data.length) (hfits : size < 2 ^ 64)
    {ifdOff : Nat} (hifd : ifdOff < 2 ^ 32) (little : Bool) {onEntry : TiffIfdEntry → S → Checked S}
    {f : S → TiffIfdEntry → S} (hentry : ∀ e s, onEntry e s = pure (f s e)) (s : S) :
    ∃ cut : Bool, (cut ↔ CutIn data size ifdOff little) ∧ ∀ wrapped,
      forEachTiffEntry data size ifdOff little onEntry s wrapped =
        (.ok ((entries data size ifdOff little).foldl f s), wrapped || cut) := by
  unfold forEachTiffEntry CutIn entries
  rw [readU16_eq hsize hfits]
  cases hread : u16? data size ifdOff little with
  | none =>
    refine ⟨false, by simp, ?_⟩
    intro wrapped
    rw [Persist.pure_bind, Bool.or_false]
    rfl
  | some count =>
    refine ⟨cutFrom data size ifdOff little count.toNat 0, ?_, ?_⟩
    · simpa using cutFrom_iff count.toNat 0
    · intro wrapped
      have hcount : 0 + count.toNat < 2 ^ 16 := by
        rw [Nat.zero_add]
        exact count.toNat_lt
      have hrun := iterate_tiffRound hsize hfits hifd little hentry count.toNat 0 hcount s wrapped
      rw [Nat.zero_add] at hrun
      rw [Persist.pure_bind]
      exact hrun

/-! ## Containers

Both functions fold one list of entries with a callback of their own, and their
callbacks agree on the marks. -/

/-- The text of an entry. -/
def ascii (e : TiffIfdEntry) (data : List UInt8) (size : Nat) : List UInt8 :=
  if e.type ≠ 2 ∨ size ≤ e.valueOff then []
  else ((data.drop e.valueOff).take (min e.valueSize (size - e.valueOff))).rdropWhile (· = 0)

/-- The number of an entry. -/
def tagValue (e : TiffIfdEntry) (data : List UInt8) (size : Nat) (little : Bool) : Option Nat :=
  if e.type = 3 then (u16? data size e.valueOff little).map (·.toNat)
  else if e.type = 4 then (u32? data size e.valueOff little).map (·.toNat)
  else none

theorem readTiffAscii_eq (hsize : size ≤ data.length) (e : TiffIfdEntry) :
    readTiffAscii e data size = pure (ascii e data size) := by
  unfold readTiffAscii ascii
  by_cases htype : e.type = 2
  · by_cases hoff : size ≤ e.valueOff
    · rw [if_neg (not_not_intro htype), if_pos hoff, if_pos (.inr hoff)]
    · rw [if_neg (not_not_intro htype), if_neg hoff, minus_of_le (by omega), Persist.pure_bind,
        readRange_of_le (by omega), Persist.pure_bind, if_neg (by tauto)]
  · rw [if_pos htype, if_pos (.inl htype)]

theorem readTiffTagValue_eq (hsize : size ≤ data.length) (hfits : size < 2 ^ 64) (e : TiffIfdEntry)
    (little : Bool) : readTiffTagValue e data size little = pure (tagValue e data size little) := by
  unfold readTiffTagValue tagValue
  rw [readU16_eq hsize hfits, readU32_eq hsize hfits, Persist.pure_bind, Persist.pure_bind]
  split
  · rfl
  · split <;> rfl

/-- An entry, as `ClassifyTiffContainer` looks at it. -/
def containerTag (data : List UInt8) (size : Nat) (s : ContainerTags) (e : TiffIfdEntry) :
    ContainerTags :=
  if e.tag = kTagMake then { s with make := ascii e data size }
  else if e.tag = kTagDngVersion then { s with hasDng := true }
  else s

/-- An entry, as `ParseTiff` looks at it. -/
def tiffTag (data : List UInt8) (size : Nat) (little : Bool) (s : TiffTags) (e : TiffIfdEntry) :
    TiffTags :=
  if e.tag = kTagImageWidth then { s with width := tagValue e data size little <|> s.width }
  else if e.tag = kTagImageLength then { s with height := tagValue e data size little <|> s.height }
  else if e.tag = kTagBitsPerSample then { s with bits := (tagValue e data size little).getD s.bits }
  else if e.tag = kTagSamplesPerPixel then
    { s with samples := (tagValue e data size little).getD s.samples }
  else { s with tags := containerTag data size s.tags e }

theorem classifyEntry_eq (hsize : size ≤ data.length) (e : TiffIfdEntry) (s : ContainerTags) :
    classifyEntry data size e s = pure (containerTag data size s e) := by
  unfold classifyEntry containerTag
  simp only [readTiffAscii_eq hsize, Persist.pure_bind]
  by_cases hmake : e.tag = kTagMake
  · rw [if_pos hmake, if_pos hmake, hmake, if_neg (show kTagMake ≠ kTagDngVersion by decide)]
  rw [if_neg hmake, if_neg hmake]

theorem parseEntry_eq (hsize : size ≤ data.length) (hfits : size < 2 ^ 64) (little : Bool)
    (e : TiffIfdEntry) (s : TiffTags) :
    parseEntry data size little e s = pure (tiffTag data size little s e) := by
  unfold parseEntry tiffTag containerTag
  simp only [readTiffTagValue_eq hsize hfits, readTiffAscii_eq hsize, Persist.pure_bind]
  by_cases hwidth : e.tag = kTagImageWidth
  · rw [if_pos hwidth, if_pos hwidth]
  rw [if_neg hwidth, if_neg hwidth]
  by_cases hheight : e.tag = kTagImageLength
  · rw [if_pos hheight, if_pos hheight]
  rw [if_neg hheight, if_neg hheight]
  by_cases hbits : e.tag = kTagBitsPerSample
  · rw [if_pos hbits, if_pos hbits]
  rw [if_neg hbits, if_neg hbits]
  by_cases hsamples : e.tag = kTagSamplesPerPixel
  · rw [if_pos hsamples, if_pos hsamples]
  rw [if_neg hsamples, if_neg hsamples]
  by_cases hmake : e.tag = kTagMake
  · rw [if_pos hmake, if_pos hmake]
  rw [if_neg hmake, if_neg hmake]
  by_cases hdng : e.tag = kTagDngVersion
  · rw [if_pos hdng, if_pos hdng]
  rw [if_neg hdng, if_neg hdng]

/-- Both callbacks see the same marks of a container. -/
theorem foldl_tiffTag_tags (little : Bool) (es : List TiffIfdEntry) (s : TiffTags) :
    (es.foldl (tiffTag data size little) s).tags = es.foldl (containerTag data size) s.tags := by
  have htag : ∀ s e, (tiffTag data size little s e).tags = containerTag data size s.tags e := by
    intro s e
    unfold tiffTag containerTag
    by_cases hother : e.tag = kTagMake ∨ e.tag = kTagDngVersion
    · obtain htag | htag := hother <;> simp [htag, kTagImageWidth, kTagImageLength,
        kTagBitsPerSample, kTagSamplesPerPixel, kTagMake, kTagDngVersion]
    · rw [not_or] at hother
      simp only [hother.1, hother.2, if_false]
      repeat' split
      all_goals rfl
  exact (List.foldl_hom (·.tags) (H := fun s e => (htag s e).symm)).symm

/-- The byte order of a TIFF container. -/
def littleEndian (data : List UInt8) : Bool :=
  decide (data.getD 0 0 = 0x49) && decide (data.getD 1 0 = 0x49)

/-- The offset of the directory of a container. -/
def directoryOff (data : List UInt8) (size : Nat) : Nat :=
  ((u32? data size 4 (littleEndian data)).map (·.toNat)).getD 0

/-- The directory of a container. -/
def directory (data : List UInt8) (size : Nat) : List TiffIfdEntry :=
  entries data size (directoryOff data size) (littleEndian data)

/-- A value in the directory of a container is at an offset that does not fit 32 bits. -/
def DirectoryCut (data : List UInt8) (size : Nat) : Prop :=
  CutIn data size (directoryOff data size) (littleEndian data)

/-- The mark of a CR2 file. -/
def cr2Mark (data : List UInt8) (size : Nat) : Bool :=
  decide (10 ≤ size) && decide (data.getD 8 0 = 0x43) && decide (data.getD 9 0 = 0x52)

/-- The marks in the directory of a container. -/
def containerTags (data : List UInt8) (size : Nat) : ContainerTags :=
  (directory data size).foldl (containerTag data size) {}

/-- The first bytes of a TIFF container. -/
def tiffMagic (data : List UInt8) (size : Nat) : Bool :=
  decide (8 ≤ size) && (littleEndian data ||
    (decide (data.getD 0 0 = 0x4D) && decide (data.getD 1 0 = 0x4D))) &&
    decide (u16? data size 2 (littleEndian data) = some 42)

theorem tiffLittleEndian_eq (hlength : 2 ≤ data.length) :
    tiffLittleEndian data = pure (littleEndian data) := by
  unfold tiffLittleEndian littleEndian
  rw [readAt_eq (by omega), readAt_eq (by omega), Persist.pure_bind, Persist.pure_bind]

theorem isCr2_eq (hsize : size ≤ data.length) : isCr2 data size = pure (cr2Mark data size) := by
  unfold isCr2 cr2Mark
  by_cases hten : size < 10
  · rw [if_pos hten, decide_eq_false (show ¬ 10 ≤ size by omega), Bool.false_and, Bool.false_and]
  · rw [if_neg hten, readAt_eq (by omega), readAt_eq (by omega), Persist.pure_bind, Persist.pure_bind,
      decide_eq_true (show 10 ≤ size by omega), Bool.true_and]

theorem isTiff_eq (hsize : size ≤ data.length) (hfits : size < 2 ^ 64) :
    isTiff data size = pure (tiffMagic data size) := by
  unfold isTiff tiffMagic
  by_cases height : size < 8
  · rw [if_pos height, decide_eq_false (show ¬ 8 ≤ size by omega), Bool.false_and, Bool.false_and]
  · rw [if_neg height, tiffLittleEndian_eq (by omega), readAt_eq (by omega), readAt_eq (by omega),
      decide_eq_true (show 8 ≤ size by omega), Bool.true_and]
    simp only [readU16_eq hsize hfits, Persist.pure_bind]
    cases littleEndian data <;>
      cases hbig : decide (data.getD 0 0 = 0x4D) && decide (data.getD 1 0 = 0x4D) <;> simp

theorem u32?_directoryOff (data : List UInt8) (height : 8 ≤ size) :
    ∃ off, u32? data size 4 (littleEndian data) = some off ∧ directoryOff data size = off.toNat := by
  obtain ⟨off, hoff⟩ : ∃ off, u32? data size 4 (littleEndian data) = some off :=
    u32?_isSome (by omega)
  refine ⟨off, hoff, ?_⟩
  unfold directoryOff
  rw [hoff]
  rfl

/-- The two places where the marks of a container decide give one format. -/
theorem containerType_eq (tags : ContainerTags) :
    (if tags.hasDng then pure .raw
      else if hasPrefix "NIKON" tags.make || hasPrefix "SONY" tags.make || hasPrefix "Canon" tags.make
        then pure .raw
      else pure .tiff : Checked ImageFormat) = pure (containerType false tags).1 := by
  unfold containerType
  cases tags.hasDng <;> cases hasPrefix "NIKON" tags.make <;> cases hasPrefix "SONY" tags.make <;>
    cases hasPrefix "Canon" tags.make <;> rfl

/-- A container is classified by its marks; the loop runs unless the CR2 mark is there. -/
theorem classifyTiffContainer_run (height : 8 ≤ size) (hsize : size ≤ data.length)
    (hfits : size < 2 ^ 64) :
    ∃ cut : Bool, (cut ↔ cr2Mark data size = false ∧ DirectoryCut data size) ∧ ∀ wrapped,
      classifyTiffContainer data size wrapped =
        (.ok (containerType (cr2Mark data size) (containerTags data size)).1, wrapped || cut) := by
  obtain ⟨off, hoff, hdirectory⟩ := u32?_directoryOff data height
  obtain ⟨cut, hcut, hrun⟩ := forEachTiffEntry_run hsize hfits off.toNat_lt (littleEndian data)
    (classifyEntry_eq hsize) ({} : ContainerTags)
  unfold classifyTiffContainer
  rw [tiffLittleEndian_eq (by omega), Persist.pure_bind, readU32_eq hsize hfits, Persist.pure_bind,
    hoff]
  simp only [isCr2_eq hsize, Persist.pure_bind]
  cases hcr2 : cr2Mark data size with
  | true =>
    refine ⟨false, by simp, ?_⟩
    intro wrapped
    rw [Bool.or_false]
    rfl
  | false =>
    refine ⟨cut, ?_, ?_⟩
    · unfold DirectoryCut
      rw [hdirectory, hcut]
      simp
    · intro wrapped
      have htags : containerTags data size =
          (entries data size off.toNat (littleEndian data)).foldl (containerTag data size) {} := by
        unfold containerTags directory
        rw [hdirectory]
      rw [← htags] at hrun
      simp only [Bool.false_eq_true, if_false]
      rw [Persist.bind_of_ok (hrun wrapped)]
      rw [containerType_eq]
      rfl

/-- What `ParseTiff` collects of a container. -/
def tiffTags (data : List UInt8) (size : Nat) : TiffTags :=
  (directory data size).foldl (tiffTag data size (littleEndian data)) {}

theorem tags_tiffTags : (tiffTags data size).tags = containerTags data size :=
  foldl_tiffTag_tags (littleEndian data) (directory data size) {}

/-- A container is parsed to what its directory says. -/
theorem parseTiff_run (height : 8 ≤ size) (hsize : size ≤ data.length) (hfits : size < 2 ^ 64) :
    ∃ cut : Bool, (cut ↔ DirectoryCut data size) ∧ ∀ wrapped,
      parseTiff data size wrapped =
        (.ok (tiffInfo (cr2Mark data size) (tiffTags data size)), wrapped || cut) := by
  obtain ⟨off, hoff, hdirectory⟩ := u32?_directoryOff data height
  obtain ⟨cut, hcut, hrun⟩ := forEachTiffEntry_run hsize hfits off.toNat_lt (littleEndian data)
    (parseEntry_eq hsize hfits (littleEndian data)) ({} : TiffTags)
  have htags : tiffTags data size = (entries data size off.toNat (littleEndian data)).foldl
      (tiffTag data size (littleEndian data)) {} := by
    unfold tiffTags directory
    rw [hdirectory]
  rw [← htags] at hrun
  refine ⟨cut, ?_, ?_⟩
  · unfold DirectoryCut
    rw [hdirectory, hcut]
  · intro wrapped
    unfold parseTiff
    rw [tiffLittleEndian_eq (by omega), Persist.pure_bind, readU32_eq hsize hfits, Persist.pure_bind,
      hoff]
    simp only [isCr2_eq hsize, Persist.pure_bind]
    rw [Persist.bind_of_ok (hrun wrapped)]
    rfl

/-- In a buffer of at most 4 GiB no offset is cut. -/
theorem not_directoryCut (hsize : size ≤ 2 ^ 32) : ¬ DirectoryCut data size := by
  intro ⟨i, e, hmem, _, hoff⟩
  have hin : ∀ n i k e, (entriesFrom data size (directoryOff data size) (littleEndian data) n i)[k]? =
      some e → directoryOff data size + 2 + (i + k) * 12 + 12 ≤ size := by
    intro n
    induction n with
    | zero => simp [entriesFrom]
    | succ n ih =>
      intro i k e hk
      unfold entriesFrom at hk
      cases hentry : entryAt data size (directoryOff data size + 2 + i * 12) (littleEndian data) with
      | none =>
        rw [hentry] at hk
        cases hk
      | some first =>
        rw [hentry] at hk
        cases k with
        | zero =>
          by_contra hout
          rw [entryAt, if_neg (by omega)] at hentry
          cases hentry
        | succ k =>
          have := ih (i + 1) k e hk
          omega
  unfold entries at hmem
  cases hcount : u16? data size (directoryOff data size) (littleEndian data) with
  | none =>
    rw [hcount] at hmem
    cases hmem
  | some count =>
    rw [hcount] at hmem
    have := hin _ 0 i e hmem
    omega

/-! ## Detection

The first bytes decide, and for containers the marks. -/

/-- The first bytes of a JPEG file. -/
def jpegMagic (data : List UInt8) (size : Nat) : Bool :=
  decide (3 ≤ size) && (decide (data.getD 0 0 = 0xFF) && decide (data.getD 1 0 = 0xD8) &&
    decide (data.getD 2 0 = 0xFF))

/-- The first bytes of a PNG file. -/
def pngMagic (data : List UInt8) (size : Nat) : Bool :=
  decide (8 ≤ size) && decide (data.take 8 = kPngMagic)

/-- The first bytes of an OpenEXR file. -/
def exrMagic (data : List UInt8) (size : Nat) : Bool :=
  decide (4 ≤ size) && (decide (data.getD 0 0 = 0x76) && decide (data.getD 1 0 = 0x2F) &&
    decide (data.getD 2 0 = 0x31) && decide (data.getD 3 0 = 0x01))

theorem isJpeg_eq (hsize : size ≤ data.length) : isJpeg data size = pure (jpegMagic data size) := by
  unfold isJpeg jpegMagic
  by_cases hthree : size < 3
  · rw [if_pos hthree, decide_eq_false (show ¬ 3 ≤ size by omega), Bool.false_and]
  · rw [if_neg hthree, readAt_eq (by omega), readAt_eq (by omega), readAt_eq (by omega),
      decide_eq_true (show 3 ≤ size by omega), Bool.true_and]
    rfl

theorem isPng_eq (hsize : size ≤ data.length) : isPng data size = pure (pngMagic data size) := by
  unfold isPng pngMagic
  by_cases height : size < 8
  · rw [if_pos height, decide_eq_false (show ¬ 8 ≤ size by omega), Bool.false_and]
  · rw [if_neg height, readRange_of_le (by omega), decide_eq_true (show 8 ≤ size by omega),
      Bool.true_and]
    rfl

theorem isExr_eq (hsize : size ≤ data.length) : isExr data size = pure (exrMagic data size) := by
  unfold isExr exrMagic
  by_cases hfour : size < 4
  · rw [if_pos hfour, decide_eq_false (show ¬ 4 ≤ size by omega), Bool.false_and]
  · rw [if_neg hfour, readAt_eq (by omega), readAt_eq (by omega), readAt_eq (by omega),
      readAt_eq (by omega), decide_eq_true (show 4 ≤ size by omega), Bool.true_and]
    rfl

/-- The format of a file, as its first bytes and its directory say. -/
def formatOf (data : List UInt8) (size : Nat) : ImageFormat :=
  if jpegMagic data size then .jpeg
  else if pngMagic data size then .png
  else if exrMagic data size then .exr
  else if tiffMagic data size then
    (containerType (cr2Mark data size) (containerTags data size)).1
  else .unknown

/-- The first bytes of a TIFF container are those of no other format. -/
theorem not_other_of_tiffMagic (h : tiffMagic data size) :
    jpegMagic data size = false ∧ pngMagic data size = false ∧ exrMagic data size = false := by
  have hfirst : data.getD 0 0 = 0x49 ∨ data.getD 0 0 = 0x4D := by
    simp only [tiffMagic, littleEndian, Bool.and_eq_true, Bool.or_eq_true, decide_eq_true_eq] at h
    tauto
  have hnot : ∀ byte : UInt8, byte ≠ 0x49 → byte ≠ 0x4D → data.getD 0 0 ≠ byte := by
    intro byte hI hM heq
    obtain h | h := hfirst
    · exact hI (heq ▸ h)
    · exact hM (heq ▸ h)
  refine ⟨?_, ?_, ?_⟩
  · simp [jpegMagic, hnot 0xFF (by decide) (by decide), -List.getD_eq_getElem?_getD]
  · have hpng : data.take 8 ≠ kPngMagic := by
      intro heq
      apply hnot 0x89 (by decide) (by decide)
      have hhead := congrArg (·.getD 0 0) heq
      cases data with
      | nil => exact absurd heq (by decide)
      | cons byte rest => exact hhead
    simp [pngMagic, hpng]
  · simp [exrMagic, hnot 0x76 (by decide) (by decide), -List.getD_eq_getElem?_getD]

/-- The format is detected, with a mark when a value in the directory of a container is cut. -/
theorem detectImageFormat_run (hsize : size ≤ data.length) (hfits : size < 2 ^ 64) :
    ∃ cut : Bool,
      (cut ↔ tiffMagic data size ∧ cr2Mark data size = false ∧ DirectoryCut data size) ∧
      ∀ wrapped, detectImageFormat data size wrapped = (.ok (formatOf data size), wrapped || cut) := by
  -- the tests in the order of the source
  have hdetect : detectImageFormat data size =
      if jpegMagic data size then pure .jpeg
      else if pngMagic data size then pure .png
      else if exrMagic data size then pure .exr
      else if tiffMagic data size then classifyTiffContainer data size
      else pure .unknown := by
    unfold detectImageFormat
    rw [isJpeg_eq hsize, isPng_eq hsize, isExr_eq hsize, isTiff_eq hsize hfits]
    by_cases hzero : size = 0
    · subst hzero
      rfl
    · rw [if_neg hzero]
      rfl
  rw [hdetect]
  unfold formatOf
  cases htiff : tiffMagic data size with
  | true =>
    -- no other test passes on a container
    obtain ⟨hjpeg, hpng, hexr⟩ := not_other_of_tiffMagic htiff
    have height : 8 ≤ size := by
      simp only [tiffMagic, Bool.and_eq_true, decide_eq_true_eq] at htiff
      exact htiff.1.1
    obtain ⟨cut, hcut, hrun⟩ := classifyTiffContainer_run height hsize hfits
    refine ⟨cut, by simp [hcut], ?_⟩
    intro wrapped
    simp only [hjpeg, hpng, hexr, Bool.false_eq_true, if_false, if_true]
    exact hrun wrapped
  | false =>
    refine ⟨false, by simp, ?_⟩
    intro wrapped
    rw [Bool.or_false]
    cases jpegMagic data size <;> cases pngMagic data size <;> cases exrMagic data size <;> rfl

end SpatialPlatform.Importers
