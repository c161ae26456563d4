import SpatialPlatform.Importers.Images.FormatAgreement

/-!
# Entries of an unsupported type

TIFF files with a directory, written out, and what the two loops over the
directory collect from them. An entry of an unsupported type ends both loops,
although it is only meant to be skipped.
-/

namespace SpatialPlatform.Importers

open SpatialPlatform.Core SpatialPlatform.Lib SpatialPlatform.Lib.Checked

/-! ## Files

Files with one directory, written out entry by entry. A gap behind the directory
keeps the values in their places when an entry is taken out. -/

/-- Numbers in the byte order of a file. -/
def orderedU16 (little : Bool) (n : UInt16) : List UInt8 :=
  if little then [n.toUInt8, (n >>> 8).toUInt8] else [(n >>> 8).toUInt8, n.toUInt8]

def orderedU32 (little : Bool) (n : UInt32) : List UInt8 :=
  if little then [n.toUInt8, (n >>> 8).toUInt8, (n >>> 16).toUInt8, (n >>> 24).toUInt8]
  else [(n >>> 24).toUInt8, (n >>> 16).toUInt8, (n >>> 8).toUInt8, n.toUInt8]

/-- An entry of a directory; its last four bytes are a value or the offset of one. -/
structure FieldEntry where
  tag : UInt16
  type : UInt16
  count : UInt32
  field : Vector UInt8 4

namespace FieldEntry

def bytes (little : Bool) (e : FieldEntry) : List UInt8 :=
  orderedU16 little e.tag ++ (orderedU16 little e.type ++ (orderedU32 little e.count ++ e.field.toList))

/-- The reader knows the size of a value of this type. -/
def supported (e : FieldEntry) : Bool := typeSize e.type ≠ 0

/-- The size of the value. -/
def total (e : FieldEntry) : Nat := e.count.toNat * typeSize e.type

/-- Where the value is, if it is not in the entry. -/
def offset (little : Bool) (e : FieldEntry) : Nat :=
  ((u32? e.field.toList 4 0 little).map (·.toNat)).getD 0

/-- The number of a SHORT or a LONG entry. -/
def value (little : Bool) (data : List UInt8) (e : FieldEntry) : Option Nat :=
  let (data, off) := if e.total ≤ 4 then (e.field.toList, 0) else (data, e.offset little)
  if e.type = 3 then (u16? data data.length off little).map (·.toNat)
  else if e.type = 4 then (u32? data data.length off little).map (·.toNat)
  else none

end FieldEntry

/-- A file but for the entries of its directory. -/
structure Layout where
  little : Bool
  front : List UInt8
  next : UInt32
  rest : List UInt8

namespace Layout

def ifdOff (l : Layout) : Nat := 8 + l.front.length

/-- The bytes of a directory, with a gap behind it. -/
def directoryBytes (l : Layout) (es : List FieldEntry) (gap : List UInt8) : List UInt8 :=
  orderedU16 l.little (UInt16.ofNat es.length) ++ (es.flatMap (·.bytes l.little) ++
    (orderedU32 l.little l.next ++ gap))

def header (l : Layout) : List UInt8 :=
  (if l.little then [0x49, 0x49] else [0x4D, 0x4D]) ++ (orderedU16 l.little 42 ++
    orderedU32 l.little (UInt32.ofNat l.ifdOff))

/-- The file with these entries. -/
def bytes (l : Layout) (es : List FieldEntry) (gap : List UInt8) : List UInt8 :=
  l.header ++ (l.front ++ (l.directoryBytes es gap ++ l.rest))

end Layout

/-- A file whose directory has an entry of an unsupported type. No value lies in the directory. -/
structure TiffFile extends Layout where
  before : List FieldEntry
  entry : FieldEntry
  after : List FieldEntry
  unsupported : entry.supported = false
  few : (before ++ entry :: after).length < 2 ^ 16
  held : (toLayout.bytes (before ++ entry :: after) []).length < 2 ^ 32
  apart : ∀ e ∈ before ++ after, e.total ≤ 4 ∨ e.offset little + e.total ≤ toLayout.ifdOff ∨
    toLayout.ifdOff + (toLayout.directoryBytes (before ++ entry :: after) []).length ≤ e.offset little

namespace TiffFile

/-- The file as it is. -/
def whole (f : TiffFile) : List UInt8 := f.toLayout.bytes (f.before ++ f.entry :: f.after) []

/-- The file without the entry; a gap behind the directory keeps all else in its place. -/
def without (f : TiffFile) : List UInt8 :=
  f.toLayout.bytes (f.before ++ f.after) (List.replicate 12 0)

end TiffFile

/-- The loop over the directory of a container, which `ParseTiff` and
`ClassifyTiffContainer` have in common. -/
def directoryLoop {S : Type} (data : List UInt8) (onEntry : Bool → TiffIfdEntry → S → Checked S)
    (s : S) : Checked S := do
  let little ← tiffLittleEndian data
  match ← readU32 data data.length 4 little with
  | none => return s
  | some ifdOff => forEachTiffEntry data data.length ifdOff.toNat little (onEntry little) s

/-- What the two functions collect from a file. -/
structure Collects (data : List UInt8) (s : TiffTags) (c : ContainerTags) : Prop where
  parsed : directoryLoop data (parseEntry data data.length) {} false = (.ok s, false)
  classified : directoryLoop data (fun _ => classifyEntry data data.length) {} false = (.ok c, false)

/-- Width, height and the presence of a DNG version are those of the file without the entry. -/
def SkipsEntry (f : TiffFile) : Prop :=
  ∃ s c s' c', Collects f.whole s c ∧ Collects f.without s' c' ∧ s.width = s'.width ∧
    s.height = s'.height ∧ s.tags.hasDng = s'.tags.hasDng ∧ c.hasDng = c'.hasDng

/-! ## Numbers

Numbers that were written out are read where they stand. -/

theorem u16?_ordered (little : Bool) (n : UInt16) (front rest : List UInt8) :
    u16? (front ++ (orderedU16 little n ++ rest)) (front ++ (orderedU16 little n ++ rest)).length
      front.length little = some n := by
  have hnumber := u16?_append_right front (orderedU16 little n ++ rest) 0 little
  rw [Nat.add_zero] at hnumber
  have hlen : 0 + 2 ≤ (orderedU16 little n ++ rest).length := by
    cases little <;> exact Nat.le_add_left _ _
  rw [hnumber, u16?, if_pos hlen]
  cases little <;> exact congrArg some (join_u16 n)

theorem u32?_ordered (little : Bool) (n : UInt32) (front rest : List UInt8) :
    u32? (front ++ (orderedU32 little n ++ rest)) (front ++ (orderedU32 little n ++ rest)).length
      front.length little = some n := by
  have hnumber := u32?_append_right front (orderedU32 little n ++ rest) 0 little
  rw [Nat.add_zero] at hnumber
  have hlen : 0 + 4 ≤ (orderedU32 little n ++ rest).length := by
    cases little <;> exact Nat.le_add_left _ _
  rw [hnumber, u32?, if_pos hlen]
  cases little <;> exact congrArg some (join_u32 n)

@[simp] theorem length_orderedU16 (little : Bool) (n : UInt16) :
    (orderedU16 little n).length = 2 := by cases little <;> rfl

@[simp] theorem length_orderedU32 (little : Bool) (n : UInt32) :
    (orderedU32 little n).length = 4 := by cases little <;> rfl

/-- The numbers in a part of a buffer. -/
theorem u16?_part {part : List UInt8} (little : Bool) (front rest : List UInt8)
    (hpart : 2 ≤ part.length) :
    u16? (front ++ (part ++ rest)) (front ++ (part ++ rest)).length front.length little =
      u16? part part.length 0 little := by
  have hnumber := u16?_append_right front (part ++ rest) 0 little
  rw [Nat.add_zero] at hnumber
  rw [hnumber]
  exact u16?_append_left little (by omega) (by rw [List.length_append]; omega)

theorem u32?_part {part : List UInt8} (little : Bool) (front rest : List UInt8)
    (hpart : 4 ≤ part.length) :
    u32? (front ++ (part ++ rest)) (front ++ (part ++ rest)).length front.length little =
      u32? part part.length 0 little := by
  have hnumber := u32?_append_right front (part ++ rest) 0 little
  rw [Nat.add_zero] at hnumber
  rw [hnumber]
  exact u32?_append_left little (by omega) (by rw [List.length_append]; omega)

namespace FieldEntry

@[simp] theorem length_bytes (little : Bool) (e : FieldEntry) : (e.bytes little).length = 12 := by
  simp [bytes]

/-- The entry, as the reader has it when it stands at an offset. -/
def decode (little : Bool) (base : Nat) (e : FieldEntry) : Option TiffIfdEntry :=
  if e.supported then
    some ⟨e.tag, e.type, e.count,
      if e.total ≤ 4 then (base + 8) % 2 ^ 32 else e.offset little, e.total⟩
  else none

theorem entryAt_bytes (little : Bool) (e : FieldEntry) {front rest data : List UInt8}
    (hdata : data = front ++ (e.bytes little ++ rest)) :
    entryAt data data.length front.length little = e.decode little front.length := by
  have hlen : front.length + 12 ≤ data.length := by
    rw [hdata, List.length_append, List.length_append, length_bytes]
    omega
  -- each number is read behind the ones that are written before it
  have htag : u16? data data.length front.length little = some e.tag := by
    have hnumber := u16?_ordered little e.tag front (orderedU16 little e.type ++
      (orderedU32 little e.count ++ (e.field.toList ++ rest)))
    have hsplit : data = front ++ (orderedU16 little e.tag ++ (orderedU16 little e.type ++
        (orderedU32 little e.count ++ (e.field.toList ++ rest)))) := by
      rw [hdata, bytes]
      simp only [List.append_assoc]
    rw [← hsplit] at hnumber
    exact hnumber
  have htype : u16? data data.length (front.length + 2) little = some e.type := by
    have hnumber := u16?_ordered little e.type (front ++ orderedU16 little e.tag)
      (orderedU32 little e.count ++ (e.field.toList ++ rest))
    have hsplit : data = front ++ orderedU16 little e.tag ++ (orderedU16 little e.type ++
        (orderedU32 little e.count ++ (e.field.toList ++ rest))) := by
      rw [hdata, bytes]
      simp only [List.append_assoc]
    rw [← hsplit, List.length_append, length_orderedU16] at hnumber
    exact hnumber
  have hcount : u32? data data.length (front.length + 4) little = some e.count := by
    have hnumber := u32?_ordered little e.count
      (front ++ orderedU16 little e.tag ++ orderedU16 little e.type) (e.field.toList ++ rest)
    have hsplit : data = front ++ orderedU16 little e.tag ++ orderedU16 little e.type ++
        (orderedU32 little e.count ++ (e.field.toList ++ rest)) := by
      rw [hdata, bytes]
      simp only [List.append_assoc]
    rw [← hsplit, List.length_append, List.length_append, length_orderedU16, length_orderedU16]
      at hnumber
    exact hnumber
  obtain ⟨off, hoff, hoffset⟩ : ∃ off, u32? data data.length (front.length + 8) little = some off ∧
      off.toNat = e.offset little := by
    have hnumber := u32?_part little (front ++ orderedU16 little e.tag ++ orderedU16 little e.type ++
      orderedU32 little e.count) rest (show 4 ≤ e.field.toList.length by simp)
    have hsplit : data = front ++ orderedU16 little e.tag ++ orderedU16 little e.type ++
        orderedU32 little e.count ++ (e.field.toList ++ rest) := by
      rw [hdata, bytes]
      simp only [List.append_assoc]
    rw [← hsplit, List.length_append, List.length_append, List.length_append, length_orderedU16,
      length_orderedU16, length_orderedU32, Vector.length_toList] at hnumber
    obtain ⟨off, hoff⟩ : ∃ off, u32? e.field.toList 4 0 little = some off :=
      u32?_isSome (Nat.le_refl 4)
    refine ⟨off, hnumber.trans hoff, ?_⟩
    rw [offset, hoff]
    rfl
  rw [entryAt, if_pos hlen, htag, htype, hcount, hoff, decode, supported]
  by_cases hsupported : typeSize e.type = 0
  · simp [hsupported]
  · by_cases hinline : e.total ≤ 4
    · have hinline' : e.count.toNat * typeSize e.type ≤ 4 := hinline
      simp [hsupported, hinline', total]
    · have hinline' : ¬ e.count.toNat * typeSize e.type ≤ 4 := hinline
      simp [hsupported, hinline', hoffset, total]

theorem tag_of_decode {little : Bool} {base : Nat} {e : FieldEntry} {d : TiffIfdEntry}
    (h : e.decode little base = some d) : d.tag = e.tag := by
  rw [decode] at h
  split at h
  · cases h
    rfl
  · cases h

/-- What an entry gives does not depend on where it stands. -/
theorem tagValue_of_decode {little : Bool} {e : FieldEntry} {d : TiffIfdEntry}
    {front rest data : List UInt8} (hdata : data = front ++ (e.bytes little ++ rest))
    (hheld : data.length < 2 ^ 32) (h : e.decode little front.length = some d) :
    tagValue d data data.length little = e.value little data := by
  rw [decode] at h
  split at h
  · cases h
    have hlen : front.length + 12 ≤ data.length := by
      rw [hdata, List.length_append, List.length_append, length_bytes]
      omega
    rw [tagValue, value]
    by_cases hinline : e.total ≤ 4
    · have hsplit : data = front ++ orderedU16 little e.tag ++ orderedU16 little e.type ++
          orderedU32 little e.count ++ (e.field.toList ++ rest) := by
        rw [hdata, bytes]
        simp only [List.append_assoc]
      have hoff : (front ++ orderedU16 little e.tag ++ orderedU16 little e.type ++
          orderedU32 little e.count).length = front.length + 8 := by
        simp only [List.length_append, length_orderedU16, length_orderedU32]
      have hu16 := u16?_part little (front ++ orderedU16 little e.tag ++ orderedU16 little e.type ++
        orderedU32 little e.count) rest (show 2 ≤ e.field.toList.length by simp)
      have hu32 := u32?_part little (front ++ orderedU16 little e.tag ++ orderedU16 little e.type ++
        orderedU32 little e.count) rest (show 4 ≤ e.field.toList.length by simp)
      rw [← hsplit, hoff] at hu16 hu32
      simp only [if_pos hinline, Nat.mod_eq_of_lt (show front.length + 8 < 2 ^ 32 by omega), hu16,
        hu32]
    · simp only [if_neg hinline]
  · cases h

end FieldEntry

/-! ## The directory that is read

The entries of a file that was written out, up to the first of an unsupported
type; induction over the entries, with the bytes in front of them. -/

/-- The entries from an offset on, up to the first of an unsupported type. -/
def decodeAll (little : Bool) : Nat → List FieldEntry → List TiffIfdEntry
  | _, [] => []
  | base, e :: es =>
      match e.decode little base with
      | none => []
      | some d => d :: decodeAll little (base + 12) es

section Directory

variable {little : Bool} {es : List FieldEntry} {front rest data : List UInt8}

theorem entriesFrom_bytes (hdata : data = front ++ (es.flatMap (·.bytes little) ++ rest))
    {ifdOff i : Nat} (hfront : front.length = ifdOff + 2 + i * 12) :
    entriesFrom data data.length ifdOff little es.length i = decodeAll little front.length es := by
  induction es generalizing front i with
  | nil => rfl
  | cons e es ih =>
      rw [List.flatMap_cons, List.append_assoc] at hdata
      have hnext := @ih (front ++ e.bytes little) (by rw [hdata, List.append_assoc]) (i + 1)
        (by rw [List.length_append, FieldEntry.length_bytes]; omega)
      rw [List.length_append, FieldEntry.length_bytes] at hnext
      rw [List.length_cons, entriesFrom, ← hfront, e.entryAt_bytes little hdata]
      cases hdecode : e.decode little front.length with
      | none => simp only [decodeAll, hdecode]
      | some d => simp only [decodeAll, hdecode, hnext]

/-- The entry, if it gives a number under a tag. -/
def FieldEntry.valueUnder (tag : UInt16) (little : Bool) (data : List UInt8) (e : FieldEntry) :
    Option Nat :=
  if e.tag = tag then e.value little data else none

theorem filterMap_decodeAll (hdata : data = front ++ (es.flatMap (·.bytes little) ++ rest))
    (hheld : data.length < 2 ^ 32) (tag : UInt16) :
    ((decodeAll little front.length es).filterMap fun d =>
        if d.tag = tag then tagValue d data data.length little else none) =
      (es.takeWhile FieldEntry.supported).filterMap (FieldEntry.valueUnder tag little data) := by
  induction es generalizing front with
  | nil => rfl
  | cons e es ih =>
      rw [List.flatMap_cons, List.append_assoc] at hdata
      have hnext := @ih (front ++ e.bytes little) (by rw [hdata, List.append_assoc])
      rw [List.length_append, FieldEntry.length_bytes] at hnext
      rw [decodeAll, List.takeWhile_cons]
      cases hdecode : e.decode little front.length with
      -- the first unsupported entry ends both lists
      | none =>
          rw [FieldEntry.decode] at hdecode
          split at hdecode
          · cases hdecode
          next hunsupported =>
            rw [if_neg hunsupported]
            rfl
      | some d =>
          have hsupported : e.supported = true := by
            rw [FieldEntry.decode] at hdecode
            split at hdecode
            next h => exact h
            next => cases hdecode
          rw [if_pos hsupported]
          dsimp only
          rw [List.filterMap_cons, List.filterMap_cons, hnext, FieldEntry.tag_of_decode hdecode,
            FieldEntry.tagValue_of_decode hdata hheld hdecode]
          rfl

theorem any_decodeAll (base : Nat) (tag : UInt16) :
    (decodeAll little base es).any (·.tag = tag) =
      (es.takeWhile FieldEntry.supported).any (·.tag = tag) := by
  induction es generalizing base with
  | nil => rfl
  | cons e es ih =>
      rw [decodeAll, List.takeWhile_cons, FieldEntry.decode]
      by_cases hsupported : e.supported = true
      · rw [if_pos hsupported, if_pos hsupported]
        dsimp only
        rw [List.any_cons, List.any_cons, ih]
      · rw [if_neg hsupported, if_neg hsupported]
        rfl

end Directory

/-! ## The loops

What the loops keep of the entries that they meet: of width and height it is the
last number. -/

theorem getLast?_filterMap_cons {α β : Type} (g : α → Option β) (a : α) (as : List α)
    (last : Option β) :
    (((a :: as).filterMap g).getLast? <|> last) = ((as.filterMap g).getLast? <|> (g a <|> last)) := by
  rw [List.filterMap_cons]
  cases hg : g a with
  | none => simp
  | some b =>
      rw [List.getLast?_cons]
      cases (as.filterMap g).getLast? <;> simp

/-- The last width and the last height are kept. -/
theorem foldl_tiffTag_geometry (data : List UInt8) (size : Nat) (little : Bool)
    (ds : List TiffIfdEntry) (s : TiffTags) :
    (ds.foldl (tiffTag data size little) s).width =
        ((ds.filterMap fun d =>
          if d.tag = kTagImageWidth then tagValue d data size little else none).getLast? <|> s.width) ∧
      (ds.foldl (tiffTag data size little) s).height =
        ((ds.filterMap fun d =>
          if d.tag = kTagImageLength then tagValue d data size little else none).getLast? <|>
            s.height) := by
  induction ds generalizing s with
  | nil => exact ⟨rfl, rfl⟩
  | cons d ds ih =>
      obtain ⟨hwidth, hheight⟩ := ih (tiffTag data size little s d)
      rw [List.foldl_cons, hwidth, hheight, getLast?_filterMap_cons, getLast?_filterMap_cons]
      have hne : kTagImageLength ≠ kTagImageWidth := by decide
      unfold tiffTag
      by_cases hw : d.tag = kTagImageWidth
      · simp [hw, hne.symm]
      · by_cases hh : d.tag = kTagImageLength
        · simp [hh, hne]
        · simp only [if_neg hw, if_neg hh]
          repeat' split
          all_goals simp

theorem directoryLoop_run {S : Type} {data : List UInt8} (height : 8 ≤ data.length)
    (hheld : data.length < 2 ^ 32) {onEntry : Bool → TiffIfdEntry → S → Checked S}
    {f : Bool → S → TiffIfdEntry → S} (hentry : ∀ little e s, onEntry little e s = pure (f little s e))
    (s : S) :
    directoryLoop data onEntry s false =
      (.ok ((directory data data.length).foldl (f (littleEndian data)) s), false) := by
  obtain ⟨off, hoff, hdirectory⟩ := u32?_directoryOff data height
  have hfits : data.length < 2 ^ 64 := by omega
  obtain ⟨cut, hcut, hrun⟩ := forEachTiffEntry_run (Nat.le_refl _) hfits off.toNat_lt
    (littleEndian data) (hentry (littleEndian data)) s
  rw [← hdirectory] at hcut hrun
  obtain rfl : cut = false := by
    rw [← Bool.not_eq_true, hcut]
    exact not_directoryCut (Nat.le_of_lt hheld)
  unfold directoryLoop
  rw [tiffLittleEndian_eq (by omega), Persist.pure_bind, readU32_eq (Nat.le_refl _) hfits,
    Persist.pure_bind, hoff]
  dsimp only
  rw [← hdirectory]
  exact hrun false

theorem collects_tags {data : List UInt8} (height : 8 ≤ data.length) (hheld : data.length < 2 ^ 32) :
    Collects data (tiffTags data data.length) (containerTags data data.length) where
  parsed := directoryLoop_run height hheld (parseEntry_eq (Nat.le_refl _) (by omega)) {}
  classified := directoryLoop_run height hheld (fun _ => classifyEntry_eq (Nat.le_refl _)) {}

/-! ## Files that are written out

From the entries to the file and back: what is collected depends on the entries
in front of the first unsupported one. -/

/-- The last number under a tag. -/
def lastUnder (tag : UInt16) (little : Bool) (data : List UInt8) (es : List FieldEntry) : Option Nat :=
  (es.filterMap (FieldEntry.valueUnder tag little data)).getLast?

namespace Layout

variable (l : Layout) (es : List FieldEntry) (gap : List UInt8)

theorem length_header : l.header.length = 8 := by
  cases hlittle : l.little <;> simp [header, hlittle]

theorem littleEndian_bytes : littleEndian (l.bytes es gap) = l.little := by
  cases hlittle : l.little <;> simp [bytes, header, hlittle, littleEndian]

theorem length_bytes : (l.bytes es gap).length =
    l.ifdOff + (l.directoryBytes es gap).length + l.rest.length := by
  rw [bytes, List.length_append, List.length_append, List.length_append, length_header, ifdOff]
  omega

theorem length_directoryBytes : (l.directoryBytes es gap).length = 6 + 12 * es.length + gap.length := by
  have hentries : (es.flatMap (·.bytes l.little)).length = 12 * es.length := by
    simp [List.length_flatMap, List.map_const', Nat.mul_comm]
  rw [directoryBytes, List.length_append, List.length_append, List.length_append, hentries,
    length_orderedU16, length_orderedU32]
  omega

variable {l es gap} (hheld : (l.bytes es gap).length < 2 ^ 32)

include hheld

theorem directoryOff_bytes : directoryOff (l.bytes es gap) (l.bytes es gap).length = l.ifdOff := by
  have hsplit : l.bytes es gap = (if l.little then [0x49, 0x49] else [0x4D, 0x4D]) ++
      orderedU16 l.little 42 ++ (orderedU32 l.little (UInt32.ofNat l.ifdOff) ++
        (l.front ++ (l.directoryBytes es gap ++ l.rest))) := by
    rw [bytes, header]
    simp only [List.append_assoc]
  have hfour : ((if l.little then [0x49, 0x49] else [0x4D, 0x4D]) ++
      orderedU16 l.little 42).length = 4 := by
    cases l.little <;> rfl
  have hnumber := u32?_ordered l.little (UInt32.ofNat l.ifdOff)
    ((if l.little then [0x49, 0x49] else [0x4D, 0x4D]) ++ orderedU16 l.little 42)
    (l.front ++ (l.directoryBytes es gap ++ l.rest))
  rw [← hsplit, hfour] at hnumber
  have hlength := l.length_bytes es gap
  rw [directoryOff, littleEndian_bytes, hnumber, Option.map_some, Option.getD_some,
    UInt32.toNat_ofNat']
  omega

theorem directory_bytes (hfew : es.length < 2 ^ 16) :
    directory (l.bytes es gap) (l.bytes es gap).length = decodeAll l.little (l.ifdOff + 2) es := by
  have hcount : l.bytes es gap = l.header ++ l.front ++ (orderedU16 l.little (UInt16.ofNat es.length) ++
      (es.flatMap (·.bytes l.little) ++ (orderedU32 l.little l.next ++ gap ++ l.rest))) := by
    rw [bytes, directoryBytes]
    simp only [List.append_assoc]
  have hfront : (l.header ++ l.front).length = l.ifdOff := by
    rw [List.length_append, length_header, ifdOff]
  have hnumber := u16?_ordered l.little (UInt16.ofNat es.length) (l.header ++ l.front)
    (es.flatMap (·.bytes l.little) ++ (orderedU32 l.little l.next ++ gap ++ l.rest))
  rw [← hcount, hfront] at hnumber
  have hfirst : (l.header ++ l.front ++ orderedU16 l.little (UInt16.ofNat es.length)).length =
      l.ifdOff + 2 := by
    rw [List.length_append, hfront, length_orderedU16]
  rw [← List.append_assoc] at hcount
  have hentries := entriesFrom_bytes hcount hfirst (i := 0)
  rw [hfirst] at hentries
  have hsmall : (UInt16.ofNat es.length).toNat = es.length := by
    rw [UInt16.toNat_ofNat']
    exact Nat.mod_eq_of_lt hfew
  rw [directory, entries, littleEndian_bytes, directoryOff_bytes hheld, hnumber]
  dsimp only
  rw [hsmall, hentries]

/-- What is collected from a file is what its entries up to the first unsupported one give. -/
theorem tags_bytes (hfew : es.length < 2 ^ 16) :
    (tiffTags (l.bytes es gap) (l.bytes es gap).length).width =
        lastUnder kTagImageWidth l.little (l.bytes es gap) (es.takeWhile FieldEntry.supported) ∧
      (tiffTags (l.bytes es gap) (l.bytes es gap).length).height =
        lastUnder kTagImageLength l.little (l.bytes es gap) (es.takeWhile FieldEntry.supported) ∧
      (containerTags (l.bytes es gap) (l.bytes es gap).length).hasDng =
        (es.takeWhile FieldEntry.supported).any (·.tag = kTagDngVersion) := by
  have hsplit : l.bytes es gap = l.header ++ l.front ++ orderedU16 l.little (UInt16.ofNat es.length) ++
      (es.flatMap (·.bytes l.little) ++ (orderedU32 l.little l.next ++ gap ++ l.rest)) := by
    rw [bytes, directoryBytes]
    simp only [List.append_assoc]
  have hfirst : (l.header ++ l.front ++ orderedU16 l.little (UInt16.ofNat es.length)).length =
      l.ifdOff + 2 := by
    rw [List.length_append, List.length_append, length_header, length_orderedU16, ifdOff]
  have hvalues := filterMap_decodeAll hsplit hheld
  rw [hfirst] at hvalues
  obtain ⟨hwidth, hheight⟩ := foldl_tiffTag_geometry (l.bytes es gap) (l.bytes es gap).length
    l.little (decodeAll l.little (l.ifdOff + 2) es) {}
  rw [tiffTags, containerTags, directory_bytes hheld hfew, littleEndian_bytes, hwidth, hheight,
    hvalues, hvalues, foldl_containerTag, any_decodeAll]
  exact ⟨by simp [lastUnder], by simp [lastUnder], Bool.false_or _⟩

end Layout

/-! ## Without the entry

The file without the unsupported entry is read further, up to the next one. It
gives the same result exactly if the entries in between add nothing. -/

section Apart

variable {front middle middle' rest data data' : List UInt8} (hdata : data = front ++ (middle ++ rest))
  (hdata' : data' = front ++ (middle' ++ rest)) (hlen : middle.length = middle'.length)

include hdata hdata' hlen

/-- Buffers that differ in the middle only agree outside of it. -/
theorem getD_apart {off : Nat} (hoff : off < front.length ∨ front.length + middle.length ≤ off) :
    data.getD off 0 = data'.getD off 0 := by
  rw [hdata, hdata']
  rcases hoff with hoff | hoff
  · rw [List.getD_append _ _ _ _ hoff, List.getD_append _ _ _ _ hoff]
  · rw [List.getD_append_right _ _ _ _ (by omega), List.getD_append_right _ _ _ _ (by omega),
      List.getD_append_right _ _ _ _ (by omega), List.getD_append_right _ _ _ _ (by omega), hlen]

/-- A value outside of the middle is the same in both. -/
theorem FieldEntry.value_apart {little : Bool} (e : FieldEntry)
    (he : e.total ≤ 4 ∨ e.offset little + e.total ≤ front.length ∨
      front.length + middle.length ≤ e.offset little) :
    e.value little data = e.value little data' := by
  have hlength : data.length = data'.length := by
    rw [hdata, hdata']
    simp only [List.length_append, hlen]
  rw [value, value]
  by_cases hinline : e.total ≤ 4
  · simp only [if_pos hinline]
  · have hget : ∀ k ≤ 3, data.getD (e.offset little + k) 0 = data'.getD (e.offset little + k) 0 := by
      intro k hk
      exact getD_apart hdata hdata' hlen (by omega)
    have hu16 : u16? data data.length (e.offset little) little =
        u16? data' data'.length (e.offset little) little := by
      have hzero := hget 0 (by omega)
      rw [Nat.add_zero] at hzero
      rw [u16?, u16?, hlength, hzero, hget 1 (by omega)]
    have hu32 : u32? data data.length (e.offset little) little =
        u32? data' data'.length (e.offset little) little := by
      have hzero := hget 0 (by omega)
      rw [Nat.add_zero] at hzero
      rw [u32?, u32?, hlength, hzero, hget 1 (by omega), hget 2 (by omega), hget 3 (by omega)]
    simp only [if_neg hinline, hu16, hu32]

end Apart

namespace TiffFile

variable (f : TiffFile)

/-- The entries behind the unsupported one, up to the next. -/
def behind : List FieldEntry := f.after.takeWhile FieldEntry.supported

/-- The entries behind give no other width or height than those in front, and no
DNG version if it is not there. -/
def AddsNothing : Prop :=
  (∀ tag ∈ [kTagImageWidth, kTagImageLength], ∀ v, lastUnder tag f.little f.whole f.behind = some v →
    lastUnder tag f.little f.whole f.before = some v) ∧
  (f.behind.any (·.tag = kTagDngVersion) → f.before.any (·.tag = kTagDngVersion))

theorem length_without : f.without.length = f.whole.length := by
  rw [without, whole, Layout.length_bytes, Layout.length_bytes, Layout.length_directoryBytes,
    Layout.length_directoryBytes]
  simp only [List.length_append, List.length_cons, List.length_replicate, List.length_nil]
  omega

/-- The other entries give what they gave. -/
theorem lastUnder_without (tag : UInt16) {es : List FieldEntry} (h : ∀ e ∈ es, e ∈ f.before ++ f.after) :
    lastUnder tag f.little f.without es = lastUnder tag f.little f.whole es := by
  have hvalue : ∀ e ∈ es, e.valueUnder tag f.little f.without = e.valueUnder tag f.little f.whole := by
    intro e he
    have hapart := f.apart e (h e he)
    have hwhole : f.whole = f.header ++ f.front ++
        (f.directoryBytes (f.before ++ f.entry :: f.after) [] ++ f.rest) := by
      rw [whole, Layout.bytes, List.append_assoc]
    have hwithout : f.without = f.header ++ f.front ++
        (f.directoryBytes (f.before ++ f.after) (List.replicate 12 0) ++ f.rest) := by
      rw [without, Layout.bytes, List.append_assoc]
    have hfront : (f.header ++ f.front).length = f.ifdOff := by
      rw [List.length_append, Layout.length_header, Layout.ifdOff]
    rw [← hfront] at hapart
    have hlen : (f.directoryBytes (f.before ++ f.entry :: f.after) []).length =
        (f.directoryBytes (f.before ++ f.after) (List.replicate 12 0)).length := by
      rw [Layout.length_directoryBytes, Layout.length_directoryBytes]
      simp only [List.length_append, List.length_cons, List.length_replicate, List.length_nil]
      omega
    rw [FieldEntry.valueUnder, FieldEntry.valueUnder,
      FieldEntry.value_apart hwhole hwithout hlen e hapart]
  rw [lastUnder, lastUnder, List.filterMap_congr hvalue]

theorem lastUnder_append (tag : UInt16) (little : Bool) (data : List UInt8) (es es' : List FieldEntry) :
    lastUnder tag little data (es ++ es') =
      (lastUnder tag little data es' <|> lastUnder tag little data es) := by
  rw [lastUnder, lastUnder, lastUnder, List.filterMap_append, List.getLast?_append]
  cases (es'.filterMap (FieldEntry.valueUnder tag little data)).getLast? <;> rfl

theorem skipsEntry_iff_tags : SkipsEntry f ↔
    (tiffTags f.whole f.whole.length).width = (tiffTags f.without f.without.length).width ∧
    (tiffTags f.whole f.whole.length).height = (tiffTags f.without f.without.length).height ∧
    (containerTags f.whole f.whole.length).hasDng =
      (containerTags f.without f.without.length).hasDng := by
  have hheld : f.whole.length < 2 ^ 32 := f.held
  have hlength : 8 ≤ f.whole.length := by
    rw [whole, Layout.length_bytes, Layout.ifdOff]
    omega
  have hwhole := collects_tags hlength hheld
  have hwithout : Collects f.without (tiffTags f.without f.without.length)
      (containerTags f.without f.without.length) := by
    rw [← f.length_without] at hlength hheld
    exact collects_tags hlength hheld
  constructor
  · rintro ⟨s, c, s', c', h, h', hwidth, hheight, -, hdng⟩
    cases h.parsed.symm.trans hwhole.parsed
    cases h.classified.symm.trans hwhole.classified
    cases h'.parsed.symm.trans hwithout.parsed
    cases h'.classified.symm.trans hwithout.classified
    exact ⟨hwidth, hheight, hdng⟩
  · rintro ⟨hwidth, hheight, hdng⟩
    exact ⟨_, _, _, _, hwhole, hwithout, hwidth, hheight, by rw [tags_tiffTags, tags_tiffTags, hdng],
      hdng⟩

/-- An unsupported entry that stands in front is where both files are read up to. -/
theorem takeWhile_of_mem {es : List FieldEntry} (h : ∃ e ∈ es, e.supported = false)
    (es' : List FieldEntry) :
    (es ++ es').takeWhile FieldEntry.supported = es.takeWhile FieldEntry.supported := by
  induction es with
  | nil => exact absurd h (by simp)
  | cons e es ih =>
      rw [List.cons_append, List.takeWhile_cons, List.takeWhile_cons]
      split
      next hsupported =>
        obtain ⟨e', he', hunsupported⟩ := h
        rcases List.mem_cons.mp he' with rfl | he'
        · rw [hsupported] at hunsupported
          cases hunsupported
        · rw [ih ⟨e', he', hunsupported⟩]
      next => rfl

end TiffFile

/-- An entry of an unsupported type is skipped exactly when another one in front
of it has ended the loop already, or when the entries behind it, up to the next,
add nothing. -/
theorem skipsEntry_iff (f : TiffFile) :
    SkipsEntry f ↔ (∃ e ∈ f.before, e.supported = false) ∨ f.AddsNothing := by
  have hfew := f.few
  have hfew' : (f.before ++ f.after).length < 2 ^ 16 := by
    simp only [List.length_append, List.length_cons] at hfew ⊢
    omega
  have hheld' : f.without.length < 2 ^ 32 := f.length_without ▸ f.held
  obtain ⟨hwidth, hheight, hdng⟩ := Layout.tags_bytes f.held hfew
  obtain ⟨hwidth', hheight', hdng'⟩ := Layout.tags_bytes hheld' hfew'
  rw [f.skipsEntry_iff_tags, TiffFile.whole, TiffFile.without, hwidth, hheight, hdng, hwidth', hheight',
    hdng', ← TiffFile.whole, ← TiffFile.without]
  -- both files are read up to an entry in front of this one
  by_cases hstop : ∃ e ∈ f.before, e.supported = false
  · rw [TiffFile.takeWhile_of_mem hstop, TiffFile.takeWhile_of_mem hstop]
    have hmem : ∀ e ∈ f.before.takeWhile FieldEntry.supported, e ∈ f.before ++ f.after := fun e he =>
      List.mem_append_left _ ((List.takeWhile_prefix _).subset he)
    rw [f.lastUnder_without _ hmem, f.lastUnder_without _ hmem]
    exact iff_of_true ⟨rfl, rfl, rfl⟩ (.inl hstop)
  · have hall : ∀ e ∈ f.before, e.supported = true := by
      intro e he
      by_contra hunsupported
      exact hstop ⟨e, he, Bool.eq_false_of_not_eq_true hunsupported⟩
    have hmem : ∀ e ∈ f.before ++ f.behind, e ∈ f.before ++ f.after := fun e he =>
      (List.mem_append.mp he).elim (List.mem_append_left _) fun he =>
        List.mem_append_right _ ((List.takeWhile_prefix _).subset he)
    rw [List.takeWhile_append_of_pos hall, List.takeWhile_append_of_pos hall, List.takeWhile_cons,
      f.unsupported, if_neg Bool.false_ne_true, List.append_nil, ← TiffFile.behind,
      f.lastUnder_without _ hmem, f.lastUnder_without _ hmem, TiffFile.lastUnder_append,
      TiffFile.lastUnder_append, List.any_append, or_iff_right hstop]
    -- a later value takes the place of an earlier one
    have horElse : ∀ last other : Option Nat,
        last = (other <|> last) ↔ ∀ v, other = some v → last = some v := by
      intro last other
      cases other <;> simp
    have hor : ∀ b b' : Bool, b = (b || b') ↔ (b' = true → b = true) := by decide
    rw [horElse, horElse, hor]
    simp only [TiffFile.AddsNothing, List.mem_cons, List.not_mem_nil, or_false, forall_eq_or_imp,
      forall_eq, and_assoc]

/-- A DNG file: width, height, a resolution, which is a RATIONAL, and the version. -/
def dngFile : TiffFile where
  little := true
  front := []
  next := 0
  rest := [72, 0, 0, 0, 1, 0, 0, 0]
  before := [⟨kTagImageWidth, 3, 1, #v[7, 0, 0, 0]⟩, ⟨kTagImageLength, 3, 1, #v[5, 0, 0, 0]⟩]
  entry := ⟨0x011A, 5, 1, #v[62, 0, 0, 0]⟩
  after := [⟨kTagDngVersion, 1, 4, #v[1, 4, 0, 0]⟩]
  unsupported := by decide
  few := by decide
  held := by decide
  apart := by decide

/-- Its version is not seen. -/
theorem dngVersion_lost : ¬ ∀ f : TiffFile, SkipsEntry f := by
  intro hall
  obtain ⟨-, -, hdng⟩ := dngFile.skipsEntry_iff_tags.mp (hall dngFile)
  have hwhole := (Layout.tags_bytes dngFile.held dngFile.few).2.2
  have hheld : (dngFile.bytes (dngFile.before ++ dngFile.after) (List.replicate 12 0)).length < 2 ^ 32 := by
    decide
  have hwithout := (Layout.tags_bytes hheld (by decide)).2.2
  rw [TiffFile.whole, TiffFile.without, hwhole, hwithout] at hdng
  exact absurd hdng (by decide)

end SpatialPlatform.Importers
