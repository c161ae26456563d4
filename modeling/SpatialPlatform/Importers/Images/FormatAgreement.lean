import SpatialPlatform.Importers.Images.HeaderBounds

/-!
# One format from two looks at a file

`DetectImageFormat` sees the whole file, `ParseImageHeader` its first mebibyte.
The two agree on the format of a file, except on a longer TIFF container whose
marks of a RAW file differ in the two parts.
-/

namespace SpatialPlatform.Importers

open SpatialPlatform.Core SpatialPlatform.Lib SpatialPlatform.Lib.Checked

variable {data : List UInt8} {size : Nat}

/-- The maker that a directory names: the text of its last such entry. -/
def maker (data : List UInt8) (size : Nat) : List UInt8 :=
  (((directory data size).filter (·.tag = kTagMake)).getLast?.map (ascii · data size)).getD []

/-- A container has the mark of a RAW file: that of a CR2 file, a DNG version or the name of a maker. -/
def RawMarked (data : List UInt8) (size : Nat) : Prop :=
  cr2Mark data size ∨ (∃ e ∈ directory data size, e.tag = kTagDngVersion) ∨
    ∃ vendor ∈ ["NIKON", "SONY", "Canon"], stringBytes vendor <+: maker data size

/-- A directory gives a width and a height. -/
def HasGeometry (data : List UInt8) (size : Nat) : Prop :=
  ∃ width height, (tiffTags data size).width = some width ∧ (tiffTags data size).height = some height ∧
    width ≠ 0 ∧ height ≠ 0

/-- What the header says the file is, is what is detected. -/
def FormatsAgree (buffer : Buffer) : Prop :=
  ∀ info, (buffer.parseImageHeader false).1 = .ok (some info) →
    (buffer.detectImageFormat false).1 = .ok info.format

/-! ## Marks

What is collected from a directory decides between the formats of a container. -/

/-- The tags collected from a directory. -/
theorem foldl_containerTag (es : List TiffIfdEntry) (s : ContainerTags) :
    es.foldl (containerTag data size) s =
      { make := ((es.filter (·.tag = kTagMake)).getLast?.map (ascii · data size)).getD s.make
        hasDng := s.hasDng || es.any (·.tag = kTagDngVersion) } := by
  induction es generalizing s with
  | nil => simp
  | cons e es ih =>
    rw [List.foldl_cons, ih, List.any_cons]
    unfold containerTag
    by_cases hmake : e.tag = kTagMake
    · have hdng : ¬ e.tag = kTagDngVersion := by
        rw [hmake]
        decide
      rw [if_pos hmake, List.filter_cons_of_pos (by simpa using hmake), List.getLast?_cons]
      cases (es.filter (·.tag = kTagMake)).getLast? <;> simp [hdng]
    · rw [if_neg hmake, List.filter_cons_of_neg (by simpa using hmake)]
      by_cases hdng : e.tag = kTagDngVersion
      · simp [hdng]
      · simp [hdng]

/-- The marks decide between the two formats of a container. -/
theorem containerType_raw_iff :
    (containerType (cr2Mark data size) (containerTags data size)).1 = .raw ↔ RawMarked data size := by
  have htags : containerTags data size = ⟨maker data size,
      (directory data size).any (·.tag = kTagDngVersion)⟩ := by
    unfold containerTags
    rw [foldl_containerTag, Bool.false_or]
    rfl
  have hvendor : ∀ vendor, hasPrefix vendor (maker data size) ↔
      stringBytes vendor <+: maker data size := fun vendor => List.isPrefixOf_iff_prefix
  have hdng : (directory data size).any (·.tag = kTagDngVersion) ↔
      ∃ e ∈ directory data size, e.tag = kTagDngVersion := by simp
  unfold RawMarked containerType
  rw [htags, ← hdng]
  simp only [List.mem_cons, List.not_mem_nil, or_false, exists_eq_or_imp, exists_eq_left, ← hvendor]
  cases cr2Mark data size <;> cases (directory data size).any (·.tag = kTagDngVersion) <;>
    cases hasPrefix "NIKON" (maker data size) <;> cases hasPrefix "SONY" (maker data size) <;>
      cases hasPrefix "Canon" (maker data size) <;> simp

theorem containerType_tiff_or_raw (cr2 : Bool) (tags : ContainerTags) :
    (containerType cr2 tags).1 = .tiff ∨ (containerType cr2 tags).1 = .raw := by
  unfold containerType
  repeat' split
  all_goals simp

/-- The same marks, the same format. -/
theorem containerType_eq_iff {size' : Nat} :
    (containerType (cr2Mark data size) (containerTags data size)).1 =
        (containerType (cr2Mark data size') (containerTags data size')).1 ↔
      (RawMarked data size ↔ RawMarked data size') := by
  rw [← containerType_raw_iff, ← containerType_raw_iff]
  obtain h | h := containerType_tiff_or_raw (cr2Mark data size) (containerTags data size) <;>
    obtain h' | h' := containerType_tiff_or_raw (cr2Mark data size') (containerTags data size') <;>
      simp [h, h']

theorem tiffInfo_isSome_iff :
    (tiffInfo (cr2Mark data size) (tiffTags data size)).isSome ↔ HasGeometry data size := by
  unfold tiffInfo HasGeometry
  cases (tiffTags data size).width <;> cases (tiffTags data size).height <;> simp

/-! ## The first mebibyte

Both functions are described by one and the same directory, read from two
buffers: the file and its beginning. So they disagree exactly if an entry beyond
the first mebibyte makes the difference. -/

theorem eight_le_min : 8 ≤ min size kMaxHeaderSize ↔ 8 ≤ size := by
  unfold kMaxHeaderSize
  omega

/-- The first bytes of a file are in its first mebibyte. -/
theorem tiffMagic_min : tiffMagic data (min size kMaxHeaderSize) = tiffMagic data size := by
  unfold tiffMagic
  simp only [eight_le_min]
  by_cases height : 8 ≤ size
  · have hmin : 8 ≤ min size kMaxHeaderSize := eight_le_min.mpr height
    unfold u16?
    rw [if_pos (by omega), if_pos (by omega)]
  · simp [height]

/-- A file that is no TIFF container has the format of its first bytes. -/
theorem formatOf_min (h : tiffMagic data size = false) :
    formatOf data (min size kMaxHeaderSize) = formatOf data size := by
  have hthree : 3 ≤ min size kMaxHeaderSize ↔ 3 ≤ size := by
    unfold kMaxHeaderSize
    omega
  have hfour : 4 ≤ min size kMaxHeaderSize ↔ 4 ≤ size := by
    unfold kMaxHeaderSize
    omega
  unfold formatOf
  rw [tiffMagic_min, h]
  simp only [jpegMagic, pngMagic, exrMagic, hthree, hfour, eight_le_min, Bool.false_eq_true, if_false]

theorem formatOf_of_tiffMagic (h : tiffMagic data size) :
    formatOf data size = (containerType (cr2Mark data size) (containerTags data size)).1 := by
  obtain ⟨hjpeg, hpng, hexr⟩ := not_other_of_tiffMagic h
  simp only [formatOf, hjpeg, hpng, hexr, h, Bool.false_eq_true, if_false, if_true]

/-- The header of a TIFF container is what its directory says, as far as it is in the first mebibyte. -/
theorem parseImageHeader_tiff (hsize : size ≤ data.length) (h : tiffMagic data size) :
    (parseImageHeader data size false).1 = .ok (tiffInfo
      (cr2Mark data (min size kMaxHeaderSize)) (tiffTags data (min size kMaxHeaderSize))) := by
  have height : 8 ≤ size := by
    simp only [tiffMagic, Bool.and_eq_true, decide_eq_true_eq] at h
    exact h.1.1
  have hmin : 8 ≤ min size kMaxHeaderSize := eight_le_min.mpr height
  have hle : min size kMaxHeaderSize ≤ data.length := (Nat.min_le_left _ _).trans hsize
  have hfits : min size kMaxHeaderSize < 2 ^ 64 := by
    unfold kMaxHeaderSize
    omega
  rw [← tiffMagic_min] at h
  unfold parseImageHeader
  rw [if_neg (by omega)]
  generalize min size kMaxHeaderSize = n at *
  obtain ⟨cut, _, hdetect⟩ := detectImageFormat_run hle hfits
  obtain ⟨cut', _, hparse⟩ := parseTiff_run hmin hle hfits
  have hformat := formatOf_of_tiffMagic h
  show ((detectImageFormat data n >>= _) false).1 = _
  rw [Persist.bind_of_ok (hdetect false), hformat]
  obtain hcontainer | hcontainer :=
    containerType_tiff_or_raw (cr2Mark data n) (containerTags data n) <;>
      rw [hcontainer] <;> simp only [hparse]

/-- The two results agree when there is no header, or when the first mebibyte
has the format of the whole. -/
theorem formatsAgree_iff_formatOf (buffer : Buffer) {r : Option ImageHeaderInfo}
    (hrun : (buffer.parseImageHeader false).1 = .ok r) :
    FormatsAgree buffer ↔ (r.isSome →
      formatOf buffer.data (min buffer.data.length kMaxHeaderSize) =
        formatOf buffer.data buffer.data.length) := by
  obtain ⟨cut, _, hdetect⟩ := detectImageFormat_run (Nat.le_refl buffer.data.length) buffer.fits
  obtain ⟨r', hrun', hformat⟩ := (clean_parseImageHeader (Nat.le_refl buffer.data.length)).run
  obtain rfl : r' = r := by
    unfold Buffer.parseImageHeader at hrun
    rw [hrun'] at hrun
    exact Except.ok.inj hrun
  unfold FormatsAgree Buffer.detectImageFormat
  rw [hrun, hdetect]
  cases r' with
  | none => simp
  | some info =>
    rw [← hformat info rfl]
    simp [eq_comm]

theorem formatsAgree_tiff_iff {buffer : Buffer} (htiff : tiffMagic buffer.data buffer.data.length) :
    FormatsAgree buffer ↔ (HasGeometry buffer.data (min buffer.data.length kMaxHeaderSize) →
      (RawMarked buffer.data (min buffer.data.length kMaxHeaderSize) ↔
        RawMarked buffer.data buffer.data.length)) := by
  have hmagic : tiffMagic buffer.data (min buffer.data.length kMaxHeaderSize) = true :=
    tiffMagic_min.trans htiff
  rw [formatsAgree_iff_formatOf buffer (parseImageHeader_tiff (Nat.le_refl _) htiff),
    tiffInfo_isSome_iff, formatOf_of_tiffMagic htiff, formatOf_of_tiffMagic hmagic,
    containerType_eq_iff]

/-- The format of a header is the detected one, except for a TIFF container of
more than a mebibyte with a geometry and other marks of a RAW file in its first
mebibyte than in the whole. -/
theorem formats_agree_iff (buffer : Buffer) :
    FormatsAgree buffer ↔
      ¬ (kMaxHeaderSize < buffer.data.length ∧ tiffMagic buffer.data buffer.data.length ∧
        HasGeometry buffer.data kMaxHeaderSize ∧
        ¬ (RawMarked buffer.data kMaxHeaderSize ↔ RawMarked buffer.data buffer.data.length)) := by
  cases htiff : tiffMagic buffer.data buffer.data.length with
  -- the first bytes decide, and they are in the first mebibyte
  | false =>
    obtain ⟨r, hrun, _⟩ := (clean_parseImageHeader (Nat.le_refl buffer.data.length)).run
    rw [formatsAgree_iff_formatOf buffer (congrArg Prod.fst hrun)]
    simp [formatOf_min htiff]
  | true =>
    rw [formatsAgree_tiff_iff htiff]
    by_cases hlong : kMaxHeaderSize < buffer.data.length
    · rw [Nat.min_eq_right (Nat.le_of_lt hlong)]
      simp only [hlong, true_and, not_and, not_not]
    · rw [Nat.min_eq_left (Nat.le_of_not_lt hlong)]
      simp only [hlong, false_and, not_false_eq_true, implies_true]

/-! A container of a little more than a mebibyte, whose last bytes are the name of its maker. -/

private def makerFront : List UInt8 := [
  0x49, 0x49, 42, 0, 8, 0, 0, 0,
  3, 0,
  0x00, 0x01, 3, 0, 1, 0, 0, 0, 1, 0, 0, 0,
  0x01, 0x01, 3, 0, 1, 0, 0, 0, 1, 0, 0, 0,
  0x0F, 0x01, 2, 0, 5, 0, 0, 0, 0, 0, 16, 0]

private def makerBytes (gap : Nat) : List UInt8 :=
  makerFront ++ (List.replicate gap 0 ++ stringBytes "NIKON")

private theorem length_makerBytes (gap : Nat) : (makerBytes gap).length = 46 + gap + 5 := by
  unfold makerBytes
  rw [List.length_append, List.length_append, List.length_replicate, ← Nat.add_assoc]
  rfl

private def makerEntries : List TiffIfdEntry := [
  ⟨kTagImageWidth, 3, 1, 18, 2⟩, ⟨kTagImageLength, 3, 1, 30, 2⟩, ⟨kTagMake, 2, 5, 2 ^ 20, 5⟩]

private theorem entryAt_makerBytes (gap : Nat) {size base : Nat} (hsize : 46 ≤ size)
    (hbase : base + 12 ≤ 46) :
    entryAt (makerBytes gap) size base true = entryAt makerFront 46 base true := by
  have hlength : makerFront.length = 46 := rfl
  unfold makerBytes entryAt
  rw [if_pos (by omega), if_pos hbase, u16?_append_left true (by omega) (by omega),
    u16?_append_left true (by omega) (by omega), u32?_append_left true (by omega) (by omega),
    u32?_append_left true (by omega) (by omega)]
  rfl

private theorem directory_makerBytes (gap : Nat) {size : Nat} (hsize : 46 ≤ size) :
    directory (makerBytes gap) size = makerEntries := by
  have hlength : makerFront.length = 46 := rfl
  have hlittle : littleEndian (makerBytes gap) = true := rfl
  have hoff : directoryOff (makerBytes gap) size = 8 := by
    unfold directoryOff
    rw [hlittle, makerBytes, u32?_append_left true (by omega) (by omega)]
    rfl
  have hcount : u16? (makerBytes gap) size 8 true = some 3 := by
    rw [makerBytes, u16?_append_left true (by omega) (by omega)]
    rfl
  unfold directory entries
  rw [hoff, hlittle, hcount]
  show entriesFrom _ _ _ _ 3 0 = _
  simp only [entriesFrom, entryAt_makerBytes gap hsize (show 8 + 2 + 0 * 12 + 12 ≤ 46 by decide),
    entryAt_makerBytes gap hsize (show 8 + 2 + (0 + 1) * 12 + 12 ≤ 46 by decide),
    entryAt_makerBytes gap hsize (show 8 + 2 + (0 + 1 + 1) * 12 + 12 ≤ 46 by decide)]
  decide

private theorem cr2Mark_makerBytes (gap size : Nat) : cr2Mark (makerBytes gap) size = false := by
  have hbyte : (makerBytes gap).getD 8 0 = 3 := rfl
  unfold cr2Mark
  rw [hbyte]
  simp

/-- Only the maker can mark the container. -/
private theorem rawMarked_makerBytes (gap : Nat) {size : Nat} (hsize : 46 ≤ size) :
    RawMarked (makerBytes gap) size ↔
      ∃ vendor ∈ ["NIKON", "SONY", "Canon"],
        stringBytes vendor <+: ascii ⟨kTagMake, 2, 5, 2 ^ 20, 5⟩ (makerBytes gap) size := by
  have hdng : ¬ ∃ e ∈ makerEntries, e.tag = kTagDngVersion := by decide
  unfold RawMarked maker
  rw [directory_makerBytes gap hsize, cr2Mark_makerBytes]
  simp only [hdng, Bool.false_eq_true, false_or]
  rfl

private theorem rawMarked_makerBytes_whole {gap : Nat} (hgap : 46 + gap = 2 ^ 20) :
    RawMarked (makerBytes gap) (makerBytes gap).length := by
  have hlength := length_makerBytes gap
  have hdrop : (makerBytes gap).drop (2 ^ 20) = stringBytes "NIKON" := by
    unfold makerBytes
    rw [← List.append_assoc]
    apply List.drop_left'
    rw [List.length_append, List.length_replicate, ← hgap]
    rfl
  rw [rawMarked_makerBytes gap (by omega)]
  refine ⟨"NIKON", by simp, ?_⟩
  unfold ascii
  rw [if_neg (by simp only [not_true_eq_false, false_or, not_le, ne_eq]; omega)]
  simp only [hdrop]
  rw [Nat.min_eq_left (by omega)]
  decide

private theorem rawMarked_makerBytes_head (gap : Nat) : ¬ RawMarked (makerBytes gap) (2 ^ 20) := by
  rw [rawMarked_makerBytes gap (by norm_num)]
  unfold ascii
  rw [if_pos (.inr (Nat.le_refl _))]
  decide

private theorem hasGeometry_makerBytes (gap : Nat) : HasGeometry (makerBytes gap) (2 ^ 20) := by
  have hlength : makerFront.length = 46 := rfl
  have hvalue : ∀ off, off + 2 ≤ 46 →
      u16? (makerBytes gap) (2 ^ 20) off true = u16? makerFront makerFront.length off true :=
    fun off hoff => u16?_append_left true (by omega) (by rw [hlength]; norm_num)
  have hlittle : littleEndian (makerBytes gap) = true := rfl
  unfold HasGeometry tiffTags
  rw [directory_makerBytes gap (by norm_num), hlittle]
  refine ⟨1, 1, ?_, ?_, by decide, by decide⟩
  · show (tagValue ⟨kTagImageWidth, 3, 1, 18, 2⟩ (makerBytes gap) (2 ^ 20) true <|> none) = some 1
    unfold tagValue
    rw [if_pos rfl, hvalue 18 (by decide)]
    rfl
  · show (tagValue ⟨kTagImageLength, 3, 1, 30, 2⟩ (makerBytes gap) (2 ^ 20) true <|> none) = some 1
    unfold tagValue
    rw [if_pos rfl, hvalue 30 (by decide)]
    rfl

private def makerContainer : Buffer where
  data := makerBytes (2 ^ 20 - 46)
  fits := by
    rw [length_makerBytes]
    norm_num

/-- Detected as a RAW file, the container is recorded as a plain TIFF. -/
theorem maker_beyond_header : ¬ FormatsAgree makerContainer := by
  have hlength : makerContainer.data.length = 2 ^ 20 + 5 := by
    show (makerBytes _).length = _
    rw [length_makerBytes]
    norm_num
  have htiff : tiffMagic makerContainer.data makerContainer.data.length := by
    have hfront : makerFront.length ≤ 2 ^ 20 + 5 := by
      show 46 ≤ _
      norm_num
    have hmagic : u16? makerContainer.data (2 ^ 20 + 5) 2 true = some 42 :=
      (u16?_append_left true (by decide) hfront).trans rfl
    have hlittle : littleEndian makerContainer.data = true := rfl
    unfold tiffMagic
    rw [hlength, hlittle, hmagic]
    decide
  rw [formatsAgree_tiff_iff htiff, hlength]
  intro h
  have hmin : min (2 ^ 20 + 5) kMaxHeaderSize = 2 ^ 20 := by
    unfold kMaxHeaderSize
    omega
  -- the text of the maker ends behind the first mebibyte
  rw [hmin, ← hlength] at h
  exact rawMarked_makerBytes_head _ ((h (hasGeometry_makerBytes _)).mpr
    (rawMarked_makerBytes_whole (by norm_num)))

end SpatialPlatform.Importers
