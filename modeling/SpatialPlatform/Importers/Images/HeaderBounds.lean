import SpatialPlatform.Importers.Images.TiffDirectory

/-!
# Reads of the header parsers

Every read of `DetectImageFormat` and `ParseImageHeader` is inside the buffer
and every loop ends. An offset is cut in one place alone, for a value that
stands in a directory entry beyond 4 GiB.
-/

namespace SpatialPlatform.Importers

open SpatialPlatform.Core SpatialPlatform.Lib SpatialPlatform.Lib.Checked

variable {data : List UInt8} {size : Nat}

theorem clean_readU16 (hsize : size ≤ data.length) (hmax : size ≤ kMaxHeaderSize) (off : Nat)
    (little : Bool) :
    Clean (readU16 data size off little) fun v => v.isSome → off + 2 ≤ size := by
  rw [readU16_eq hsize (by unfold kMaxHeaderSize at hmax; omega)]
  apply Clean.pure
  unfold u16?
  split <;> simp_all

theorem clean_readU32 (hsize : size ≤ data.length) (hmax : size ≤ kMaxHeaderSize) (off : Nat)
    (little : Bool) :
    Clean (readU32 data size off little) fun v => v.isSome → off + 4 ≤ size := by
  rw [readU32_eq hsize (by unfold kMaxHeaderSize at hmax; omega)]
  apply Clean.pure
  unfold u32?
  split <;> simp_all

/-- A run of bytes is passed inside the buffer. -/
theorem clean_scan (p : UInt8 → Bool) (hsize : size ≤ data.length) (hmax : size ≤ kMaxHeaderSize)
    {off : Nat} (hoff : off ≤ size) : Clean (scan p data size off) fun r => off ≤ r ∧ r ≤ size := by
  unfold kMaxHeaderSize at hmax
  unfold scan
  apply Clean.iterate (fun s => off ≤ s ∧ s ≤ size) (fun s => size - s)
  · intro s ⟨hlow, hhigh⟩
    apply Clean.ite
    · intro hlt
      apply Clean.bind (Clean.readAt (by omega))
      intro byte _
      apply Clean.ite
      · intro _
        apply Clean.bind (Clean.plus (by omega))
        intro next hnext
        apply Clean.pure
        show (off ≤ next ∧ next ≤ size) ∧ size - next < size - s
        omega
      · intro _
        exact Clean.pure ⟨hlow, hhigh⟩
    · intro _
      exact Clean.pure ⟨hlow, hhigh⟩
  · exact ⟨Nat.le_refl _, hoff⟩
  · omega

/-! ## JPEG

Segment by segment: a read that was checked is clean, and the offset grows. -/

/-- The geometry of a frame header is read inside the buffer. -/
theorem clean_readSof (hsize : size ≤ data.length) (hmax : size ≤ kMaxHeaderSize) {off : Nat}
    (hoff : off ≤ size) :
    Clean (readSof data size off) fun r => ∀ info ∈ r, info.format = .jpeg := by
  unfold kMaxHeaderSize at hmax
  have hread : ∀ k ≤ 7, ∀ o, o = off + k → off + 8 ≤ size →
      Clean (Checked.readAt data o) fun _ => True := by
    intro k hk o ho hfin
    exact (Clean.readAt (by omega)).mono fun _ _ => trivial
  unfold readSof
  apply Clean.bind (Clean.plus (by omega))
  intro fin hfin
  apply Clean.ite
  · intro _
    exact Clean.pure fun _ h => (nomatch h)
  · intro hin
    have hin : off + 8 ≤ size := by omega
    -- six bytes, each at an offset inside the checked range
    apply Clean.bind (Clean.plus (by omega))
    intro o₂ h₂
    apply Clean.bind (hread 2 (by omega) o₂ h₂ hin)
    intro _ _
    apply Clean.bind (Clean.plus (by omega))
    intro o₃ h₃
    apply Clean.bind (hread 3 (by omega) o₃ h₃ hin)
    intro _ _
    apply Clean.bind (Clean.plus (by omega))
    intro o₄ h₄
    apply Clean.bind (hread 4 (by omega) o₄ h₄ hin)
    intro _ _
    apply Clean.bind (Clean.plus (by omega))
    intro o₅ h₅
    apply Clean.bind (hread 5 (by omega) o₅ h₅ hin)
    intro _ _
    apply Clean.bind (Clean.plus (by omega))
    intro o₆ h₆
    apply Clean.bind (hread 6 (by omega) o₆ h₆ hin)
    intro _ _
    apply Clean.bind (Clean.plus (by omega))
    intro o₇ h₇
    apply Clean.bind (hread 7 (by omega) o₇ h₇ hin)
    intro _ _
    apply Clean.pure
    intro info hinfo
    cases hinfo
    rfl

/-- A segment is read inside the buffer, and the next one starts further on. -/
theorem clean_jpegSegment (hsize : size ≤ data.length) (hmax : size ≤ kMaxHeaderSize) {off : Nat}
    (hoff : off ≤ size + 2 ^ 16) :
    Clean (jpegSegment data size off) fun
      | .inl next => next ≤ size + 2 ^ 16 ∧ size - next < size - off
      | .inr r => ∀ info ∈ r, info.format = .jpeg := by
  have hmax' := hmax
  unfold kMaxHeaderSize at hmax
  have hnone : Clean (pure (.inr none) : Checked (Nat ⊕ Option ImageHeaderInfo)) fun
      | .inl next => next ≤ size + 2 ^ 16 ∧ size - next < size - off
      | .inr r => ∀ info ∈ r, info.format = .jpeg :=
    Clean.pure fun _ h => (nomatch h)
  unfold jpegSegment
  apply Clean.bind (Clean.plus (by omega))
  intro fin hfin
  apply Clean.ite (fun _ => hnone)
  intro hin
  apply Clean.bind (Clean.readAt (by omega))
  intro lead _
  apply Clean.ite (fun _ => hnone)
  intro _
  apply Clean.bind (clean_scan _ hsize hmax' (by omega))
  intro mark ⟨hlow, hhigh⟩
  apply Clean.ite (fun _ => hnone)
  intro hmark
  apply Clean.bind (Clean.readAt (by omega))
  intro marker _
  apply Clean.ite (fun _ => hnone)
  intro _
  apply Clean.bind (Clean.plus (by omega))
  intro body hbody
  apply Clean.ite
  · -- a marker without a length: the offset is past the marker
    intro _
    apply Clean.pure
    show body ≤ size + 2 ^ 16 ∧ size - body < size - off
    omega
  intro _
  apply Clean.bind (clean_readU16 hsize hmax' body false)
  intro len hlen
  cases len with
  | none => exact hnone
  | some len =>
    have hlen : body + 2 ≤ size := hlen rfl
    apply Clean.ite (fun _ => hnone)
    intro hshort
    apply Clean.ite
    · intro _
      apply Clean.bind (clean_readSof hsize hmax' (by omega))
      intro info hinfo
      exact Clean.pure hinfo
    · intro _
      have hlt := len.toNat_lt
      apply Clean.bind (Clean.plus (by omega))
      intro next hnext
      apply Clean.pure
      show next ≤ size + 2 ^ 16 ∧ size - next < size - off
      omega

theorem clean_parseJpeg (hsize : size ≤ data.length) (hmax : size ≤ kMaxHeaderSize) :
    Clean (parseJpeg data size) fun r => ∀ info ∈ r, info.format = .jpeg := by
  unfold parseJpeg
  have hmax' := hmax
  unfold kMaxHeaderSize at hmax
  apply Clean.iterate (fun off => off ≤ size + 2 ^ 16) (fun off => size - off)
  · intro off hoff
    exact (clean_jpegSegment hsize hmax' hoff).mono fun next hnext => by cases next <;> exact hnext
  · omega
  · omega

/-! ## PNG -/

theorem clean_bigU32At {off : Nat} (hoff : off + 4 ≤ data.length) :
    Clean (bigU32At data off) fun _ => True := by
  unfold bigU32At
  apply Clean.bind (Clean.readAt (by omega))
  intro _ _
  apply Clean.bind (Clean.readAt (by omega))
  intro _ _
  apply Clean.bind (Clean.readAt (by omega))
  intro _ _
  apply Clean.bind (Clean.readAt (by omega))
  intro _ _
  exact Clean.pure trivial

theorem clean_parsePng (hsize : size ≤ data.length) :
    Clean (parsePng data size) fun r => ∀ info ∈ r, info.format = .png := by
  have hnone : Clean (pure none : Checked (Option ImageHeaderInfo))
      fun r => ∀ info ∈ r, info.format = .png :=
    Clean.pure fun _ h => (nomatch h)
  unfold parsePng
  apply Clean.ite (fun _ => hnone)
  intro hlong
  apply Clean.bind (clean_bigU32At (by omega))
  intro len _
  apply Clean.bind (Clean.readRange (by omega))
  intro chunk _
  apply Clean.ite (fun _ => hnone)
  intro _
  rw [minus_of_le (by omega), Persist.pure_bind]
  apply Clean.ite (fun _ => hnone)
  intro _
  apply Clean.bind (clean_bigU32At (by omega))
  intro width _
  apply Clean.bind (clean_bigU32At (by omega))
  intro height _
  apply Clean.bind (Clean.readAt (by omega))
  intro bitDepth _
  apply Clean.bind (Clean.readAt (by omega))
  intro colorType _
  apply Clean.pure
  intro info hinfo
  cases hinfo
  rfl

/-! ## OpenEXR

The same for the attributes, whose names end at a zero byte that has to be found
inside the buffer. -/

/-- A string moves the offset on. -/
theorem clean_readCString (hsize : size ≤ data.length) (hmax : size ≤ kMaxHeaderSize) {off : Nat}
    (hoff : off ≤ size) :
    Clean (readCString data size off) fun r => ∀ p ∈ r, off < p.2 ∧ p.2 ≤ size := by
  have hmax' := hmax
  unfold kMaxHeaderSize at hmax
  unfold readCString
  apply Clean.bind (clean_scan _ hsize hmax' hoff)
  intro fin ⟨hlow, hhigh⟩
  apply Clean.ite
  · intro _
    exact Clean.pure fun _ h => (nomatch h)
  · intro hfin
    rw [minus_of_le hlow, Persist.pure_bind]
    apply Clean.bind (Clean.readRange (by omega))
    intro text _
    apply Clean.bind (Clean.plus (by omega))
    intro next hnext
    apply Clean.pure
    intro p hp
    cases hp
    show off < next ∧ next ≤ size
    omega

theorem clean_readWindow (hsize : size ≤ data.length) (hmax : size ≤ kMaxHeaderSize) {off : Nat}
    (hoff : off ≤ size) : Clean (readWindow data size off) fun _ => True := by
  have hmax' := hmax
  unfold kMaxHeaderSize at hmax
  unfold readWindow
  apply Clean.bind (clean_readU32 hsize hmax' _ _)
  intro _ _
  apply Clean.bind (Clean.plus (by omega))
  intro _ _
  apply Clean.bind (clean_readU32 hsize hmax' _ _)
  intro _ _
  apply Clean.bind (Clean.plus (by omega))
  intro _ _
  apply Clean.bind (clean_readU32 hsize hmax' _ _)
  intro _ _
  apply Clean.bind (Clean.plus (by omega))
  intro _ _
  apply Clean.bind (clean_readU32 hsize hmax' _ _)
  intro _ _
  split <;> exact Clean.pure trivial

theorem clean_readChannels (hsize : size ≤ data.length) (hmax : size ≤ kMaxHeaderSize) {off fin : Nat}
    (hfin : fin ≤ size) : Clean (readChannels data off fin) fun _ => True := by
  have hmax' := hmax
  unfold kMaxHeaderSize at hmax
  unfold readChannels
  apply Clean.ite (fun _ => Clean.pure trivial)
  intro hoff
  apply Clean.bind (clean_scan _ (by omega) (by unfold kMaxHeaderSize; omega) (by omega))
  intro nameEnd ⟨_, hhigh⟩
  apply Clean.ite (fun _ => Clean.pure trivial)
  intro _
  apply Clean.ite (fun _ => Clean.pure trivial)
  intro _
  apply Clean.bind (Clean.plus (by omega))
  intro _ _
  apply Clean.bind (clean_readU32 (by omega) (by unfold kMaxHeaderSize; omega) _ _)
  intro _ _
  exact Clean.pure trivial

/-- An attribute is read inside the buffer, and the next one starts further on. -/
theorem clean_exrAttribute (hsize : size ≤ data.length) (hmax : size ≤ kMaxHeaderSize) {s : ExrState}
    (hs : s.off ≤ size) :
    Clean (exrAttribute data size s) fun
      | .inl next => next.off ≤ size ∧ size - next.off < size - s.off
      | .inr _ => True := by
  have hmax' := hmax
  unfold kMaxHeaderSize at hmax
  have hend : ∀ r, Clean (pure (.inr r) : Checked (ExrState ⊕ Option ExrState)) fun
      | .inl next => next.off ≤ size ∧ size - next.off < size - s.off
      | .inr _ => True :=
    fun _ => Clean.pure trivial
  unfold exrAttribute
  apply Clean.ite (fun _ => hend _)
  intro hlt
  apply Clean.bind (clean_readCString hsize hmax' hs)
  intro name hname
  cases name with
  | none => exact hend _
  | some name =>
    obtain ⟨hafter, hname⟩ := hname name rfl
    apply Clean.ite (fun _ => hend _)
    intro _
    apply Clean.bind (clean_readCString hsize hmax' hname)
    intro type htype
    cases type with
    | none => exact hend _
    | some type =>
      obtain ⟨hafter', htype⟩ := htype type rfl
      apply Clean.bind (clean_readU32 hsize hmax' _ _)
      intro attrSize hattr
      cases attrSize with
      | none => exact hend _
      | some attrSize =>
        have hattr := hattr rfl
        apply Clean.bind (Clean.plus (by omega))
        intro dataOff hdata
        apply Clean.ite (fun _ => hend _)
        intro hin
        rw [minus_of_le (by omega), Persist.pure_bind]
        apply Clean.ite (fun _ => hend _)
        intro hrest
        apply Clean.bind (Clean.plus (by omega))
        intro fin hfin
        -- every attribute that is read takes bytes, which is what ends the loop
        have hnext : fin ≤ size ∧ size - fin < size - s.off := by omega
        apply Clean.ite
        · intro _
          apply Clean.bind (clean_readWindow hsize hmax' (by omega))
          intro _ _
          exact Clean.pure hnext
        · intro _
          apply Clean.ite
          · intro _
            apply Clean.bind (clean_readChannels hsize hmax' hnext.1)
            intro _ _
            exact Clean.pure hnext
          · intro _
            exact Clean.pure hnext

theorem clean_parseExr (hsize : size ≤ data.length) (hmax : size ≤ kMaxHeaderSize) :
    Clean (parseExr data size) fun r => ∀ info ∈ r, info.format = .exr := by
  unfold parseExr
  apply Clean.ite
  · intro _
    exact Clean.pure fun _ h => (nomatch h)
  · intro hlong
    have hloop : Clean (iterate (exrAttribute data size) (size + 1) {}) fun _ => True := by
      apply Clean.iterate (fun s => s.off ≤ size) (fun s => size - s.off)
      · intro s hs
        exact (clean_exrAttribute hsize hmax hs).mono fun next hnext => by cases next <;> exact hnext
      · show 8 ≤ size
        omega
      · show size - 8 < size + 1
        omega
    apply Clean.bind hloop
    intro s _
    apply Clean.pure
    intro info hinfo
    obtain ⟨s, rfl, hexr⟩ := Option.bind_eq_some_iff.mp hinfo
    unfold exrInfo at hexr
    split at hexr
    · cases hexr
    · split at hexr
      · cases hexr
      · cases hexr
        rfl

/-! ## The two functions

What is left are the directories of TIFF containers. The only offset that is
computed without a check is that of a value in its entry, in 32 bits. -/

/-- A TIFF container without the mark of a CR2 file, whose directory has before
its first malformed entry one with its value in it, at an offset from 4 GiB on. -/
def Buffer.FarValue (buffer : Buffer) : Prop :=
  tiffMagic buffer.data buffer.data.length ∧ cr2Mark buffer.data buffer.data.length = false ∧
    DirectoryCut buffer.data buffer.data.length

/-- A program ends without a read outside the buffer and without an offset that wraps. -/
def RunsSafely {α : Type} (x : Checked α) : Prop := ∃ a, x false = (.ok a, false)

theorem formatOf_tiff (h : formatOf data size = .tiff ∨ formatOf data size = .raw) :
    tiffMagic data size ∧
      formatOf data size = (containerType (cr2Mark data size) (containerTags data size)).1 := by
  unfold formatOf at h ⊢
  cases hjpeg : jpegMagic data size <;> cases hpng : pngMagic data size <;>
    cases hexr : exrMagic data size <;> cases htiff : tiffMagic data size <;>
      simp_all

/-- The parser of a header reads inside the buffer, and finds the format of its first bytes. -/
theorem clean_parseImageHeader (hsize : size ≤ data.length) :
    Clean (parseImageHeader data size) fun r =>
      ∀ info ∈ r, info.format = formatOf data (min size kMaxHeaderSize) := by
  unfold parseImageHeader
  apply Clean.ite
  · intro _
    exact Clean.pure fun _ h => (nomatch h)
  intro hzero
  have hmin : min size kMaxHeaderSize ≤ data.length := (Nat.min_le_left _ _).trans hsize
  have hmax : min size kMaxHeaderSize ≤ kMaxHeaderSize := Nat.min_le_right _ _
  generalize min size kMaxHeaderSize = n at hmin hmax ⊢
  have hfits : n < 2 ^ 64 := by
    unfold kMaxHeaderSize at hmax
    omega
  have hcut : ¬ DirectoryCut data n := not_directoryCut (by unfold kMaxHeaderSize at hmax; omega)
  obtain ⟨cut, hiff, hrun⟩ := detectImageFormat_run hmin hfits
  have hdetect : Clean (detectImageFormat data n) (· = formatOf data n) := by
    refine Clean.of_run (a := formatOf data n) ?_ rfl
    rw [hrun, Bool.false_or, show cut = false by simpa using fun h => hcut (hiff.mp h).2.2]
  apply Clean.bind hdetect
  intro format hformat
  -- the two formats of a container are parsed alike
  have htiff : formatOf data n = .tiff ∨ formatOf data n = .raw →
      Clean (parseTiff data n) fun r => ∀ info ∈ r, info.format = formatOf data n := by
    intro h
    obtain ⟨hmagic, hcontainer⟩ := formatOf_tiff h
    have height : 8 ≤ n := by
      simp only [tiffMagic, Bool.and_eq_true, decide_eq_true_eq] at hmagic
      exact hmagic.1.1
    obtain ⟨cut, hiff, hrun⟩ := parseTiff_run height hmin hfits
    refine Clean.of_run (a := tiffInfo (cr2Mark data n) (tiffTags data n)) ?_ ?_
    · rw [hrun, Bool.false_or, show cut = false by simpa using fun h => hcut (hiff.mp h)]
    · intro info hinfo
      rw [hcontainer, ← tags_tiffTags]
      unfold tiffInfo at hinfo
      split at hinfo
      · split at hinfo
        · cases hinfo
        · cases hinfo
          rfl
      · cases hinfo
  cases format with
  | unknown => exact Clean.pure fun _ h => (nomatch h)
  | jpeg =>
    rw [← hformat]
    exact clean_parseJpeg hmin hmax
  | png =>
    rw [← hformat]
    exact clean_parsePng hmin
  | tiff => exact htiff (.inl hformat.symm)
  | exr =>
    rw [← hformat]
    exact clean_parseExr hmin hmax
  | raw => exact htiff (.inr hformat.symm)

theorem detect_runsSafely_iff (buffer : Buffer) :
    RunsSafely buffer.detectImageFormat ↔ ¬ buffer.FarValue := by
  obtain ⟨cut, hcut, hrun⟩ := detectImageFormat_run (Nat.le_refl buffer.data.length) buffer.fits
  unfold RunsSafely Buffer.detectImageFormat Buffer.FarValue
  rw [hrun, ← hcut]
  cases cut <;> simp

/-- Both functions read inside the buffer and end; an offset wraps exactly for a
value in an entry beyond 4 GiB. -/
theorem reads_safe_iff (buffer : Buffer) :
    (RunsSafely buffer.detectImageFormat ∧ RunsSafely buffer.parseImageHeader) ↔
      ¬ buffer.FarValue := by
  have hparse : RunsSafely buffer.parseImageHeader := by
    obtain ⟨a, ha, _⟩ := (clean_parseImageHeader (Nat.le_refl buffer.data.length)).run
    exact ⟨a, ha⟩
  rw [detect_runsSafely_iff]
  exact and_iff_left hparse

/-! A container of a little more than 4 GiB: the directory, with one entry,
starts at the last offset that fits 32 bits. -/

private def farFront : List UInt8 := [0x49, 0x49, 42, 0, 0xFF, 0xFF, 0xFF, 0xFF]

private def farEntry : List UInt8 := [1, 0, 0, 1, 3, 0, 1, 0, 0, 0, 7, 0, 0, 0]

private def farBytes (gap : Nat) : List UInt8 := (farFront ++ List.replicate gap 0) ++ farEntry

private theorem length_farBytes (gap : Nat) : (farBytes gap).length = 8 + gap + 14 := by
  unfold farBytes
  rw [List.length_append, List.length_append, List.length_replicate]
  rfl

private theorem littleEndian_farBytes (gap : Nat) : littleEndian (farBytes gap) = true := rfl

private theorem farValue_farBytes {gap : Nat} (hgap : gap + 9 = 2 ^ 32)
    (hfits : (farBytes gap).length < 2 ^ 64) : Buffer.FarValue ⟨farBytes gap, hfits⟩ := by
  have hlength := length_farBytes gap
  have hstart : 2 ^ 32 - 1 = (farFront ++ List.replicate gap (0 : UInt8)).length := by
    rw [List.length_append, List.length_replicate]
    show _ = 8 + gap
    omega
  have hdirectory : directoryOff (farBytes gap) (farBytes gap).length = 2 ^ 32 - 1 := by
    unfold directoryOff
    rw [littleEndian_farBytes, farBytes, List.append_assoc,
      u32?_append_left true (show 4 + 4 ≤ farFront.length by decide) (by simp)]
    rfl
  have hcount : u16? (farBytes gap) (farBytes gap).length (2 ^ 32 - 1) true = some 1 := by
    rw [hstart]
    exact (u16?_append_right _ farEntry 0 true).trans (by decide)
  -- the one entry of the directory, number by number
  have hentry : ∃ e, entryAt (farBytes gap) (farBytes gap).length (2 ^ 32 - 1 + 2) true = some e ∧
      e.valueSize ≤ 4 := by
    have htag : u16? (farBytes gap) (farBytes gap).length (2 ^ 32 - 1 + 2) true = some 0x0100 := by
      rw [hstart]
      exact (u16?_append_right _ farEntry 2 true).trans (by decide)
    have htype : u16? (farBytes gap) (farBytes gap).length (2 ^ 32 - 1 + 2 + 2) true = some 3 := by
      rw [hstart]
      exact (u16?_append_right _ farEntry 4 true).trans (by decide)
    have hcount : u32? (farBytes gap) (farBytes gap).length (2 ^ 32 - 1 + 2 + 4) true = some 1 := by
      rw [hstart]
      exact (u32?_append_right _ farEntry 6 true).trans (by decide)
    unfold entryAt
    rw [if_pos (by omega), htag, htype, hcount]
    exact ⟨_, rfl, by decide⟩
  obtain ⟨e, hentry, hinline⟩ := hentry
  -- a container, without the CR2 mark, whose first entry lies beyond 32 bits
  refine ⟨?_, ?_, 0, e, ?_, hinline, ?_⟩
  · show tiffMagic (farBytes gap) (farBytes gap).length
    unfold tiffMagic
    rw [littleEndian_farBytes, hlength, farBytes, List.append_assoc,
      u16?_append_left true (show 2 + 2 ≤ farFront.length by decide)
        (show farFront.length ≤ 8 + gap + 14 by show 8 ≤ _; omega)]
    simp
    decide
  · show cr2Mark (farBytes gap) (farBytes gap).length = false
    have hzero : (farBytes gap).getD 8 0 = 0 := by
      have hfront : farFront.length ≤ 8 := by decide
      unfold farBytes
      rw [List.getD_append _ _ _ _ (by omega), List.getD_append_right _ _ _ _ hfront,
        List.getD_replicate _ (show 8 - farFront.length < gap by show 8 - 8 < gap; omega)]
    unfold cr2Mark
    rw [hzero]
    simp
  · show (entries (farBytes gap) (farBytes gap).length
      (directoryOff (farBytes gap) (farBytes gap).length) (littleEndian (farBytes gap)))[0]? = some e
    rw [hdirectory, littleEndian_farBytes, entries, hcount]
    show (entriesFrom _ _ _ _ 1 0)[0]? = _
    unfold entriesFrom
    rw [hentry]
    rfl
  · show 2 ^ 32 ≤ directoryOff (farBytes gap) (farBytes gap).length + 2 + 0 * 12 + 8
    rw [hdirectory]
    decide

private def farContainer : Buffer where
  data := farBytes (2 ^ 32 - 9)
  fits := by
    rw [length_farBytes]
    norm_num

/-- The offset of the value of its entry wraps. -/
theorem far_value_wraps :
    ¬ (RunsSafely farContainer.detectImageFormat ∧ RunsSafely farContainer.parseImageHeader) := by
  intro ⟨hdetect, _⟩
  exact (detect_runsSafely_iff farContainer).mp hdetect (farValue_farBytes (by norm_num) _)

end SpatialPlatform.Importers
