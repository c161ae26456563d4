import SpatialPlatform.Importers.Images.TiffDirectory

/-!
# The markers of a JPEG file

JPEG files up to their frame header, as a list of markers and segments, and what
`ParseJpeg` reads from them. It takes an arithmetic conditioning for a frame
header, the scan header for a marker without a length, and `TEM` for one with a
length.
-/

namespace SpatialPlatform.Importers

open SpatialPlatform.Core SpatialPlatform.Lib SpatialPlatform.Lib.Checked

/-! ## Files

Files that the standard allows, as markers and segments in front of a frame
header, with fill bytes anywhere. -/

/-- Markers without parameters: `TEM`, the restarts, `SOI` and `EOI`. -/
def StandsAlone (marker : UInt8) : Prop := marker = 0x01 ∨ (0xD0 ≤ marker ∧ marker ≤ 0xD9)

/-- `SOFn`: from `C0` to `CF` all but `DHT`, `JPG` and `DAC`. -/
def BeginsFrame (marker : UInt8) : Prop :=
  0xC0 ≤ marker ∧ marker ≤ 0xCF ∧ marker ≠ 0xC4 ∧ marker ≠ 0xC8 ∧ marker ≠ 0xCC

instance (marker : UInt8) : Decidable (StandsAlone marker) :=
  inferInstanceAs (Decidable (_ ∨ _))

instance (marker : UInt8) : Decidable (BeginsFrame marker) :=
  inferInstanceAs (Decidable (_ ∧ _))

/-- A marker that does not begin a frame. -/
abbrev OtherMarker := { marker : UInt8 // marker ≠ 0x00 ∧ marker ≠ 0xFF ∧ ¬ BeginsFrame marker }

/-- A marker and the fill bytes in front of it. -/
def lead (fill : Nat) (marker : UInt8) : List UInt8 := List.replicate (fill + 1) 0xFF ++ [marker]

def bigEndian (n : UInt16) : List UInt8 := [(n >>> 8).toUInt8, n.toUInt8]

/-- A marker behind fill bytes, with its parameters if it has some. -/
structure Segment where
  fill : Nat
  marker : OtherMarker
  parameters : List UInt8
  fits : parameters.length ≤ 65533
  alone : StandsAlone marker.1 → parameters = []

namespace Segment

/-- What stands behind the marker. -/
def body (s : Segment) : List UInt8 :=
  if StandsAlone s.marker.1 then []
  else bigEndian (UInt16.ofNat (s.parameters.length + 2)) ++ s.parameters

def bytes (s : Segment) : List UInt8 := lead s.fill s.marker.1 ++ s.body

end Segment

structure FrameHeader where
  fill : Nat
  marker : { marker : UInt8 // BeginsFrame marker }
  precision : UInt8
  height : UInt16
  width : UInt16
  components : List (UInt8 × UInt8 × UInt8)
  fits : components.length ≤ 255

namespace FrameHeader

/-- What stands behind the marker. -/
def body (f : FrameHeader) : List UInt8 :=
  bigEndian (UInt16.ofNat (8 + 3 * f.components.length)) ++ f.precision ::
    (bigEndian f.height ++ (bigEndian f.width ++ UInt8.ofNat f.components.length ::
      f.components.flatMap fun c => [c.1, c.2.1, c.2.2]))

def bytes (f : FrameHeader) : List UInt8 := lead f.fill f.marker.1 ++ f.body

end FrameHeader

/-- A file: `SOI`, markers and segments, a frame header and anything behind it.
No buffer has `2 ^ 63` bytes. -/
structure Jpeg where
  segments : List Segment
  frame : FrameHeader
  rest : List UInt8
  held : (0xFF :: 0xD8 :: (segments.flatMap Segment.bytes ++ (frame.bytes ++ rest))).length < 2 ^ 63

namespace Jpeg

def bytes (j : Jpeg) : List UInt8 :=
  0xFF :: 0xD8 :: (j.segments.flatMap Segment.bytes ++ (j.frame.bytes ++ j.rest))

def markers (j : Jpeg) : List OtherMarker := j.segments.map Segment.marker

/-- `ParseJpeg` returns the width and the height of the frame header. -/
def ReturnsGeometry (j : Jpeg) : Prop :=
  ∃ info, parseJpeg j.bytes j.bytes.length false = (.ok (some info), false) ∧
    info.width = j.frame.width.toNat ∧ info.height = j.frame.height.toNat

end Jpeg

/-- The markers that the scanner takes for something else: `TEM`, `DAC` and `SOS`. -/
def Misread (marker : UInt8) : Prop := marker = 0x01 ∨ marker = 0xCC ∨ marker = 0xDA

instance (marker : UInt8) : Decidable (Misread marker) := inferInstanceAs (Decidable (_ ∨ _ ∨ _))

/-! ## Codes -/

/-- The codes that the scanner takes for what they are. -/
theorem isStandalone_iff {marker : UInt8} (h : ¬ Misread marker) :
    isStandalone marker = true ↔ StandsAlone marker := by
  simp only [Misread, isStandalone, StandsAlone, Bool.or_eq_true, Bool.and_eq_true,
    decide_eq_true_eq, UInt8.le_iff_toNat_le, ← UInt8.toNat_inj, UInt8.reduceToNat] at h ⊢
  omega

theorem isSof_iff {marker : UInt8} (h : ¬ Misread marker) :
    isSof marker = true ↔ BeginsFrame marker := by
  simp only [Misread, isSof, BeginsFrame, Bool.and_eq_true, decide_eq_true_eq, ne_eq,
    UInt8.le_iff_toNat_le, ← UInt8.toNat_inj, UInt8.reduceToNat] at h ⊢
  omega

/-! ## The scanner in front of a marker

The scanner looks for `0xFF`, passes fill bytes and takes what follows for a
marker. What it does then depends on the marker alone; a run of fill bytes is
passed by induction over its length. -/

section Scanner

variable {front tail : List UInt8}

theorem readAt_append (front : List UInt8) {tail : List UInt8} {k : Nat} (hk : k < tail.length) :
    readAt (front ++ tail) (front.length + k) = pure (tail.getD k 0) := by
  rw [readAt_eq (by rw [List.length_append]; omega),
    List.getD_append_right _ _ _ _ (Nat.le_add_right _ _), Nat.add_sub_cancel_left]

theorem readAt_length (front : List UInt8) (b : UInt8) (tail : List UInt8) :
    readAt (front ++ b :: tail) front.length = pure b := by
  have hread := @readAt_append front (b :: tail) 0 (Nat.zero_lt_succ _)
  exact hread

/-- A run is passed up to the byte behind it. -/
theorem scan_run (p : UInt8 → Bool) (run : List UInt8) (hrun : ∀ b ∈ run, p b = true) {b : UInt8}
    (hb : p b = false) {data : List UInt8} (hdata : data = front ++ (run ++ b :: tail))
    (hfits : data.length < 2 ^ 63) :
    scan p data data.length front.length = pure (front.length + run.length) := by
  have hsteps : ∀ fuel, run.length < fuel → iterate (fun off => do
      if off < data.length then
        let byte ← readAt data off
        if p byte then
          let off ← plus off 1
          return .inl off
        else return .inr off
      else return .inr off) fuel front.length = pure (front.length + run.length) := by
    -- each turn moves one byte from the run to the front
    induction run generalizing front with
    | nil =>
        intro fuel hfuel
        obtain ⟨fuel, rfl⟩ := Nat.exists_eq_succ_of_ne_zero (Nat.ne_of_gt hfuel)
        have hlt : front.length < data.length := by
          rw [hdata, List.length_append, List.nil_append, List.length_cons]
          omega
        refine iterate_inr ?_ fuel
        rw [if_pos hlt, hdata, List.nil_append, readAt_length, Persist.pure_bind, hb]
        rfl
    | cons c run ih =>
        intro fuel hfuel
        obtain ⟨fuel, rfl⟩ := Nat.exists_eq_succ_of_ne_zero (Nat.ne_of_gt (Nat.lt_of_le_of_lt
          (Nat.zero_le _) hfuel))
        obtain ⟨hc, hrun⟩ := List.forall_mem_cons.mp hrun
        have hlt : front.length < data.length := by
          rw [hdata, List.length_append, List.cons_append, List.length_cons]
          omega
        have hnext := @ih (front ++ [c]) hrun (by rw [hdata, List.append_assoc]; rfl) fuel
          (Nat.lt_of_succ_lt_succ hfuel)
        rw [List.length_append, List.length_singleton] at hnext
        refine (iterate_inl ?_ fuel).trans (hnext.trans ?_)
        · rw [if_pos hlt]
          conv => lhs; rw [hdata]
          rw [List.cons_append, readAt_length, Persist.pure_bind, hc, if_pos rfl,
            plus_of_lt (by omega), Persist.pure_bind]
        · rw [List.length_cons]
          congr 1
          omega
  refine hsteps _ ?_
  rw [hdata, List.length_append, List.length_append, List.length_cons]
  omega

/-- Where no marker is, the scanner gives up. -/
theorem jpegSegment_lost {b : UInt8} (hb : b ≠ 0xFF) {data : List UInt8}
    (hdata : data = front ++ b :: tail) (hfits : data.length < 2 ^ 63) :
    jpegSegment data data.length front.length = pure (.inr none) := by
  have hlt : front.length < data.length := by
    rw [hdata, List.length_append, List.length_cons]
    omega
  unfold jpegSegment
  rw [plus_of_lt (by omega), Persist.pure_bind]
  split
  · rfl
  · have hread : readAt data front.length = pure b := by
      rw [hdata]
      exact readAt_length _ _ _
    rw [hread, Persist.pure_bind, if_pos hb]

/-- What the scanner does behind a marker. -/
def afterMarker (data : List UInt8) (size : Nat) (marker : UInt8) (off : Nat) :
    Checked (Nat ⊕ Option ImageHeaderInfo) := do
  if isStandalone marker then return .inl off
  else
    match ← readU16 data size off false with
    | none => return .inr none
    | some len =>
        if len < 2 then return .inr none
        else if isSof marker then
          let info ← readSof data size off
          return .inr info
        else
          let off ← plus off len.toNat
          return .inl off

theorem jpegSegment_marker {fill : Nat} {marker : UInt8} (hzero : marker ≠ 0x00)
    (hfill : marker ≠ 0xFF) (htail : 2 ≤ tail.length) {data : List UInt8}
    (hdata : data = front ++ lead fill marker ++ tail) (hfits : data.length < 2 ^ 63) :
    jpegSegment data data.length front.length =
      afterMarker data data.length marker (front ++ lead fill marker).length := by
  have hsplit : data = front ++ (List.replicate (fill + 1) 0xFF ++ marker :: tail) := by
    rw [hdata, lead, List.append_assoc, List.append_assoc]
    rfl
  have hoff : (front ++ lead fill marker).length = front.length + (fill + 2) := by
    rw [lead, List.length_append, List.length_append, List.length_replicate, List.length_singleton]
  have hlen : data.length = front.length + (fill + 2) + tail.length := by
    rw [hdata, List.length_append, hoff]
  have hfirst : readAt data front.length = pure 0xFF := by
    rw [hsplit, List.replicate_succ, List.cons_append]
    exact readAt_length _ _ _
  have hscan : skipFill data data.length front.length = pure (front.length + (fill + 1)) := by
    have hrun := scan_run (· = 0xFF) (List.replicate (fill + 1) 0xFF)
      (fun b hb => decide_eq_true (List.mem_replicate.mp hb).2) (decide_eq_false hfill) hsplit hfits
    rwa [List.length_replicate] at hrun
  have hmarker : readAt data (front.length + (fill + 1)) = pure marker := by
    have hread := readAt_length (front ++ List.replicate (fill + 1) 0xFF) marker tail
    rw [List.append_assoc, ← hsplit, List.length_append, List.length_replicate] at hread
    exact hread
  unfold jpegSegment
  rw [plus_of_lt (by omega), Persist.pure_bind, if_neg (by omega), hfirst, Persist.pure_bind,
    if_neg (not_not_intro rfl), hscan, Persist.pure_bind, if_neg (by omega), hmarker,
    Persist.pure_bind, if_neg hzero, plus_of_lt (by omega), Persist.pure_bind, hoff]
  rfl

theorem afterMarker_alone {data : List UInt8} {marker : UInt8} (h : isStandalone marker = true)
    (off : Nat) : afterMarker data data.length marker off = pure (.inl off) := by
  rw [afterMarker, if_pos h]

theorem readU16_length (front : List UInt8) (hi lo : UInt8) (tail : List UInt8)
    (hfits : (front ++ hi :: lo :: tail).length < 2 ^ 63) :
    readU16 (front ++ hi :: lo :: tail) (front ++ hi :: lo :: tail).length front.length false =
      pure (some (lo.toUInt16 ||| hi.toUInt16 <<< 8)) := by
  have hnumber := u16?_append_right front (hi :: lo :: tail) 0 false
  rw [Nat.add_zero] at hnumber
  rw [readU16_eq (Nat.le_refl _) (by omega), hnumber, u16?,
    if_pos (by rw [List.length_cons, List.length_cons]; omega)]
  rfl

variable {marker : UInt8} (halone : isStandalone marker = false) {hi lo : UInt8}
  (hlen : 2 ≤ (lo.toUInt16 ||| hi.toUInt16 <<< 8).toNat)

include halone hlen

theorem afterMarker_segment (hsof : isSof marker = false)
    (hfits : (front ++ hi :: lo :: tail).length < 2 ^ 63) :
    afterMarker (front ++ hi :: lo :: tail) (front ++ hi :: lo :: tail).length marker front.length =
      pure (.inl (front.length + (lo.toUInt16 ||| hi.toUInt16 <<< 8).toNat)) := by
  have hlt := (lo.toUInt16 ||| hi.toUInt16 <<< 8).toNat_lt
  have hshort : ¬ (lo.toUInt16 ||| hi.toUInt16 <<< 8) < 2 := by
    rw [UInt16.lt_iff_toNat_lt]
    exact Nat.not_lt.mpr hlen
  have hle : front.length ≤ (front ++ hi :: lo :: tail).length := by
    rw [List.length_append]
    exact Nat.le_add_right _ _
  rw [afterMarker, halone, if_neg Bool.false_ne_true, readU16_length front hi lo tail hfits,
    Persist.pure_bind]
  dsimp only
  rw [if_neg hshort, hsof, if_neg Bool.false_ne_true, plus_of_lt (by omega)]
  rfl

theorem afterMarker_frame (hsof : isSof marker = true) (precision h₁ h₀ w₁ w₀ count : UInt8)
    (hfits : (front ++ hi :: lo :: precision :: h₁ :: h₀ :: w₁ :: w₀ :: count :: tail).length < 2 ^ 63) :
    ∃ info, afterMarker (front ++ hi :: lo :: precision :: h₁ :: h₀ :: w₁ :: w₀ :: count :: tail)
        (front ++ hi :: lo :: precision :: h₁ :: h₀ :: w₁ :: w₀ :: count :: tail).length marker
        front.length = pure (.inr (some info)) ∧
      info.width = (w₁.toUInt16 <<< 8 ||| w₀.toUInt16).toNat ∧
      info.height = (h₁.toUInt16 <<< 8 ||| h₀.toUInt16).toNat := by
  have hshort : ¬ (lo.toUInt16 ||| hi.toUInt16 <<< 8) < 2 := by
    rw [UInt16.lt_iff_toNat_lt]
    exact Nat.not_lt.mpr hlen
  rw [afterMarker, halone, if_neg Bool.false_ne_true, readU16_length front hi lo _ hfits,
    Persist.pure_bind]
  dsimp only
  rw [if_neg hshort, hsof, if_pos rfl]
  have hlength : (front ++ hi :: lo :: precision :: h₁ :: h₀ :: w₁ :: w₀ :: count :: tail).length =
      front.length + 8 + tail.length := by
    simp only [List.length_append, List.length_cons]
    omega
  have hread : ∀ k < 8, readAt (front ++ hi :: lo :: precision :: h₁ :: h₀ :: w₁ :: w₀ :: count :: tail)
      (front.length + k) = pure ((hi :: lo :: precision :: h₁ :: h₀ :: w₁ :: w₀ :: count :: tail).getD k 0) := by
    intro k hk
    exact readAt_append front (by simp only [List.length_cons]; omega)
  rw [readSof, plus_of_lt (by omega), Persist.pure_bind, if_neg (by omega)]
  rw [plus_of_lt (by omega), Persist.pure_bind, hread 2 (by omega), Persist.pure_bind]
  rw [plus_of_lt (by omega), Persist.pure_bind, hread 3 (by omega), Persist.pure_bind]
  rw [plus_of_lt (by omega), Persist.pure_bind, hread 4 (by omega), Persist.pure_bind]
  rw [plus_of_lt (by omega), Persist.pure_bind, hread 5 (by omega), Persist.pure_bind]
  rw [plus_of_lt (by omega), Persist.pure_bind, hread 6 (by omega), Persist.pure_bind]
  rw [plus_of_lt (by omega), Persist.pure_bind, hread 7 (by omega), Persist.pure_bind]
  exact ⟨_, rfl, rfl, rfl⟩

end Scanner

/-! ## Markers that are read for what they are

A marker with a length is skipped with its segment, one that is known to have
none is passed, and a frame header ends the scan. -/

theorem Segment.length_body_or (s : Segment) : (StandsAlone s.marker.1 ∧ s.body = []) ∨
    (¬ StandsAlone s.marker.1 ∧
      s.body = bigEndian (UInt16.ofNat (s.parameters.length + 2)) ++ s.parameters ∧
      (UInt16.ofNat (s.parameters.length + 2)).toNat = s.parameters.length + 2) := by
  by_cases h : StandsAlone s.marker.1
  · exact .inl ⟨h, if_pos h⟩
  · have hfits := s.fits
    refine .inr ⟨h, if_neg h, ?_⟩
    rw [UInt16.toNat_ofNat']
    omega

/-- A segment is skipped as a whole. -/
theorem jpegSegment_segment (s : Segment) (hs : ¬ Misread s.marker.1) {front rest data : List UInt8}
    (hdata : data = front ++ (s.bytes ++ rest)) (hrest : 2 ≤ rest.length)
    (hfits : data.length < 2 ^ 63) :
    jpegSegment data data.length front.length = pure (.inl (front ++ s.bytes).length) := by
  obtain ⟨hzero, hfill, hframe⟩ := s.marker.2
  have hsplit : data = front ++ lead s.fill s.marker.1 ++ (s.body ++ rest) := by
    rw [hdata, Segment.bytes]
    simp only [List.append_assoc]
  have htail : 2 ≤ (s.body ++ rest).length := by
    rw [List.length_append]
    omega
  rw [jpegSegment_marker hzero hfill htail hsplit hfits]
  -- a marker that stands alone, or one with its length
  rcases s.length_body_or with ⟨halone, hbody⟩ | ⟨halone, hbody, hlen⟩
  · rw [afterMarker_alone ((isStandalone_iff hs).mpr halone), Segment.bytes, hbody, List.append_nil]
  · have hnot : isStandalone s.marker.1 = false := by
      rwa [← Bool.not_eq_true, isStandalone_iff hs]
    have hsof : isSof s.marker.1 = false := by
      rwa [← Bool.not_eq_true, isSof_iff hs]
    have hnumber := join_u16 (UInt16.ofNat (s.parameters.length + 2))
    generalize UInt16.ofNat (s.parameters.length + 2) = length at hbody hlen hnumber
    have hbytes : data = front ++ lead s.fill s.marker.1 ++
        (length >>> 8).toUInt8 :: length.toUInt8 :: (s.parameters ++ rest) := by
      rw [hsplit, hbody]
      rfl
    rw [hbytes] at hfits ⊢
    have hskip := afterMarker_segment hnot (by rw [hnumber, hlen]; omega) hsof hfits
    rw [hnumber, hlen] at hskip
    refine hskip.trans ?_
    rw [Segment.bytes, hbody]
    congr 2
    simp only [List.length_append, bigEndian, List.length_cons, List.length_nil]
    omega

/-- A frame header is read. -/
theorem jpegSegment_frame (f : FrameHeader) {front rest data : List UInt8}
    (hdata : data = front ++ (f.bytes ++ rest)) (hfits : data.length < 2 ^ 63) :
    ∃ info, jpegSegment data data.length front.length = pure (.inr (some info)) ∧
      info.width = f.width.toNat ∧ info.height = f.height.toNat := by
  have hframe := f.marker.2
  obtain ⟨hzero, hfill, hmisread, hnot⟩ : f.marker.1 ≠ 0x00 ∧ f.marker.1 ≠ 0xFF ∧
      ¬ Misread f.marker.1 ∧ ¬ StandsAlone f.marker.1 := by
    simp only [BeginsFrame, Misread, StandsAlone, ne_eq, UInt8.le_iff_toNat_le, ← UInt8.toNat_inj,
      UInt8.reduceToNat] at hframe ⊢
    omega
  have halone : isStandalone f.marker.1 = false := by
    rwa [← Bool.not_eq_true, isStandalone_iff hmisread]
  have hsof : isSof f.marker.1 = true := (isSof_iff hmisread).mpr hframe
  have hcount := f.fits
  -- eight bytes and three for each component, which fit 16 bits
  have hlen : (UInt16.ofNat (8 + 3 * f.components.length)).toNat = 8 + 3 * f.components.length := by
    rw [UInt16.toNat_ofNat']
    omega
  have hnumber := join_u16 (UInt16.ofNat (8 + 3 * f.components.length))
  have hsplit : data = front ++ lead f.fill f.marker.1 ++ (f.body ++ rest) := by
    rw [hdata, FrameHeader.bytes]
    simp only [List.append_assoc]
  have htail : 2 ≤ (f.body ++ rest).length := by
    rw [List.length_append, FrameHeader.body, bigEndian]
    simp only [List.length_append, List.length_cons]
    omega
  rw [jpegSegment_marker hzero hfill htail hsplit hfits]
  rw [hsplit] at hfits ⊢
  obtain ⟨info, hinfo, hwidth, hheight⟩ := afterMarker_frame halone
    (by rw [hnumber, hlen]; omega) hsof f.precision (f.height >>> 8).toUInt8 f.height.toUInt8
    (f.width >>> 8).toUInt8 f.width.toUInt8 (UInt8.ofNat f.components.length) hfits
  rw [UInt16.or_comm, join_u16] at hwidth hheight
  exact ⟨info, hinfo, hwidth, hheight⟩

/-! ## Whole files

Induction over the segments in front of the frame header. -/

/-- Segments are skipped one after the other. -/
theorem iterate_segments {segments : List Segment} (hright : ∀ s ∈ segments, ¬ Misread s.marker.1)
    {front rest data : List UInt8} (hdata : data = front ++ (segments.flatMap Segment.bytes ++ rest))
    (hrest : 2 ≤ rest.length) (hfits : data.length < 2 ^ 63) (fuel : Nat) :
    iterate (jpegSegment data data.length) (segments.length + fuel) front.length =
      iterate (jpegSegment data data.length) fuel
        (front ++ segments.flatMap Segment.bytes).length := by
  induction segments generalizing front with
  | nil => rw [List.length_nil, Nat.zero_add, List.flatMap_nil, List.append_nil]
  | cons s segments ih =>
      obtain ⟨hs, hright⟩ := List.forall_mem_cons.mp hright
      have hdata' : data = front ++ (s.bytes ++ (segments.flatMap Segment.bytes ++ rest)) := by
        rw [hdata, List.flatMap_cons, List.append_assoc]
      have hskip := jpegSegment_segment s hs hdata' (by rw [List.length_append]; omega) hfits
      have hnext := @ih hright (front ++ s.bytes) (by rw [hdata', List.append_assoc])
      rw [List.length_cons, Nat.add_right_comm, iterate_inl hskip, hnext, List.flatMap_cons,
        List.append_assoc]

theorem length_segments (segments : List Segment) :
    segments.length ≤ (segments.flatMap Segment.bytes).length := by
  induction segments with
  | nil => exact Nat.le_refl 0
  | cons s segments ih =>
      rw [List.flatMap_cons, List.length_append, Segment.bytes, lead]
      simp only [List.length_append, List.length_cons]
      omega

/-- `ParseJpeg` once it has skipped some segments. -/
theorem parseJpeg_segments {segments : List Segment} (hright : ∀ s ∈ segments, ¬ Misread s.marker.1)
    {rest data : List UInt8}
    (hdata : data = [0xFF, 0xD8] ++ (segments.flatMap Segment.bytes ++ rest))
    (hrest : 2 ≤ rest.length) (hfits : data.length < 2 ^ 63) :
    ∃ fuel, parseJpeg data data.length = iterate (jpegSegment data data.length) (fuel + 2)
      ([0xFF, 0xD8] ++ segments.flatMap Segment.bytes).length := by
  have hcount := length_segments segments
  have hlen : data.length + 1 =
      segments.length + (data.length - segments.length - 1 + 2) := by
    have hsum : data.length = 2 + ((segments.flatMap Segment.bytes).length + rest.length) := by
      rw [hdata, List.length_append, List.length_append]
      rfl
    omega
  refine ⟨data.length - segments.length - 1, ?_⟩
  rw [parseJpeg, hlen]
  exact iterate_segments hright hdata hrest hfits _

/-- Without a marker that is misread, the geometry is the one in the frame header. -/
theorem Jpeg.returnsGeometry {j : Jpeg} (h : ∀ s ∈ j.segments, ¬ Misread s.marker.1) :
    j.ReturnsGeometry := by
  have hrest : 2 ≤ (j.frame.bytes ++ j.rest).length := by
    rw [List.length_append, FrameHeader.bytes, lead]
    simp only [List.length_append, List.length_cons, List.length_replicate]
    omega
  have hdata : j.bytes =
      [0xFF, 0xD8] ++ (j.segments.flatMap Segment.bytes ++ (j.frame.bytes ++ j.rest)) := rfl
  have hheld : j.bytes.length < 2 ^ 63 := j.held
  obtain ⟨fuel, hparse⟩ := parseJpeg_segments h hdata hrest hheld
  rw [← List.append_assoc] at hdata
  obtain ⟨info, hinfo, hgeometry⟩ := jpegSegment_frame j.frame hdata hheld
  rw [iterate_inr hinfo] at hparse
  exact ⟨info, congrFun hparse false, hgeometry⟩

/-! ## Markers that are misread

Three markers are taken for something else: one for a frame header, one for a
marker without a length, and one for a marker with a length. Each loses the
scanner in its own way. -/

section Misreading

variable {front : List Segment} (hright : ∀ s ∈ front, ¬ Misread s.marker.1)

include hright

/-- Behind `DAC` the scanner reads a geometry. -/
theorem parseJpeg_dac {fill : Nat} {hi lo precision h₁ h₀ w₁ w₀ count : UInt8} {rest data : List UInt8}
    (hdata : data = [0xFF, 0xD8] ++ (front.flatMap Segment.bytes ++ (lead fill 0xCC ++
      hi :: lo :: precision :: h₁ :: h₀ :: w₁ :: w₀ :: count :: rest)))
    (hlen : 2 ≤ (lo.toUInt16 ||| hi.toUInt16 <<< 8).toNat) (hfits : data.length < 2 ^ 63) :
    ∃ info, parseJpeg data data.length false = (.ok (some info), false) ∧
      info.width = (w₁.toUInt16 <<< 8 ||| w₀.toUInt16).toNat ∧
      info.height = (h₁.toUInt16 <<< 8 ||| h₀.toUInt16).toNat := by
  obtain ⟨fuel, hparse⟩ := parseJpeg_segments hright hdata
    (by simp only [List.length_append, List.length_cons]; omega) hfits
  have hsplit : data = [0xFF, 0xD8] ++ front.flatMap Segment.bytes ++ lead fill 0xCC ++
      hi :: lo :: precision :: h₁ :: h₀ :: w₁ :: w₀ :: count :: rest := by
    rw [hdata]
    simp only [List.append_assoc]
  have hstep := jpegSegment_marker (by decide) (by decide)
    (by simp only [List.length_cons]; omega) hsplit hfits
  rw [hsplit] at hfits hparse hstep ⊢
  obtain ⟨info, hinfo, hgeometry⟩ := afterMarker_frame (show isStandalone 0xCC = false by decide)
    hlen (by decide) precision h₁ h₀ w₁ w₀ count hfits
  rw [iterate_inr (hstep.trans hinfo)] at hparse
  exact ⟨info, congrFun hparse false, hgeometry⟩

/-- `SOS` is passed without its length, which is no marker. -/
theorem parseJpeg_sos {fill : Nat} {hi : UInt8} {rest data : List UInt8}
    (hdata : data = [0xFF, 0xD8] ++ (front.flatMap Segment.bytes ++ (lead fill 0xDA ++ hi :: rest)))
    (hhi : hi ≠ 0xFF) (hrest : rest ≠ []) (hfits : data.length < 2 ^ 63) :
    parseJpeg data data.length false = (.ok none, false) := by
  have hpos := List.length_pos_of_ne_nil hrest
  obtain ⟨fuel, hparse⟩ := parseJpeg_segments hright hdata
    (by simp only [List.length_append, List.length_cons]; omega) hfits
  have hsplit : data = [0xFF, 0xD8] ++ front.flatMap Segment.bytes ++ lead fill 0xDA ++ hi :: rest := by
    rw [hdata]
    simp only [List.append_assoc]
  have hstep := jpegSegment_marker (by decide) (by decide)
    (by simp only [List.length_cons]; omega) hsplit hfits
  rw [iterate_inl (hstep.trans (afterMarker_alone (by decide) _)),
    iterate_inr (jpegSegment_lost hhi hsplit hfits)] at hparse
  exact congrFun hparse false

end Misreading

/-- Behind `TEM` two fill bytes are taken for a length, the greatest there is. -/
theorem afterMarker_tem {before rest data : List UInt8}
    (hdata : data = before ++ (List.replicate 65535 0xFF ++ rest)) (hfits : data.length < 2 ^ 63) :
    afterMarker data data.length 0x01 before.length =
      pure (.inl (before ++ List.replicate 65535 0xFF).length) := by
  have hlength : data = before ++ 0xFF :: 0xFF :: (List.replicate 65533 0xFF ++ rest) := by
    rw [hdata, List.replicate_succ, List.replicate_succ]
    rfl
  rw [hlength] at hfits ⊢
  rw [afterMarker_segment (by decide) (by decide) (by decide) hfits, List.length_append,
    List.length_replicate]
  rfl

/-- Behind 65535 fill bytes that follow `TEM` the scanner is lost. -/
theorem parseJpeg_tem {front : List Segment} (hright : ∀ s ∈ front, ¬ Misread s.marker.1) {fill : Nat}
    {b : UInt8} {rest data : List UInt8}
    (hdata : data = [0xFF, 0xD8] ++ (front.flatMap Segment.bytes ++ (lead fill 0x01 ++
      (List.replicate 65535 0xFF ++ b :: rest)))) (hb : b ≠ 0xFF) (hfits : data.length < 2 ^ 63) :
    parseJpeg data data.length false = (.ok none, false) := by
  obtain ⟨fuel, hparse⟩ := parseJpeg_segments hright hdata
    (by simp only [List.length_append, List.length_cons, List.length_replicate]; omega) hfits
  have hsplit : data = [0xFF, 0xD8] ++ front.flatMap Segment.bytes ++ lead fill 0x01 ++
      (List.replicate 65535 0xFF ++ b :: rest) := by
    rw [hdata]
    simp only [List.append_assoc]
  have hstep := jpegSegment_marker (by decide) (by decide)
    (by simp only [List.length_append, List.length_cons, List.length_replicate]; omega) hsplit hfits
  rw [iterate_inl (hstep.trans (afterMarker_tem hsplit hfits))] at hparse
  rw [← List.append_assoc] at hsplit
  rw [iterate_inr (jpegSegment_lost hb hsplit hfits)] at hparse
  exact congrFun hparse false

/-! ## The files that are read

For each of the three markers there is a file on which it does harm, built from
bare markers and fill bytes in front of and behind it. -/

/-- A marker without parameters or with none but its length. -/
def bare (fill : Nat) (marker : OtherMarker) : Segment := ⟨fill, marker, [], by simp, fun _ => rfl⟩

/-- A frame header of no height and no width. -/
def emptyFrame (fill : Nat) : FrameHeader := ⟨fill, ⟨0xC0, by decide⟩, 8, 0, 0, [], by simp⟩

theorem Segment.length_body_le (s : Segment) : s.body.length ≤ s.parameters.length + 2 := by
  rw [Segment.body]
  split
  · exact Nat.zero_le _
  · rw [List.length_append, Nat.add_comm]
    exact Nat.le_refl _

theorem length_bare (fill : Nat) (marker : OtherMarker) :
    (bare fill marker).bytes.length ≤ fill + 4 := by
  have hbody := (bare fill marker).length_body_le
  rw [Segment.bytes, lead, List.length_append, List.length_append, List.length_replicate,
    List.length_singleton]
  exact Nat.add_le_add_left hbody (fill + 2)

theorem length_bares (fill : Nat) (markers : List OtherMarker) :
    ((markers.map (bare fill)).flatMap Segment.bytes).length ≤ (fill + 4) * markers.length := by
  induction markers with
  | nil => exact Nat.le_refl 0
  | cons m markers ih =>
      rw [List.map_cons, List.flatMap_cons, List.length_append, List.length_cons, Nat.mul_succ,
        Nat.add_comm]
      exact Nat.add_le_add ih (length_bare fill m)

/-- Many fill bytes, whether markers follow or the frame header. -/
theorem fill_before (fill : Nat) (markers : List OtherMarker) : ∃ b more, b ≠ 0xFF ∧
    (markers.map (bare fill)).flatMap Segment.bytes ++ (emptyFrame fill).bytes =
      List.replicate (fill + 1) 0xFF ++ b :: more := by
  cases markers with
  | nil => exact ⟨0xC0, (emptyFrame fill).body, by decide, by simp [FrameHeader.bytes, lead, emptyFrame]⟩
  | cons m markers =>
      exact ⟨m.1, _, m.2.2.1, by
        simp only [List.map_cons, List.flatMap_cons, Segment.bytes, lead, List.append_assoc,
          List.cons_append]
        rfl⟩

/-- A marker that is misread, behind others that are not. -/
theorem exists_misread {markers : List OtherMarker} (h : ¬ ∀ m ∈ markers, ¬ Misread m.1) :
    ∃ front m back, markers = front ++ m :: back ∧ (∀ m ∈ front, ¬ Misread m.1) ∧ Misread m.1 := by
  induction markers with
  | nil => exact absurd (fun _ hm => absurd hm List.not_mem_nil) h
  | cons m markers ih =>
      by_cases hm : Misread m.1
      · exact ⟨[], m, markers, rfl, fun _ hm => absurd hm List.not_mem_nil, hm⟩
      · obtain ⟨front, m', back, rfl, hfront, hm'⟩ :=
          ih fun hall => h (List.forall_mem_cons.mpr ⟨hm, hall⟩)
        exact ⟨m :: front, m', back, rfl, List.forall_mem_cons.mpr ⟨hm, hfront⟩, hm'⟩

/-- A segment between bare markers, with fill bytes in front of what follows it. -/
def trapSegments (front : List OtherMarker) (s : Segment) (back : List OtherMarker) : List Segment :=
  front.map (bare 0) ++ s :: back.map (bare 65534)

theorem markers_trapSegments (front back : List OtherMarker) (s : Segment) :
    (trapSegments front s back).map Segment.marker = front ++ s.marker :: back := by
  have hbare : ∀ fill, Segment.marker ∘ bare fill = id := fun _ => rfl
  rw [trapSegments, List.map_append, List.map_cons, List.map_map, List.map_map, hbare, hbare,
    List.map_id, List.map_id]

/-- The file with these segments and an empty frame. -/
def trap (front : List OtherMarker) (s : Segment) (back : List OtherMarker)
    (hs : s.fill = 0 ∧ s.parameters.length ≤ 6) (hroom : (front ++ s.marker :: back).length < 2 ^ 40) : Jpeg where
  segments := trapSegments front s back
  frame := emptyFrame 65534
  rest := []
  held := by
    have hbytes : s.bytes.length ≤ s.fill + 10 := by
      have hbody := s.length_body_le
      rw [Segment.bytes, lead, List.length_append, List.length_append, List.length_replicate,
        List.length_singleton]
      omega
    have hframe : (emptyFrame 65534).bytes.length = 65544 := by
      rw [FrameHeader.bytes, lead, List.length_append, List.length_append, List.length_replicate]
      rfl
    have hlengthFront := length_bares 0 front
    have hlengthBack := length_bares 65534 back
    rw [List.length_append, List.length_cons] at hroom
    rw [List.length_cons, List.length_cons, List.length_append, List.length_append, hframe,
      trapSegments, List.flatMap_append, List.length_append, List.flatMap_cons, List.length_append,
      List.length_nil]
    omega

theorem trap_bytes (front back : List OtherMarker) (s : Segment) (hs hroom) :
    ∃ b more, b ≠ 0xFF ∧ (trap front s back hs hroom).bytes =
      [0xFF, 0xD8] ++ ((front.map (bare 0)).flatMap Segment.bytes ++
        (s.bytes ++ (List.replicate 65535 0xFF ++ b :: more))) := by
  obtain ⟨b, more, hb, hbehind⟩ := fill_before 65534 back
  refine ⟨b, more, hb, ?_⟩
  show 0xFF :: 0xD8 :: ((trapSegments front s back).flatMap Segment.bytes ++
    ((emptyFrame 65534).bytes ++ [])) = _
  rw [← hbehind, List.append_nil, trapSegments, List.flatMap_append, List.flatMap_cons]
  simp only [List.append_assoc]
  rfl

/-- With a marker that is misread there is a file whose geometry is not the one in its frame header. -/
theorem exists_wrong_geometry {front back : List OtherMarker} {m : OtherMarker}
    (hfront : ∀ m ∈ front, ¬ Misread m.1) (hm : Misread m.1)
    (hroom : (front ++ m :: back).length < 2 ^ 40) :
    ∃ j : Jpeg, j.markers = front ++ m :: back ∧ ¬ j.ReturnsGeometry := by
  have hright : ∀ s ∈ front.map (bare 0), ¬ Misread s.marker.1 := by
    intro s hs
    obtain ⟨m, hm, rfl⟩ := List.mem_map.mp hs
    exact hfront m hm
  obtain ⟨marker, hmarker⟩ := m
  rcases hm with rfl | rfl | rfl
  · -- TEM: the parser takes it for a segment with a length
    let s := bare 0 ⟨0x01, hmarker⟩
    have hs : s.fill = 0 ∧ s.parameters.length ≤ 6 := ⟨rfl, Nat.zero_le _⟩
    refine ⟨trap front s back hs hroom, markers_trapSegments front back s, ?_⟩
    obtain ⟨b, more, hb, hbytes⟩ := trap_bytes front back s hs hroom
    rintro ⟨info, hinfo, -⟩
    have hbody : s.bytes = lead 0 0x01 := rfl
    rw [hbody] at hbytes
    cases hinfo.symm.trans (parseJpeg_tem hright hbytes hb (trap front s back hs hroom).held)
  · -- DAC: the parser takes it for a frame header
    let s : Segment := ⟨0, ⟨0xCC, hmarker⟩, [0, 0, 1, 0, 1, 0], by decide,
      fun h => absurd (show StandsAlone 0xCC from h) (by decide)⟩
    have hs : s.fill = 0 ∧ s.parameters.length ≤ 6 := ⟨rfl, Nat.le_refl _⟩
    refine ⟨trap front s back hs hroom, markers_trapSegments front back s, ?_⟩
    obtain ⟨b, more, hb, hbytes⟩ := trap_bytes front back s hs hroom
    rintro ⟨info, hinfo, hwidth, -⟩
    have hbody : s.body = [0, 8, 0, 0, 1, 0, 1, 0] :=
      (if_neg (show ¬ StandsAlone 0xCC by decide)).trans
        (show bigEndian 8 ++ [0, 0, 1, 0, 1, 0] = _ by decide)
    rw [Segment.bytes, hbody, List.append_assoc] at hbytes
    obtain ⟨info', hinfo', hwidth', -⟩ := parseJpeg_dac hright hbytes (by decide)
      (trap front s back hs hroom).held
    cases hinfo.symm.trans hinfo'
    rw [hwidth] at hwidth'
    exact absurd hwidth' (show ¬ ((0 : UInt16).toNat : Int) =
      ((0 : UInt8).toUInt16 <<< 8 ||| (1 : UInt8).toUInt16).toNat by decide)
  · -- SOS: the parser passes it without its length, and finds no marker behind it
    let s := bare 0 ⟨0xDA, hmarker⟩
    have hs : s.fill = 0 ∧ s.parameters.length ≤ 6 := ⟨rfl, Nat.zero_le _⟩
    refine ⟨trap front s back hs hroom, markers_trapSegments front back s, ?_⟩
    obtain ⟨b, more, hb, hbytes⟩ := trap_bytes front back s hs hroom
    rintro ⟨info, hinfo, -⟩
    have hbody : s.body = [0, 2] :=
      (if_neg (show ¬ StandsAlone 0xDA by decide)).trans (show bigEndian 2 ++ [] = _ by decide)
    rw [Segment.bytes, hbody, List.append_assoc] at hbytes
    cases hinfo.symm.trans (parseJpeg_sos hright hbytes (by decide) (List.cons_ne_nil _ _)
      (trap front s back hs hroom).held)

/-- All files with these markers are read for the geometry in their frame header
exactly when no marker is `TEM`, `DAC` or `SOS`. -/
theorem returnsGeometry_iff (markers : List OtherMarker) (hroom : markers.length < 2 ^ 40) :
    (∀ j : Jpeg, j.markers = markers → j.ReturnsGeometry) ↔ ∀ m ∈ markers, ¬ Misread m.1 := by
  constructor
  · intro hall
    by_contra hmisread
    obtain ⟨front, m, back, rfl, hfront, hm⟩ := exists_misread hmisread
    obtain ⟨j, hj, hwrong⟩ := exists_wrong_geometry hfront hm hroom
    exact hwrong (hall j hj)
  · rintro hright j rfl
    exact Jpeg.returnsGeometry fun s hs => hright s.marker (List.mem_map_of_mem hs)

/-- A quantization table in front of the frame header does no harm. -/
theorem returnsGeometry_dqt :
    (∀ m ∈ ([⟨0xDB, by decide⟩] : List OtherMarker), ¬ Misread m.1) ∧
      ∀ j : Jpeg, j.markers = [⟨0xDB, by decide⟩] → j.ReturnsGeometry := by
  have hright : ∀ m ∈ ([⟨0xDB, by decide⟩] : List OtherMarker), ¬ Misread m.1 := by
    intro m hm
    rw [List.mem_singleton.mp hm]
    decide
  exact ⟨hright, (returnsGeometry_iff [⟨0xDB, by decide⟩] (by decide)).mpr hright⟩

/-- An arithmetic conditioning in front of a frame of 1 by 1, which is read as 51456 by 4351. -/
theorem dac_read_as_frame : ¬ ∀ j : Jpeg, j.ReturnsGeometry := by
  intro hall
  have hright : ∀ s ∈ ([] : List Segment), ¬ Misread s.marker.1 := fun s hs => (nomatch hs)
  obtain ⟨info, hinfo, hwidth, -⟩ := hall ⟨[⟨0, ⟨0xCC, by decide⟩, [0x00, 0x10], by decide, by decide⟩],
    ⟨0, ⟨0xC9, by decide⟩, 8, 1, 1, [(1, 0x11, 0)], by decide⟩, [], by decide⟩
  have hdata : ([0xFF, 0xD8, 0xFF, 0xCC, 0x00, 0x04, 0x00, 0x10, 0xFF, 0xC9, 0x00, 0x0B, 0x08, 0x00,
      0x01, 0x00, 0x01, 0x01, 0x01, 0x11, 0x00] : List UInt8) =
    [0xFF, 0xD8] ++ (([] : List Segment).flatMap Segment.bytes ++ (lead 0 0xCC ++
      0x00 :: 0x04 :: 0x00 :: 0x10 :: 0xFF :: 0xC9 :: 0x00 :: 0x0B :: 0x08 :: _)) := rfl
  obtain ⟨info', hinfo', hwidth', -⟩ := parseJpeg_dac hright hdata (by decide) (by decide)
  cases hinfo.symm.trans hinfo'
  exact absurd (hwidth.symm.trans hwidth') (by decide)

end SpatialPlatform.Importers
