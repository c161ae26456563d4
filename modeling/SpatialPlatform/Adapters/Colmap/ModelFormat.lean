import SpatialPlatform.Adapters.Colmap.Converter
import SpatialPlatform.Lib.Coordinates

/-!
# The format of COLMAP models

The layout that `colmap_converter.h` gives for the three files, record by
record, and that the reader takes exactly these records.
-/

namespace SpatialPlatform.Adapters.Colmap

open SpatialPlatform.Core SpatialPlatform.Lib SpatialPlatform.Lib.Persist BinaryReader

/-- A reader as a source of bytes. A refusal is an error of the adapter, and reserves nothing. -/
def binarySource : Source UInt8 BinaryReader Failure where
  rest r := r.bytes.drop r.pos
  advance := BinaryReader.advance
  Valid r := r.pos ≤ r.bytes.length
  Refuses r e r' := (∃ error, e = .adapter error) ∧ r'.reserved = r.reserved
  rest_advance n r := by
    show r.bytes.drop (r.pos + n) = _
    rw [List.drop_drop]
  valid_advance n r hr hn := by
    show r.pos + n ≤ r.bytes.length
    rw [List.length_drop] at hn
    omega
  advance_zero r := rfl
  advance_add m n r := by
    show ({ r with pos := r.pos + (m + n) } : BinaryReader) = { r with pos := r.pos + m + n }
    rw [Nat.add_assoc]
  refuses_advance h := h

theorem refuses_malformed (r : BinaryReader) (file detail : String) :
    binarySource.Refuses r (malformed file detail) r := ⟨⟨_, rfl⟩, rfl⟩

/-- What a reservation does. -/
theorem reserve_of_le {maxSize : Element → Nat} {element : Element} {count : Nat}
    (h : count ≤ maxSize element) (r : BinaryReader) :
    reserve maxSize element count r =
      (.ok (), { r with reserved := r.reserved ++ [⟨element, count, r.remaining⟩] }) := by
  unfold reserve
  rw [if_neg (by omega)]

theorem reserve_of_lt {maxSize : Element → Nat} {element : Element} {count : Nat}
    (h : maxSize element < count) (r : BinaryReader) :
    reserve maxSize element count r =
      (.error .lengthError, { r with reserved := r.reserved ++ [⟨element, count, r.remaining⟩] }) := by
  unfold reserve
  rw [if_pos h]

/-! ## Fields

For every primitive of `BinaryReader` the runs of bytes that it accepts. `Need`
is the only check, so a reader of a fixed number of bytes refuses exactly a file
that has too few left. -/

theorem need_of_le {r : BinaryReader} {count : Nat} (hr : r.pos ≤ r.bytes.length)
    (h : count ≤ r.bytes.length - r.pos) : need count r = (.ok (), r) := by
  unfold need
  rw [if_neg (by omega)]

theorem need_of_lt {r : BinaryReader} {count : Nat} (h : r.bytes.length - r.pos < count) :
    need count r = (.error (malformed r.file "truncated or corrupt binary data"), r) := by
  unfold need
  rw [if_pos (by omega)]

/-- A run at the front of the rest lies in the buffer. -/
theorem length_run_le {r : BinaryReader} {run tail : List UInt8}
    (hrest : r.bytes.drop r.pos = run ++ tail) : run.length ≤ r.bytes.length - r.pos := by
  have := congrArg List.length hrest
  rw [List.length_drop, List.length_append] at this
  omega

/-- A program that begins with `Need` refuses a file with too few bytes left. -/
theorem refuses_of_need {α : Type} {x : Read α} {r : BinaryReader} {count : Nat}
    (hnone : ∀ run tail, r.bytes.drop r.pos = run ++ tail → run.length ≠ count) :
    ∃ e r', (need count >>= fun _ => x) r = (.error e, r') ∧ binarySource.Refuses r e r' := by
  by_cases hlen : count ≤ r.bytes.length - r.pos
  · refine absurd ?_ (hnone _ _ (List.take_append_drop count _).symm)
    rw [List.length_take, List.length_drop]
    omega
  · exact ⟨_, _, bind_of_error (need_of_lt (by omega)), refuses_malformed ..⟩

theorem reads_take (count : Nat) :
    Reads binarySource (take count) fun run v => run.length = count ∧ v = run where
  accepts := by
    rintro r run tail v (hr : r.pos ≤ r.bytes.length) (hrest : r.bytes.drop r.pos = run ++ tail)
      ⟨rfl, rfl⟩
    have hlen := length_run_le hrest
    have hslice : slice v.length r = (.ok v, r) := by
      unfold slice
      rw [if_pos (by omega), hrest, List.take_left]
    unfold BinaryReader.take
    rw [bind_of_ok (need_of_le hr hlen), bind_of_ok hslice]
    rfl
  refuses := by
    intro r _ hnone
    exact refuses_of_need fun run tail hrest hlen => hnone run tail run hrest ⟨hlen, rfl⟩

def u8Format : Format UInt8 UInt8 := fun run v => run = leBytes 1 v.toNat

def u32Format : Format UInt8 UInt32 := fun run v => run = leBytes 4 v.toNat

def i32Format : Format UInt8 Int32 := fun run v => run = leBytes 4 v.toUInt32.toNat

def u64Format : Format UInt8 UInt64 := fun run v => run = leBytes 8 v.toNat

def skipFormat (count : Nat) : Format UInt8 Unit := fun run _ => run.length = count

theorem reads_skip (count : Nat) : Reads binarySource (skip count) (skipFormat count) where
  accepts := by
    rintro r run tail v (hr : r.pos ≤ r.bytes.length) (hrest : r.bytes.drop r.pos = run ++ tail) rfl
    unfold skip
    rw [bind_of_ok (need_of_le hr (length_run_le hrest))]
    rfl
  refuses := by
    intro r _ hnone
    exact refuses_of_need fun run tail hrest hlen => hnone run tail () hrest hlen

theorem reads_u8 : Reads binarySource u8 u8Format := by
  refine ((reads_take 1).bind fun _ bytes _ => Reads.pure _).congr fun run v => ?_
  constructor
  · rintro ⟨first, _, bytes, rfl, ⟨hlen, hbytes⟩, rfl, rfl⟩
    subst hbytes
    have hlt := leValue_lt bytes
    rw [hlen] at hlt
    rw [u8Format, List.append_nil, UInt8.toNat_ofNat', Nat.mod_eq_of_lt (by omega), ← hlen, leBytes_leValue]
  · rintro rfl
    refine ⟨_, [], _, (List.append_nil _).symm, ⟨length_leBytes .., rfl⟩, rfl, ?_⟩
    rw [leValue_leBytes (by simpa using v.toNat_lt), UInt8.ofNat_toNat]

theorem reads_u32 : Reads binarySource u32 u32Format := by
  refine ((reads_take 4).bind fun _ bytes _ => Reads.pure _).congr fun run v => ?_
  constructor
  · rintro ⟨first, _, bytes, rfl, ⟨hlen, hbytes⟩, rfl, rfl⟩
    subst hbytes
    have hlt := leValue_lt bytes
    rw [hlen] at hlt
    rw [u32Format, List.append_nil, UInt32.toNat_ofNat', Nat.mod_eq_of_lt (by omega), ← hlen, leBytes_leValue]
  · rintro rfl
    refine ⟨_, [], _, (List.append_nil _).symm, ⟨length_leBytes .., rfl⟩, rfl, ?_⟩
    rw [leValue_leBytes (by simpa using v.toNat_lt), UInt32.ofNat_toNat]

theorem reads_i32 : Reads binarySource i32 i32Format := by
  refine (reads_u32.bind fun _ value _ => Reads.pure _).congr fun run v => ?_
  constructor
  · rintro ⟨first, _, value, rfl, rfl, rfl, rfl⟩
    simp [i32Format]
  · rintro rfl
    exact ⟨_, [], v.toUInt32, (List.append_nil _).symm, rfl, rfl, by simp⟩

theorem reads_u64 : Reads binarySource u64 u64Format := by
  refine (reads_u32.bind fun _ lo _ => reads_u32.bind fun _ hi _ => Reads.pure _).congr fun run v => ?_
  constructor
  · rintro ⟨_, _, lo, rfl, rfl, _, _, hi, rfl, rfl, rfl, rfl⟩
    have hlo := lo.toNat_lt
    have hhi := hi.toNat_lt
    have hvalue : (UInt64.ofNat (lo.toNat + hi.toNat * 2 ^ 32)).toNat =
        lo.toNat + hi.toNat * 2 ^ 32 := by
      rw [UInt64.toNat_ofNat']
      omega
    have hlow : (lo.toNat + hi.toNat * 2 ^ 32) % 256 ^ 4 = lo.toNat := by omega
    have hhigh : (lo.toNat + hi.toNat * 2 ^ 32) / 256 ^ 4 = hi.toNat := by omega
    rw [u64Format, List.append_nil, hvalue, leBytes_add 4 4, hhigh, ← leBytes_mod 4 (_ + _), hlow]
  · rintro rfl
    have hv := v.toNat_lt
    refine ⟨leBytes 4 v.toNat, leBytes 4 (v.toNat / 256 ^ 4), UInt32.ofNat v.toNat,
      leBytes_add 4 4 _, ?_, _, [], UInt32.ofNat (v.toNat / 256 ^ 4), (List.append_nil _).symm, ?_,
      rfl, ?_⟩
    · show _ = leBytes 4 (UInt32.ofNat v.toNat).toNat
      rw [UInt32.toNat_ofNat']
      exact (leBytes_mod 4 _).symm
    · show _ = leBytes 4 (UInt32.ofNat (v.toNat / 256 ^ 4)).toNat
      rw [UInt32.toNat_ofNat']
      exact (leBytes_mod 4 _).symm
    · apply UInt64.toNat_inj.mp
      simp only [UInt32.toNat_ofNat', UInt64.toNat_ofNat']
      omega

section Records

variable {R : Type} [DoubleBits R]

/-- The runs of a number. -/
def f64Format : Format UInt8 R := fun run v =>
  ∃ bits : UInt64, run = leBytes 8 bits.toNat ∧ v = DoubleBits.ofBits bits

theorem reads_f64 : Reads binarySource (f64 : Read R) f64Format := by
  refine (reads_u64.bind fun _ bits _ => Reads.pure _).congr fun run v => ?_
  constructor
  · rintro ⟨_, _, bits, rfl, rfl, rfl, rfl⟩
    exact ⟨bits, List.append_nil _, rfl⟩
  · rintro ⟨bits, rfl, rfl⟩
    exact ⟨_, [], bits, (List.append_nil _).symm, rfl, rfl, rfl⟩

/-- The runs of a name: its length, and then its bytes. -/
def stringFormat : Format UInt8 (List UInt8) := fun run name =>
  ∃ len : UInt32, run = leBytes 4 len.toNat ++ name ∧ name.length = len.toNat

theorem reads_string : Reads binarySource string stringFormat := by
  refine (reads_u32.bind fun _ len _ => reads_take len.toNat).congr fun run name => ?_
  constructor
  · rintro ⟨_, second, len, rfl, rfl, hlen, rfl⟩
    exact ⟨len, rfl, hlen⟩
  · rintro ⟨len, rfl, hlen⟩
    exact ⟨_, name, len, rfl, rfl, hlen, rfl⟩

/-! ## Records

The records are put together from the fields, in the order in which the parser
reads them; `Reads.bind` carries each proof from one field to the next. -/

def cameraBodyFormat (cameraId : UInt32) (modelId : Int32) (info : CameraModelInfo) :
    Format UInt8 (SparseModelCamera R) :=
  u64Format.seq fun width => u64Format.seq fun height =>
    (f64Format.times info.numParams).seq fun params =>
      match intrinsics info.singleFocal params with
      | none => fun _ _ => False
      | some intrinsics => Format.empty {
          cameraId := cameraId
          model := info.name
          intrinsicModel := info.intrinsicModel
          intrinsics := intrinsics
          width := width.toInt64
          height := height.toInt64
          modelId := modelId
          rawParams := params }

/-- A record of `cameras.bin`: the id, the id of a known model, the size and the parameters. -/
def cameraFormat : Format UInt8 (SparseModelCamera R) :=
  u32Format.seq fun cameraId => i32Format.seq fun modelId =>
    match modelInfo modelId with
    | none => fun _ _ => False
    | some info => cameraBodyFormat cameraId modelId info

/-- A record of `images.bin`: the id, the pose, the camera, the name and the keypoints. -/
def imageFormat : Format UInt8 (SparseModelImage R) :=
  u32Format.seq fun imageId =>
  f64Format.seq fun qw => f64Format.seq fun qx => f64Format.seq fun qy => f64Format.seq fun qz =>
  f64Format.seq fun tx => f64Format.seq fun ty => f64Format.seq fun tz =>
  u32Format.seq fun cameraId =>
  stringFormat.seq fun name =>
  u64Format.seq fun numPoints2d =>
  ((skipFormat 24).times numPoints2d.toNat).seq fun _ =>
  Format.empty {
    imageId := imageId
    cameraId := cameraId
    name := name
    qvec := .quadruple qw qx qy qz
    tvec := .triple tx ty tz }

/-- The record of a point up to its track: the id, the position, the colour, the
error and the length of the track. -/
def pointHeadFormat : Format UInt8 (SparseModelPoint R × UInt64) :=
  u64Format.seq fun point3dId =>
  f64Format.seq fun x => f64Format.seq fun y => f64Format.seq fun z =>
  u8Format.seq fun red => u8Format.seq fun green => u8Format.seq fun blue =>
  f64Format.seq fun error =>
  u64Format.seq fun trackLen =>
  Format.empty ({
    point3dId := point3dId
    xyz := .triple x y z
    rgb := .triple red green blue
    error := error
    track := [] }, trackLen)

def trackElementFormat : Format UInt8 SparseModelTrackElement :=
  u32Format.seq fun imageId => u32Format.seq fun point2dIdx => Format.empty ⟨imageId, point2dIdx⟩

/-- A record of `points3D.bin`. -/
def pointFormat : Format UInt8 (SparseModelPoint R) :=
  pointHeadFormat.seq fun (point, trackLen) =>
    (trackElementFormat.times trackLen.toNat).seq fun track =>
      Format.empty { point with track := track }

theorem mem_of_modelInfo {modelId : Int32} {info : CameraModelInfo}
    (h : modelInfo modelId = some info) : info ∈ kCameraModels := by
  unfold modelInfo at h
  split at h
  · exact List.mem_of_getElem? h
  · cases h

omit [DoubleBits R] in
/-- Every model has the parameters that its intrinsics are taken from. -/
theorem intrinsics_isSome {modelId : Int32} {info : CameraModelInfo} {params : List R}
    (hinfo : modelInfo modelId = some info) (hlen : params.length = info.numParams) :
    ∃ i, intrinsics info.singleFocal params = some i := by
  have htable : ∀ info ∈ kCameraModels, 3 ≤ info.numParams ∧
      (info.singleFocal = false → 4 ≤ info.numParams) := by decide
  obtain ⟨hthree, hfour⟩ := htable info (mem_of_modelInfo hinfo)
  rw [← hlen] at hthree hfour
  cases hfocal : info.singleFocal with
  | true =>
      match params, hthree with
      | f :: cx :: cy :: _, _ => exact ⟨_, rfl⟩
  | false =>
      match params, hfour hfocal with
      | fx :: fy :: cx :: cy :: _, _ => exact ⟨_, rfl⟩

theorem reads_camera : Reads binarySource (parseCamera : Read (SparseModelCamera R)) cameraFormat := by
  refine reads_u32.bind fun _ cameraId _ => reads_i32.bind fun _ modelId _ => ?_
  cases hinfo : modelInfo modelId with
  | none => exact Reads.refuse fun r => ⟨_, _, rfl, refuses_malformed ..⟩
  | some info =>
      refine reads_u64.bind fun _ width _ => reads_u64.bind fun _ height _ =>
        (reads_f64.times info.numParams).bind fun _ params hparams => ?_
      obtain ⟨_, -, -, hlen⟩ := hparams
      obtain ⟨i, hi⟩ := intrinsics_isSome hinfo hlen
      simp only [hi]
      exact Reads.pure _

theorem reads_image : Reads binarySource (parseImage : Read (SparseModelImage R)) imageFormat :=
  reads_u32.bind fun _ _ _ =>
  reads_f64.bind fun _ _ _ => reads_f64.bind fun _ _ _ =>
  reads_f64.bind fun _ _ _ => reads_f64.bind fun _ _ _ =>
  reads_f64.bind fun _ _ _ => reads_f64.bind fun _ _ _ => reads_f64.bind fun _ _ _ =>
  reads_u32.bind fun _ _ _ => reads_string.bind fun _ _ _ => reads_u64.bind fun _ _ _ =>
  ((reads_skip 24).times _).bind fun _ _ _ => Reads.pure _

theorem reads_pointHead :
    Reads binarySource (parsePointHead : Read (SparseModelPoint R × UInt64)) pointHeadFormat :=
  reads_u64.bind fun _ _ _ =>
  reads_f64.bind fun _ _ _ => reads_f64.bind fun _ _ _ => reads_f64.bind fun _ _ _ =>
  reads_u8.bind fun _ _ _ => reads_u8.bind fun _ _ _ => reads_u8.bind fun _ _ _ =>
  reads_f64.bind fun _ _ _ => reads_u64.bind fun _ _ _ => Reads.pure _

theorem reads_trackElement : Reads binarySource parseTrackElement trackElementFormat :=
  reads_u32.bind fun _ _ _ => reads_u32.bind fun _ _ _ => Reads.pure _

/-- The reader of a point without the reservation for its track. -/
theorem reads_point : Reads binarySource
    (do
      let (point, trackLen) ← (parsePointHead : Read (SparseModelPoint R × UInt64))
      let track ← Persist.times trackLen.toNat parseTrackElement
      return { point with track := track }) pointFormat :=
  reads_pointHead.bind fun _ _ _ => (reads_trackElement.times _).bind fun _ _ _ => Reads.pure _

/-! ## The length of a record

Every record has so many bytes at least, which is what the counts are compared
with. -/

/-- The length of the shortest record. -/
def Element.minBytes : Element → Nat
  | .camera => 48
  | .image => 76
  | .point => 51
  | .trackElement => 8

theorem atLeast_u8 : u8Format.AtLeast 1 := by
  rintro run v rfl
  rw [length_leBytes]

theorem atLeast_u32 : u32Format.AtLeast 4 := by
  rintro run v rfl
  rw [length_leBytes]

theorem atLeast_i32 : i32Format.AtLeast 4 := by
  rintro run v rfl
  rw [length_leBytes]

theorem atLeast_u64 : u64Format.AtLeast 8 := by
  rintro run v rfl
  rw [length_leBytes]

theorem atLeast_f64 : (f64Format : Format UInt8 R).AtLeast 8 := by
  rintro run v ⟨bits, rfl, -⟩
  rw [length_leBytes]

theorem atLeast_string : stringFormat.AtLeast 4 := by
  rintro run v ⟨len, rfl, -⟩
  rw [List.length_append, length_leBytes]
  omega

theorem atLeast_camera :
    (cameraFormat : Format UInt8 (SparseModelCamera R)).AtLeast (Element.minBytes .camera) := by
  refine atLeast_u32.seq fun _ _ _ => atLeast_i32.seq (k := 40) fun _ modelId _ => ?_
  cases hinfo : modelInfo modelId with
  | none => exact .never
  | some info =>
      have htable : ∀ info ∈ kCameraModels, 3 ≤ info.numParams := by decide
      have hthree := htable info (mem_of_modelInfo hinfo)
      refine atLeast_u64.seq fun _ _ _ => atLeast_u64.seq (k := 24) fun _ _ _ => ?_
      apply ((atLeast_f64.times info.numParams).seq fun _ _ _ => .zero).mono
      omega

theorem atLeast_image :
    (imageFormat : Format UInt8 (SparseModelImage R)).AtLeast (Element.minBytes .image) :=
  atLeast_u32.seq fun _ _ _ =>
  atLeast_f64.seq fun _ _ _ => atLeast_f64.seq fun _ _ _ =>
  atLeast_f64.seq fun _ _ _ => atLeast_f64.seq fun _ _ _ =>
  atLeast_f64.seq fun _ _ _ => atLeast_f64.seq fun _ _ _ => atLeast_f64.seq fun _ _ _ =>
  atLeast_u32.seq fun _ _ _ => atLeast_string.seq fun _ _ _ => atLeast_u64.seq fun _ _ _ =>
  .zero

theorem atLeast_pointHead : (pointHeadFormat :
    Format UInt8 (SparseModelPoint R × UInt64)).AtLeast (Element.minBytes .point) :=
  atLeast_u64.seq fun _ _ _ =>
  atLeast_f64.seq fun _ _ _ => atLeast_f64.seq fun _ _ _ => atLeast_f64.seq fun _ _ _ =>
  atLeast_u8.seq fun _ _ _ => atLeast_u8.seq fun _ _ _ => atLeast_u8.seq fun _ _ _ =>
  atLeast_f64.seq fun _ _ _ => atLeast_u64.seq fun _ _ _ => .zero

theorem atLeast_point :
    (pointFormat : Format UInt8 (SparseModelPoint R)).AtLeast (Element.minBytes .point) :=
  atLeast_pointHead.seq fun _ _ _ => .zero

end Records

end SpatialPlatform.Adapters.Colmap
