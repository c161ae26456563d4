import SpatialPlatform.Core.Reconstruction.Document
import SpatialPlatform.Lib.Binary64
import SpatialPlatform.Lib.ByteFormat
import SpatialPlatform.Lib.Coordinates

/-!
# Reading COLMAP models

`adapters/colmap/colmap_converter.cpp`: the reader of `cameras.bin`,
`images.bin` and `points3D.bin`. The files are given as their bytes. Two endings
are not errors of the adapter: the `length_error` of a vector that is asked to
reserve more than its `max_size`, and a read outside the buffer, which is
undefined. Running out of memory is not modelled.
-/

namespace SpatialPlatform.Adapters.Colmap

open SpatialPlatform.Core SpatialPlatform.Lib

/-- The conversion between a `double` and its bits, which the source does with `memcpy`. -/
class DoubleBits (R : Type) where
  toBits : R → UInt64
  ofBits : UInt64 → R
  isFinite : R → Bool
  isNaN : R → Bool
  /-- A finite number is its bits. -/
  ofBits_toBits : ∀ v, isFinite v = true → ofBits (toBits v) = v

instance : DoubleBits Float where
  toBits := Float.toBits
  ofBits := Float.ofBits
  isFinite := Float.isFinite
  isNaN := Float.isNaN
  ofBits_toBits _ := Binary64.ofBits_toBits

/-! ## The document -/

structure SparseModelIntrinsics (R : Type) where
  fx : R
  fy : R
  cx : R
  cy : R

structure SparseModelCamera (R : Type) where
  cameraId : UInt32
  model : String
  intrinsicModel : String
  intrinsics : SparseModelIntrinsics R
  width : Int64
  height : Int64
  modelId : Int32
  rawParams : List R

/-- `qvec` is in the order w, x, y, z. -/
structure SparseModelImage (R : Type) where
  imageId : UInt32
  cameraId : UInt32
  name : List UInt8
  qvec : Vector R 4
  tvec : Vector R 3

structure SparseModelTrackElement where
  imageId : UInt32
  point2dIdx : UInt32

structure SparseModelPoint (R : Type) where
  point3dId : UInt64
  xyz : Vector R 3
  rgb : Vector UInt8 3
  error : R
  track : List SparseModelTrackElement

structure SparseModel (R : Type) where
  schemaVersion : Int32 := 1
  cameras : List (SparseModelCamera R)
  images : List (SparseModelImage R)
  points3d : List (SparseModelPoint R)

/-! ## `BinaryReader`

The reader is a state: the bytes, the position and the storage that was
reserved. Every field goes through `need`; `reserve` is recorded with what was
left of the file, so that it can be compared later. -/

/-- What a vector holds that `ParseSparseModel` reserves storage for. -/
inductive Element where
  | camera
  | image
  | point
  | trackElement
  deriving DecidableEq, Repr

/-- A call of `reserve`, with the bytes of the file that remain at that moment. -/
structure Reservation where
  element : Element
  count : Nat
  remaining : Nat
  deriving DecidableEq, Repr

/-- How parsing fails. -/
inductive Failure where
  | adapter (error : ProjectError)
  | lengthError
  | outOfBounds
  deriving DecidableEq, Repr

/-- `Malformed`. -/
def malformed (file detail : String) : Failure :=
  .adapter ⟨.adapterProcessFailed, file ++ ": " ++ detail⟩

/-- `BinaryReader`, and the storage that was reserved so far. -/
structure BinaryReader where
  bytes : List UInt8
  file : String
  pos : Nat := 0
  reserved : List Reservation := []
  deriving DecidableEq, Repr

/-- What reads from a file. -/
abbrev Read (α : Type) := Persist BinaryReader Failure α

namespace BinaryReader

/-- `Remaining`. -/
def remaining (r : BinaryReader) : Nat := r.bytes.length - r.pos

/-- `Need`. -/
def need (count : Nat) : Read Unit := fun r =>
  if r.pos > r.bytes.length ∨ count > r.bytes.length - r.pos then
    (.error (malformed r.file "truncated or corrupt binary data"), r)
  else (.ok (), r)

/-- The bytes at the position, which have to lie in the buffer. -/
def slice (count : Nat) : Read (List UInt8) := fun r =>
  if r.pos + count ≤ r.bytes.length then (.ok ((r.bytes.drop r.pos).take count), r)
  else (.error .outOfBounds, r)

/-- `pos_ += count`. -/
def advance (count : Nat) (r : BinaryReader) : BinaryReader := { r with pos := r.pos + count }

/-- The bytes that the next field takes. -/
def take (count : Nat) : Read (List UInt8) := do
  need count
  let bytes ← slice count
  Persist.write fun r => .ok (r.advance count)
  return bytes

/-- `U8`. -/
def u8 : Read UInt8 := do
  let bytes ← take 1
  return UInt8.ofNat (leValue bytes)

/-- `U32`. -/
def u32 : Read UInt32 := do
  let bytes ← take 4
  return UInt32.ofNat (leValue bytes)

/-- `I32`. -/
def i32 : Read Int32 := do
  let value ← u32
  return value.toInt32

/-- `U64`. -/
def u64 : Read UInt64 := do
  let lo ← u32
  let hi ← u32
  return UInt64.ofNat (lo.toNat + hi.toNat * 2 ^ 32)

/-- `F64`. -/
def f64 {R : Type} [DoubleBits R] : Read R := do
  let bits ← u64
  return DoubleBits.ofBits bits

/-- `String`. -/
def string : Read (List UInt8) := do
  let len ← u32
  take len.toNat

/-- `Skip`. -/
def skip (count : Nat) : Read Unit := do
  need count
  Persist.write fun r => .ok (r.advance count)

/-- `vector::reserve`. -/
def reserve (maxSize : Element → Nat) (element : Element) (count : Nat) : Read Unit := fun r =>
  let r' := { r with reserved := r.reserved ++ [⟨element, count, r.remaining⟩] }
  if count > maxSize element then (.error .lengthError, r') else (.ok (), r')

end BinaryReader

/-! ## The three files

Each file is a count and as many records. The counts are checked before storage
is reserved for them, except for the length of a track. -/

def kCamerasLabel : String := "cameras.bin"

def kImagesLabel : String := "images.bin"

def kPoints3dLabel : String := "points3D.bin"

structure CameraModelInfo where
  name : String
  numParams : Nat
  intrinsicModel : String
  singleFocal : Bool
  deriving DecidableEq, Repr

/-- Indexed by the model id of COLMAP. -/
def kCameraModels : List CameraModelInfo := [
  ⟨"SIMPLE_PINHOLE", 3, "pinhole", true⟩,
  ⟨"PINHOLE", 4, "pinhole", false⟩,
  ⟨"SIMPLE_RADIAL", 4, "opencv", true⟩,
  ⟨"RADIAL", 5, "opencv", true⟩,
  ⟨"OPENCV", 8, "opencv", false⟩,
  ⟨"OPENCV_FISHEYE", 8, "opencv_fisheye", false⟩,
  ⟨"FULL_OPENCV", 12, "custom", false⟩,
  ⟨"FOV", 5, "fov", false⟩,
  ⟨"SIMPLE_RADIAL_FISHEYE", 4, "opencv_fisheye", true⟩,
  ⟨"RADIAL_FISHEYE", 5, "opencv_fisheye", true⟩,
  ⟨"THIN_PRISM_FISHEYE", 12, "custom", false⟩]

/-- `ModelInfo`. -/
def modelInfo (modelId : Int32) : Option CameraModelInfo :=
  if 0 ≤ modelId.toInt ∧ modelId.toInt.toNat < kCameraModels.length then
    kCameraModels[modelId.toInt.toNat]?
  else none

/-- `camera.intrinsics` from `params`. -/
def intrinsics {R : Type} (singleFocal : Bool) (params : List R) :
    Option (SparseModelIntrinsics R) :=
  match singleFocal, params with
  | true, f :: cx :: cy :: _ => some ⟨f, f, cx, cy⟩
  | false, fx :: fy :: cx :: cy :: _ => some ⟨fx, fy, cx, cy⟩
  | _, _ => none

section Records

open BinaryReader

variable {R : Type} [DoubleBits R]

/-- The part of `ParseCamera` after the model is found. -/
def parseCameraBody (cameraId : UInt32) (modelId : Int32) (info : CameraModelInfo) :
    Read (SparseModelCamera R) := do
  let width ← u64
  let height ← u64
  let params ← Persist.times info.numParams f64
  match intrinsics info.singleFocal params with
  | none => Persist.fail .outOfBounds
  | some intrinsics =>
      return {
        cameraId := cameraId
        model := info.name
        intrinsicModel := info.intrinsicModel
        intrinsics := intrinsics
        width := width.toInt64
        height := height.toInt64
        modelId := modelId
        rawParams := params }

/-- `ParseCamera`. -/
def parseCamera : Read (SparseModelCamera R) := do
  let cameraId ← u32
  let modelId ← i32
  match modelInfo modelId with
  | none =>
      Persist.fail (malformed kCamerasLabel
        ("unknown camera model id " ++ toString modelId.toInt))
  | some info => parseCameraBody cameraId modelId info

/-- `ParseImage`; the keypoints are skipped. -/
def parseImage : Read (SparseModelImage R) := do
  let imageId ← u32
  let qw ← f64
  let qx ← f64
  let qy ← f64
  let qz ← f64
  let tx ← f64
  let ty ← f64
  let tz ← f64
  let cameraId ← u32
  let name ← string
  let numPoints2d ← u64
  let _ ← Persist.times numPoints2d.toNat (skip 24)
  return {
    imageId := imageId
    cameraId := cameraId
    name := name
    qvec := .quadruple qw qx qy qz
    tvec := .triple tx ty tz }

/-- The fields of a point before its track, and the length of the track. -/
def parsePointHead : Read (SparseModelPoint R × UInt64) := do
  let point3dId ← u64
  let x ← f64
  let y ← f64
  let z ← f64
  let red ← u8
  let green ← u8
  let blue ← u8
  let error ← f64
  let trackLen ← u64
  return ({
    point3dId := point3dId
    xyz := .triple x y z
    rgb := .triple red green blue
    error := error
    track := [] }, trackLen)

def parseTrackElement : Read SparseModelTrackElement := do
  let imageId ← u32
  let point2dIdx ← u32
  return ⟨imageId, point2dIdx⟩

/-- `ParsePoint3D`. The length of the track is not compared with what remains of the file. -/
def parsePoint3D (maxSize : Element → Nat) : Read (SparseModelPoint R) := do
  let (point, trackLen) ← parsePointHead
  reserve maxSize .trackElement trackLen.toNat
  let track ← Persist.times trackLen.toNat parseTrackElement
  return { point with track := track }

/-- A file of records: their number, and then the records. -/
def parseRecords {α : Type} (maxSize : Element → Nat) (element : Element) (label detail : String)
    (parse : Read α) : Read (List α) := do
  let num ← u64
  let remaining ← Persist.read BinaryReader.remaining
  if num.toNat > remaining then
    Persist.fail (malformed label detail)
  else do
    reserve maxSize element num.toNat
    Persist.times num.toNat parse

/-- `ParseCameras`. -/
def parseCameras (maxSize : Element → Nat) : Read (List (SparseModelCamera R)) :=
  parseRecords maxSize .camera kCamerasLabel "camera count exceeds the file size" parseCamera

/-- `ParseImages`. -/
def parseImages (maxSize : Element → Nat) : Read (List (SparseModelImage R)) :=
  parseRecords maxSize .image kImagesLabel "image count exceeds the file size" parseImage

/-- `ParsePoints3D`. -/
def parsePoints3D (maxSize : Element → Nat) : Read (List (SparseModelPoint R)) :=
  parseRecords maxSize .point kPoints3dLabel "point3D count exceeds the file size"
    (parsePoint3D maxSize)

/-- A `BinaryReader` for one file, after the storage that was reserved before. -/
def readFile {α : Type} (bytes : List UInt8) (label : String) (x : Read α) :
    Persist (List Reservation) Failure α := fun reserved =>
  let (result, r) := x { bytes := bytes, file := label, reserved := reserved }
  (result, r.reserved)

/-- `ParseSparseModel`; records of equal id stay in the order of the file. -/
def parseSparseModel (maxSize : Element → Nat) (camerasBin imagesBin points3dBin : List UInt8) :
    Persist (List Reservation) Failure (SparseModel R) := do
  let cameras ← readFile camerasBin kCamerasLabel (parseCameras maxSize)
  let images ← readFile imagesBin kImagesLabel (parseImages maxSize)
  let points3d ← readFile points3dBin kPoints3dLabel (parsePoints3D maxSize)
  return {
    cameras := cameras.mergeSort fun a b => a.cameraId ≤ b.cameraId
    images := images.mergeSort fun a b => a.imageId ≤ b.imageId
    points3d := points3d.mergeSort fun a b => a.point3dId ≤ b.point3dId }

end Records

end SpatialPlatform.Adapters.Colmap
