import SpatialPlatform.Adapters.Colmap.CanonicalModel
import SpatialPlatform.Lib.Coordinates

/-!
# Writing COLMAP models

`adapters/colmap/colmap_model_writer.cpp`. The whole reconstruction is checked
before the first file is opened; then the three files are written one after the
other, each of them sorted by id.
-/

namespace SpatialPlatform.Adapters.Colmap

open SpatialPlatform.Core SpatialPlatform.Lib

/-- `ColmapKeypoints`: the coordinates of the keypoints of one image. -/
abbrev ColmapKeypoints (R : Type) := List (Vector R 2)

/-- `WriterError`. -/
def writerError (message : String) : ProjectError := ⟨.adapterProcessFailed, message⟩

/-- The bytes of a name in a message. -/
def nameText (name : List UInt8) : String :=
  String.ofList (name.map fun b => Char.ofNat b.toNat)

/-! ## Checks

Everything that can be refused before a file is touched, in the order of the
source. What the checks find out on the way is kept in a plan, from which the
files are written. -/

section Checks

variable {R : Type} [DoubleBits R]

/-- `RowCamera`. -/
structure RowCamera (R : Type) where
  modelId : Int32
  params : List R

def kPinHoleModel : Int32 := 1

def kOpenCvModel : Int32 := 4

def kOpenCvFishEyeModel : Int32 := 5

/-- `CameraRecord`. -/
def cameraRecord (cam : ReconCamera R) : Except ProjectError (RowCamera R) :=
  let d := cam.distortionCoefficients
  let id := toString cam.cameraId
  if !d.all DoubleBits.isFinite then
    .error (writerError ("non-finite distortion coefficient in camera " ++ id))
  else if cam.intrinsicModel = "pinhole" ∧ cam.distortionModel = "none" then
    if d ≠ [] then
      .error (writerError ("pinhole camera " ++ id ++
        " carries distortion coefficients; 8c refuses to drop or reinterpret them (P5)"))
    else .ok ⟨kPinHoleModel, [cam.fx, cam.fy, cam.cx, cam.cy]⟩
  else if cam.intrinsicModel = "opencv" ∧ cam.distortionModel = "opencv_radial" then
    if d.length ≠ 4 then
      .error (writerError ("opencv camera " ++ id ++
        " must carry exactly 4 distortion coefficients (k1, k2, p1, p2)"))
    else .ok ⟨kOpenCvModel, [cam.fx, cam.fy, cam.cx, cam.cy] ++ d⟩
  else if cam.intrinsicModel = "opencv_fisheye" ∧ cam.distortionModel = "opencv_fisheye" then
    if d.length ≠ 4 then
      .error (writerError ("opencv_fisheye camera " ++ id ++
        " must carry exactly 4 distortion coefficients (k1, k2, k3, k4)"))
    else .ok ⟨kOpenCvFishEyeModel, [cam.fx, cam.fy, cam.cx, cam.cy] ++ d⟩
  else
    .error (writerError ("unsupported camera model '" ++ cam.intrinsicModel ++ "' (distortion '" ++
      cam.distortionModel ++ "'); 8c supports pinhole/opencv/opencv_fisheye only (P12-i)"))

/-- The sorted ids have no equal neighbours. -/
def checkIds {α : Type} [DecidableEq α] (ids : List α) (message : String) :
    Except ProjectError Unit :=
  if ids.Nodup then .ok () else .error (writerError message)

/-- The loop over the names, with those that occurred before. -/
def checkNames (seen : List (List UInt8)) : List (ReconImage R) → Except ProjectError Unit
  | [] => .ok ()
  | i :: images =>
      if i.name = [] then
        .error (writerError ("image " ++ toString i.imageId ++
          " has an empty name; the native COLMAP image identity requires one"))
      else if i.name ∈ seen then
        .error (writerError ("duplicate image name '" ++ nameText i.name ++
          "' (COLMAP identifies images by name)"))
      else checkNames (i.name :: seen) images

/-- The loop that fills `camera_rows`. -/
def cameraRows : List (ReconCamera R) → Except ProjectError (List (UInt32 × RowCamera R))
  | [] => .ok []
  | c :: cameras =>
      if c.width < 0 ∨ c.height < 0 then
        .error (writerError ("camera " ++ toString c.cameraId ++ " has a negative image dimension"))
      else do
        let row ← cameraRecord c
        let rows ← cameraRows cameras
        return (c.cameraId, row) :: rows

/-- The loop that resolves the keypoints of every image. -/
def imageKeypoints (keypointsByImageId : UInt32 → Option (ColmapKeypoints R)) :
    List (ReconImage R) → Except ProjectError (List (UInt32 × ColmapKeypoints R))
  | [] => .ok []
  | img :: images =>
      let text := "image " ++ toString img.imageId ++ " ('" ++ nameText img.name ++ "')"
      match keypointsByImageId img.imageId with
      | none =>
          .error (writerError ("no keypoints supplied for " ++ text ++
            "; the native images.bin requires the full keypoint list (P12)"))
      | some kpts =>
          if kpts = [] then
            .error (writerError (text ++
              " has an empty keypoint list; 8c fails closed on a degenerate native model"))
          else if kpts.any fun kp => DoubleBits.isNaN (kp 0) || DoubleBits.isNaN (kp 1) then
            .error (writerError ("non-finite keypoint in image " ++ toString img.imageId ++
              " (P12-ii)"))
          else do
            let rest ← imageKeypoints keypointsByImageId images
            return (img.imageId, kpts) :: rest

/-- `track_by_image`: the point that a keypoint of an image shows. -/
abbrev TrackByImage := UInt32 → UInt32 → Option UInt64

/-- The loop over the track of one point. -/
def slotTrack (keypoints : List (UInt32 × ColmapKeypoints R)) (point3dId : UInt64) :
    List TrackElement → TrackByImage → Except ProjectError TrackByImage
  | [], slots => .ok slots
  | te :: track, slots =>
      match keypoints.lookup te.imageId with
      | none =>
          .error (writerError ("track of point " ++ toString point3dId ++
            " references unknown image " ++ toString te.imageId))
      | some kpts =>
          if te.point2dIdx < 0 ∨ kpts.length ≤ te.point2dIdx.toInt.toNat then
            .error (writerError ("track of point " ++ toString point3dId ++
              " references out-of-range point2d_idx " ++ toString te.point2dIdx.toInt))
          else if (slots te.imageId te.point2dIdx.toUInt32).isSome then
            .error (writerError ("duplicate track element (image " ++ toString te.imageId ++
              ", point2d_idx " ++ toString te.point2dIdx.toInt ++ ")"))
          else
            slotTrack keypoints point3dId track
              (Function.update slots te.imageId
                (Function.update (slots te.imageId) te.point2dIdx.toUInt32 (some point3dId)))

/-- The loop over the points. -/
def slotTracks (keypoints : List (UInt32 × ColmapKeypoints R)) :
    List (ReconPoint3D R) → TrackByImage → Except ProjectError TrackByImage
  | [], slots => .ok slots
  | pt :: points, slots => do
      let slots ← slotTrack keypoints pt.point3dId pt.track slots
      slotTracks keypoints points slots

/-- What the checks prepare for the writing. -/
structure WritePlan (R : Type) where
  cameraRows : List (UInt32 × RowCamera R)
  keypoints : List (UInt32 × ColmapKeypoints R)
  trackByImage : TrackByImage

/-- `WriteColmapModel` up to the first file. -/
def checkReconstruction (r : Reconstruction R)
    (keypointsByImageId : UInt32 → Option (ColmapKeypoints R)) :
    Except ProjectError (WritePlan R) :=
  if r.cameras.isEmpty then .error (writerError "reconstruction has no cameras")
  else if r.images.isEmpty then .error (writerError "reconstruction has no images")
  else do
    checkIds (r.cameras.map (·.cameraId)) "duplicate camera_id in reconstruction"
    checkIds (r.images.map (·.imageId)) "duplicate image_id in reconstruction"
    checkIds (r.points3D.map (·.point3dId)) "duplicate point3d_id in reconstruction"
    checkNames [] r.images
    let rows ← cameraRows r.cameras
    let keypoints ← imageKeypoints keypointsByImageId r.images
    let trackByImage ← slotTracks keypoints r.points3D fun _ _ => none
    return ⟨rows, keypoints, trackByImage⟩

end Checks

/-! ## Files

A directory maps each file to its bytes, or to nothing before it is opened. The
stream appends; `f64` refuses a number that is not finite, after the bytes in
front of it were written. -/

/-- The files of a COLMAP model. -/
inductive ModelFile where
  | cameras
  | images
  | points3D
  deriving DecidableEq, Repr

/-- The name of a file. -/
def ModelFile.label : ModelFile → String
  | .cameras => kCamerasLabel
  | .images => kImagesLabel
  | .points3D => kPoints3dLabel

/-- The directory of a model. -/
abbrev ModelDir := ModelFile → Option (List UInt8)

/-- What writes to the directory. -/
abbrev ModelWrite := Persist ModelDir ProjectError Unit

namespace ColmapBinWriter

/-- The constructor, and the check that follows it. `writable` says which files can be opened. -/
def openFile (writable : ModelFile → Bool) (file : ModelFile) : ModelWrite :=
  if writable file then Persist.write fun dir => .ok (Function.update dir file (some []))
  else Persist.fail (writerError ("cannot open " ++ file.label ++ " for writing"))

/-- The stream puts bytes at the end of its file. -/
def put (file : ModelFile) (bytes : List UInt8) : ModelWrite :=
  Persist.write fun dir => .ok (Function.update dir file (some ((dir file).getD [] ++ bytes)))

/-- `U8`. -/
def u8 (file : ModelFile) (v : UInt8) : ModelWrite := put file (leBytes 1 v.toNat)

/-- `U32`. -/
def u32 (file : ModelFile) (v : UInt32) : ModelWrite := put file (leBytes 4 v.toNat)

/-- `I32`. -/
def i32 (file : ModelFile) (v : Int32) : ModelWrite := u32 file v.toUInt32

/-- `U64`. -/
def u64 (file : ModelFile) (v : UInt64) : ModelWrite := put file (leBytes 8 v.toNat)

/-- `I64`. -/
def i64 (file : ModelFile) (v : Int64) : ModelWrite := u64 file v.toUInt64

/-- `F64`. -/
def f64 {R : Type} [DoubleBits R] (file : ModelFile) (v : R) : ModelWrite :=
  if !DoubleBits.isFinite v then
    Persist.fail (writerError "non-finite double cannot be written to a native COLMAP model")
  else u64 file (DoubleBits.toBits v)

/-- `String`: the size as 32 bits, and then all the bytes. -/
def string (file : ModelFile) (v : List UInt8) : ModelWrite := do
  u32 file (UInt32.ofNat v.length)
  put file v

end ColmapBinWriter

section Write

open ColmapBinWriter

variable {R : Type} [DoubleBits R] [Neg R] [Add R] [Sub R] [Mul R] [OfNat R 2]

/-- The record of one camera. -/
def writeCamera (plan : WritePlan R) (cam : ReconCamera R) : ModelWrite :=
  match plan.cameraRows.lookup cam.cameraId with
  | none => Persist.fail (writerError "map::at")
  | some row => do
      u32 .cameras cam.cameraId
      i32 .cameras row.modelId
      u64 .cameras cam.width.toUInt64
      u64 .cameras cam.height.toUInt64
      Persist.each (f64 .cameras) row.params

/-- One keypoint of an image. -/
def writeKeypoint (track : UInt32 → Option UInt64) (kp : Vector R 2 × Nat) : ModelWrite := do
  f64 .images (kp.1 0)
  f64 .images (kp.1 1)
  match track (UInt32.ofNat kp.2) with
  | some point3dId => i64 .images point3dId.toInt64
  | none => i64 .images (-1)

/-- The record of one image. -/
def writeImage (plan : WritePlan R) (img : ReconImage R) : ModelWrite :=
  match plan.keypoints.lookup img.imageId with
  | none => Persist.fail (writerError "map::at")
  | some kpts => do
      let (qvec, tvec) := canonicalPoseToColmap img.pose
      u32 .images img.imageId
      f64 .images (qvec 0)
      f64 .images (qvec 1)
      f64 .images (qvec 2)
      f64 .images (qvec 3)
      f64 .images (tvec 0)
      f64 .images (tvec 1)
      f64 .images (tvec 2)
      u32 .images img.cameraId
      string .images img.name
      u64 .images (UInt64.ofNat kpts.length)
      Persist.each (writeKeypoint (plan.trackByImage img.imageId)) kpts.zipIdx

/-- One element of a track. -/
def writeTrackElement (te : TrackElement) : ModelWrite := do
  u32 .points3D te.imageId
  u32 .points3D te.point2dIdx.toUInt32

/-- The record of one point before its track. -/
def writePointHead (pt : ReconPoint3D R) : ModelWrite := do
  u64 .points3D pt.point3dId
  f64 .points3D (pt.xyz 0)
  f64 .points3D (pt.xyz 1)
  f64 .points3D (pt.xyz 2)
  u8 .points3D (pt.color 0)
  u8 .points3D (pt.color 1)
  u8 .points3D (pt.color 2)
  f64 .points3D pt.error
  u64 .points3D (UInt64.ofNat pt.track.length)

/-- The record of one point. -/
def writePoint3D (pt : ReconPoint3D R) : ModelWrite := do
  writePointHead pt
  Persist.each writeTrackElement pt.track

/-- One file: the number of ids, and for each of them, in order, the first record that has it. -/
def writeRecords {α ι : Type} [DecidableEq ι] (writable : ModelFile → Bool) (file : ModelFile)
    (le : ι → ι → Bool) (id : α → ι) (records : List α) (writeRecord : α → ModelWrite) :
    ModelWrite := do
  openFile writable file
  let ids := (records.map id).mergeSort le
  u64 file (UInt64.ofNat ids.length)
  -- an id is that of some record, so the search never fails
  Persist.each writeRecord (ids.filterMap fun i => records.find? fun a => id a = i)

/-- `WriteColmapModel`. -/
def writeColmapModel (writable : ModelFile → Bool) (r : Reconstruction R)
    (keypointsByImageId : UInt32 → Option (ColmapKeypoints R)) : ModelWrite := fun dir =>
  match checkReconstruction r keypointsByImageId with
  | .error e => (.error e, dir)
  | .ok plan =>
      (do
        writeRecords writable .cameras (fun a b => decide (a ≤ b)) ReconCamera.cameraId r.cameras
          (writeCamera plan)
        writeRecords writable .images (fun a b => decide (a ≤ b)) ReconImage.imageId r.images
          (writeImage plan)
        writeRecords writable .points3D (fun a b => decide (a ≤ b)) ReconPoint3D.point3dId r.points3D
          writePoint3D) dir

end Write

end SpatialPlatform.Adapters.Colmap
