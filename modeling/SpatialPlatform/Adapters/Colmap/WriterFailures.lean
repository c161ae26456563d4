import SpatialPlatform.Adapters.Colmap.ModelChecks
import SpatialPlatform.Lib.Coordinates

/-!
# Failures of the writer

`F64` refuses numbers that are not finite, and at that point a file is open.

* `failsBeforeWriting_iff` — a reconstruction can only fail before the first
  file if, and only if, what the checks let through holds finite numbers:
  intrinsics, poses, keypoints and points are not checked.
* `infinite_focal_length_fails_late` — an infinite focal length passes the
  checks.
-/

namespace SpatialPlatform.Adapters.Colmap

open SpatialPlatform.Core SpatialPlatform.Lib SpatialPlatform.Lib.Persist ColmapBinWriter

/-! ## The numbers -/

section Numbers

variable {R : Type} [DoubleBits R]

/-- A number that `F64` accepts. -/
abbrev Finite (v : R) : Prop := DoubleBits.isFinite v = true

def FiniteIntrinsics (cam : ReconCamera R) : Prop :=
  Finite cam.fx ∧ Finite cam.fy ∧ Finite cam.cx ∧ Finite cam.cy

def FiniteKeypoints (kpts : ColmapKeypoints R) : Prop :=
  ∀ kp ∈ kpts, Finite (kp 0) ∧ Finite (kp 1)

def FinitePoint (pt : ReconPoint3D R) : Prop :=
  Finite (pt.xyz 0) ∧ Finite (pt.xyz 1) ∧ Finite (pt.xyz 2) ∧ Finite pt.error

variable [Neg R] [Add R] [Sub R] [Mul R] [OfNat R 2]

/-- The pose is finite as COLMAP has it. -/
def FinitePose (pose : ReconPose R) : Prop :=
  let qvec := (canonicalPoseToColmap pose).1
  let tvec := (canonicalPoseToColmap pose).2
  (Finite (qvec 0) ∧ Finite (qvec 1) ∧ Finite (qvec 2) ∧ Finite (qvec 3)) ∧
    Finite (tvec 0) ∧ Finite (tvec 1) ∧ Finite (tvec 2)

/-- The numbers of the three files that no check looks at are finite. -/
structure FiniteNumbers (r : Reconstruction R)
    (keypointsByImageId : UInt32 → Option (ColmapKeypoints R)) : Prop where
  intrinsics : ∀ cam ∈ r.cameras, FiniteIntrinsics cam
  images : ∀ img ∈ r.images, FinitePose img.pose ∧
    ∀ kpts, keypointsByImageId img.imageId = some kpts → FiniteKeypoints kpts
  points : ∀ pt ∈ r.points3D, FinitePoint pt

end Numbers

/-! ## The records

A program that writes a record either writes all of it or meets a number that is
not finite. Which numbers a record has follows its fields. -/

/-- A file was opened. -/
def Opened (dir : ModelDir) : Prop := dir .cameras ≠ none

theorem opened_update {dir : ModelDir} (h : Opened dir) (file : ModelFile) (bytes : List UInt8) :
    Opened (Function.update dir file (some bytes)) := by
  unfold Opened
  by_cases hfile : file = .cameras
  · subst hfile
    rw [Function.update_self]
    exact Option.some_ne_none _
  · rwa [Function.update_of_ne (Ne.symm hfile)]

theorem checks_put (file : ModelFile) (bytes : List UInt8) :
    Checks Opened (put file bytes) True :=
  fun _ hdir => ⟨⟨fun _ => True.intro, fun _ => rfl⟩, opened_update hdir file _⟩

theorem checks_string (file : ModelFile) (v : List UInt8) : Checks Opened (string file v) True :=
  ((checks_put file _).bind (checks_put file v)).congr (and_self_iff)

section Records

variable {R : Type} [DoubleBits R]

theorem checks_f64 (file : ModelFile) (v : R) : Checks Opened (f64 file v) (Finite v) := by
  unfold f64
  split
  · next h => exact (Checks.fail _).congr (by simpa using h)
  · next h => exact (checks_put file _).congr (by simpa using h)

/-- The parameters of every model are the intrinsics and then the distortion. -/
theorem params_of_cameraRecord {cam : ReconCamera R} {row : RowCamera R}
    (h : cameraRecord cam = .ok row) :
    row.params = [cam.fx, cam.fy, cam.cx, cam.cy] ++ cam.distortionCoefficients := by
  unfold cameraRecord at h
  dsimp only at h
  split at h
  · cases h
  split at h
  · split at h
    · cases h
    next hempty =>
      cases h
      rw [not_not.mp hempty, List.append_nil]
  split at h
  · split at h
    · cases h
    · cases h
      rfl
  split at h
  · split at h
    · cases h
    · cases h
      rfl
  · cases h

theorem checks_camera {plan : WritePlan R} {cam : ReconCamera R} {row : RowCamera R}
    (hlookup : plan.cameraRows.lookup cam.cameraId = some row) (hrow : cameraRecord cam = .ok row) :
    Checks Opened (writeCamera plan cam) (FiniteIntrinsics cam) := by
  have hdistortion := (cameraRecord_iff.mp ⟨row, hrow⟩).1
  have hparams : (∀ v ∈ row.params, Finite v) ↔ FiniteIntrinsics cam := by
    rw [params_of_cameraRecord hrow, List.forall_mem_append, and_iff_left hdistortion]
    simp [FiniteIntrinsics]
  unfold writeCamera
  rw [hlookup]
  refine Checks.congr ((checks_put _ _).bind ((checks_put _ _).bind ((checks_put _ _).bind
    ((checks_put _ _).bind (Checks.each fun v _ => checks_f64 _ v))))) ?_
  simpa using hparams

theorem checks_keypoint (track : UInt32 → Option UInt64) (kp : Vector R 2 × Nat) :
    Checks Opened (writeKeypoint track kp) (Finite (kp.1 0) ∧ Finite (kp.1 1)) := by
  have hrecord : ∀ v : Int64, Checks Opened
      (f64 .images (kp.1 0) >>= fun _ => f64 .images (kp.1 1) >>= fun _ => i64 .images v)
      (Finite (kp.1 0) ∧ Finite (kp.1 1)) := by
    intro v
    refine ((checks_f64 _ _).bind ((checks_f64 _ _).bind (checks_put _ _))).congr ?_
    rw [and_true]
  unfold writeKeypoint
  cases track (UInt32.ofNat kp.2) with
  | some point3dId => exact hrecord point3dId.toInt64
  | none => exact hrecord (-1)

theorem checks_point (pt : ReconPoint3D R) :
    Checks Opened (writePoint3D pt) (FinitePoint pt) := by
  have hhead : Checks Opened (writePointHead pt) (FinitePoint pt) := by
    refine Checks.congr ((checks_put _ _).bind ((checks_f64 _ _).bind ((checks_f64 _ _).bind
      ((checks_f64 _ _).bind ((checks_put _ _).bind ((checks_put _ _).bind ((checks_put _ _).bind
        ((checks_f64 _ _).bind (checks_put _ _))))))))) ?_
    simp [FinitePoint]
  have htrack : Checks Opened (each writeTrackElement pt.track) True :=
    (Checks.each fun te _ => (checks_put _ _).bind (checks_put _ _)).congr (by simp)
  exact (hhead.bind htrack).congr (by rw [and_true])

variable [Neg R] [Add R] [Sub R] [Mul R] [OfNat R 2]

theorem checks_image {plan : WritePlan R} {img : ReconImage R} {kpts : ColmapKeypoints R}
    (hlookup : plan.keypoints.lookup img.imageId = some kpts) :
    Checks Opened (writeImage plan img) (FinitePose img.pose ∧ FiniteKeypoints kpts) := by
  have hkeypoints : (∀ e ∈ kpts.zipIdx, Finite (e.1 0) ∧ Finite (e.1 1)) ↔ FiniteKeypoints kpts := by
    unfold FiniteKeypoints
    conv_rhs => rw [← List.zipIdx_map_fst 0 kpts]
    rw [List.forall_mem_map]
  unfold writeImage FinitePose
  rw [hlookup]
  refine Checks.congr ((checks_put _ _).bind ((checks_f64 _ _).bind ((checks_f64 _ _).bind
    ((checks_f64 _ _).bind ((checks_f64 _ _).bind ((checks_f64 _ _).bind ((checks_f64 _ _).bind
      ((checks_f64 _ _).bind ((checks_put _ _).bind ((checks_string _ _).bind ((checks_put _ _).bind
        (Checks.each fun kp _ => checks_keypoint _ kp)))))))))))) ?_
  rw [hkeypoints]
  simp only [true_and, and_assoc]
  exact Iff.rfl

end Records

/-! ## The files

The files are written one after the other, and the first of them is opened
before its numbers are looked at. So a model that passes the checks and has such
a number leaves a file behind. -/

/-- A file is written exactly if its records can be. -/
theorem writeRecords_iff {α ι : Type} [DecidableEq ι] {file : ModelFile} {le : ι → ι → Bool}
    {id : α → ι} {records : List α} {writeRecord : α → ModelWrite} {C : α → Prop}
    (hids : (records.map id).Nodup)
    (hwrite : ∀ a ∈ records, Checks Opened (writeRecord a) (C a)) {dir : ModelDir}
    (hdir : Opened (Function.update dir file (some []))) :
    let run := writeRecords (fun _ => true) file le id records writeRecord dir
    (run.1 = .ok () ↔ ∀ a ∈ records, C a) ∧ Opened run.2 := by
  have hbody : Checks Opened (do
      u64 file (UInt64.ofNat ((records.map id).mergeSort le).length)
      each writeRecord (sortedById le id records)) (∀ a ∈ sortedById le id records, C a) := by
    refine ((checks_put _ _).bind (Checks.each fun a ha => ?_)).congr (iff_of_eq (true_and _))
    exact hwrite a (List.mem_mergeSort.mp ha)
  have hall : (∀ a ∈ sortedById le id records, C a) ↔ ∀ a ∈ records, C a :=
    forall_congr' fun a => imp_congr_left List.mem_mergeSort
  intro run
  have hrun : run = (do
      u64 file (UInt64.ofNat ((records.map id).mergeSort le).length)
      each writeRecord (sortedById le id records) : ModelWrite)
        (Function.update dir file (some [])) := by
    rw [← records_of_ids hids]
    rfl
  rw [hrun, ← hall]
  exact hbody _ hdir

section Model

variable {R : Type} [DoubleBits R] [Neg R] [Add R] [Sub R] [Mul R] [OfNat R 2]
  {r : Reconstruction R} {keypointsByImageId : UInt32 → Option (ColmapKeypoints R)}

/-- After the checks a model is written exactly if its numbers are finite, and
the first file is there in any case. -/
theorem write_iff_of_checked {plan : WritePlan R}
    (hplan : checkReconstruction r keypointsByImageId = .ok plan) (dir : ModelDir) :
    let run := writeColmapModel (fun _ => true) r keypointsByImageId dir
    (run.1 = .ok () ↔ FiniteNumbers r keypointsByImageId) ∧ Opened run.2 := by
  have hchecked := checked_of_ok hplan
  -- after the checks only numbers are left that may stop a record
  have hcamera : ∀ cam ∈ r.cameras,
      Checks Opened (writeCamera plan cam) (FiniteIntrinsics cam) := by
    intro cam hcam
    obtain ⟨row, hlookup, hrow⟩ := lookup_cameraRows hchecked.rows hchecked.cameraIds hcam
    exact checks_camera hlookup hrow
  have himage : ∀ img ∈ r.images, Checks Opened (writeImage plan img) (FinitePose img.pose ∧
      ∀ kpts, keypointsByImageId img.imageId = some kpts → FiniteKeypoints kpts) := by
    intro img himg
    obtain ⟨kpts, hlookup, hkpts⟩ := lookup_imageKeypoints hchecked.keypoints hchecked.imageIds himg
    refine (checks_image hlookup).congr (and_congr_right fun _ => ?_)
    rw [hkpts]
    exact ⟨fun h kpts' heq => Option.some.inj heq ▸ h, fun h => h kpts rfl⟩
  have hrest : Checks Opened (do
      writeRecords (fun _ => true) .images (fun a b => decide (a ≤ b)) ReconImage.imageId r.images
        (writeImage plan)
      writeRecords (fun _ => true) .points3D (fun a b => decide (a ≤ b)) ReconPoint3D.point3dId
        r.points3D writePoint3D) _ :=
    Checks.bind
      (fun dir hdir => writeRecords_iff hchecked.imageIds himage (opened_update hdir _ _))
      (fun dir hdir => writeRecords_iff hchecked.pointIds (fun pt _ => checks_point pt)
        (opened_update hdir _ _))
  have hnumbers : FiniteNumbers r keypointsByImageId ↔ (∀ cam ∈ r.cameras, FiniteIntrinsics cam) ∧
      (∀ img ∈ r.images, FinitePose img.pose ∧
        ∀ kpts, keypointsByImageId img.imageId = some kpts → FiniteKeypoints kpts) ∧
      ∀ pt ∈ r.points3D, FinitePoint pt :=
    ⟨fun h => ⟨h.intrinsics, h.images, h.points⟩, fun h => ⟨h.1, h.2.1, h.2.2⟩⟩
  -- the first file is open before its first record
  have hopened : Opened (Function.update dir .cameras (some [])) := by
    unfold Opened
    rw [Function.update_self]
    exact Option.some_ne_none _
  intro run
  have hrun : run = (do
      writeRecords (fun _ => true) .cameras (fun a b => decide (a ≤ b)) ReconCamera.cameraId r.cameras
        (writeCamera plan)
      writeRecords (fun _ => true) .images (fun a b => decide (a ≤ b)) ReconImage.imageId r.images
        (writeImage plan)
      writeRecords (fun _ => true) .points3D (fun a b => decide (a ≤ b)) ReconPoint3D.point3dId
        r.points3D writePoint3D : ModelWrite) dir := by
    show writeColmapModel _ _ _ _ = _
    unfold writeColmapModel
    rw [hplan]
  rw [hrun, hnumbers]
  exact Checks.after (writeRecords_iff hchecked.cameraIds hcamera hopened) hrest

/-- Whenever every file can be opened, and the writer throws all the same, it
has written nothing: this holds exactly if the numbers of what passes the checks
are finite. -/
theorem failsBeforeWriting_iff :
    (∀ dir e dir', writeColmapModel (fun _ => true) r keypointsByImageId dir = (.error e, dir') →
      dir' = dir) ↔
    (Representable r keypointsByImageId → FiniteNumbers r keypointsByImageId) := by
  constructor
  · intro h hrep
    obtain ⟨plan, hplan⟩ := checkReconstruction_iff.mpr hrep
    obtain ⟨hwritten, hopened⟩ := write_iff_of_checked hplan fun _ => none
    rcases hrun : writeColmapModel (fun _ => true) r keypointsByImageId fun _ => none with
      ⟨e | ⟨⟩, dir'⟩
    · -- the first file is open when the writer throws
      rw [hrun, h _ e dir' hrun] at hopened
      exact absurd rfl hopened
    · rw [hrun] at hwritten
      exact hwritten.mp rfl
  · intro h dir e dir' hrun
    rcases hplan : checkReconstruction r keypointsByImageId with e' | plan
    · unfold writeColmapModel at hrun
      rw [hplan] at hrun
      exact (Prod.mk.inj hrun).2.symm
    · have hok := (write_iff_of_checked hplan dir).1.mpr (h (representable_of_ok hplan).1)
      rw [hrun] at hok
      cases hok

end Model

/-! A camera with an infinite focal length. -/

def infiniteFocalLength : Reconstruction Float where
  cameras := [{
    cameraId := 1
    width := 640
    height := 480
    intrinsicModel := "pinhole"
    fx := Float.ofBits 0x7ff0000000000000
    fy := Float.ofBits 0x407f400000000000
    cx := Float.ofBits 0x4074000000000000
    cy := Float.ofBits 0x406e000000000000
    distortionModel := "none" }]
  images := [{
    imageId := 1
    cameraId := 1
    name := [97]
    pose := ⟨.quadruple (Float.ofBits 0) (Float.ofBits 0) (Float.ofBits 0) (Float.ofBits 0x3ff0000000000000),
      .triple (Float.ofBits 0) (Float.ofBits 0) (Float.ofBits 0)⟩ }]

/-- One keypoint at the origin. -/
def originKeypoint : UInt32 → Option (ColmapKeypoints Float) :=
  fun _ => some [.pair (Float.ofBits 0) (Float.ofBits 0)]

/-- The checks let it through, and the writer throws in the middle of `cameras.bin`. -/
theorem infinite_focal_length_fails_late :
    ¬ ∀ dir e dir', writeColmapModel (fun _ => true) infiniteFocalLength originKeypoint dir =
      (.error e, dir') → dir' = dir := by
  intro h
  let run := writeColmapModel (fun _ => true) infiniteFocalLength originKeypoint fun _ => none
  have herror : run.1 =
      .error (writerError "non-finite double cannot be written to a native COLMAP model") := by
    decide +kernel
  have hopened : run.2 .cameras ≠ none := by decide +kernel
  rw [h (fun _ => none) _ run.2 (Prod.ext herror rfl)] at hopened
  exact hopened rfl

end SpatialPlatform.Adapters.Colmap
