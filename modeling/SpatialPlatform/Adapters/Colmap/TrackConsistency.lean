import Mathlib.Data.List.Nodup
import SpatialPlatform.Adapters.Colmap.ModelChecks

/-!
# Keypoint slots and tracks

`images.bin` and `points3D.bin` both say which point a keypoint shows.

* `consistent_iff` — the two files of an accepted reconstruction agree exactly
  when no point needs the id that stands for "no point", and no image has a
  keypoint 2^32 places behind one that is in a track.
* `sentinel_point_lost` — the keypoint of the point with the id 2^64 - 1 is
  written as unobserved.
-/

namespace SpatialPlatform.Adapters.Colmap

open SpatialPlatform.Core SpatialPlatform.Lib SpatialPlatform.Lib.Persist ColmapBinWriter

/-! ## The native model

The formats of the two files with their slots, and that each of them is
unambiguous: a file has one list of records. So a statement about the bytes is
one about these lists. -/

/-- An image of `images.bin`, with the slot of each of its keypoints. -/
structure NativeImage where
  imageId : UInt32
  slots : List Int64

def i64Format : Format UInt8 Int64 := fun run v => run = leBytes 8 v.toUInt64.toNat

/-- A name with 32 bits of its length in front of it. -/
def nameFormat (name : List UInt8) : Format UInt8 Unit := fun run _ =>
  run = leBytes 4 (UInt32.ofNat name.length).toNat ++ name

/-- A whole file. -/
def fileFormat {α : Type} (G : Format UInt8 α) : Format UInt8 (List α) :=
  u64Format.seq fun num => G.times num.toNat

section Formats

variable (R : Type) [DoubleBits R]

/-- A keypoint: its coordinates and its slot. -/
def slotFormat : Format UInt8 Int64 :=
  (f64Format (R := R)).seq fun _ => (f64Format (R := R)).seq fun _ => i64Format

/-- A record of `images.bin`. The names are known, so that a name of 2^32 bytes
or more does not hide what stands behind it. -/
def nativeImageFormat (nameOf : UInt32 → List UInt8) : Format UInt8 NativeImage :=
  u32Format.seq fun imageId =>
  (f64Format (R := R)).seq fun _ => (f64Format (R := R)).seq fun _ =>
  (f64Format (R := R)).seq fun _ => (f64Format (R := R)).seq fun _ =>
  (f64Format (R := R)).seq fun _ => (f64Format (R := R)).seq fun _ => (f64Format (R := R)).seq fun _ =>
  u32Format.seq fun _ =>
  (nameFormat (nameOf imageId)).seq fun _ =>
  u64Format.seq fun numPoints2d =>
  ((slotFormat R).times numPoints2d.toNat).seq fun slots =>
  Format.empty ⟨imageId, slots⟩

/-- Any bytes can stand in front of a reader. -/
theorem exists_reader (input : List UInt8) :
    ∃ r, binarySource.Valid r ∧ binarySource.rest r = input :=
  ⟨{ bytes := input, file := "" }, Nat.zero_le _, rfl⟩

theorem unambiguous_u32 : u32Format.Unambiguous := reads_u32.unambiguous exists_reader

theorem unambiguous_u64 : u64Format.Unambiguous := reads_u64.unambiguous exists_reader

theorem unambiguous_f64 : (f64Format (R := R)).Unambiguous := reads_f64.unambiguous exists_reader

theorem unambiguous_i64 : i64Format.Unambiguous := by
  intro run tail run' tail' v v' hinput hv hv'
  obtain ⟨bits⟩ := v
  obtain ⟨bits'⟩ := v'
  have hbits : u64Format run bits := hv
  have hbits' : u64Format run' bits' := hv'
  obtain ⟨hrun, hbits⟩ := unambiguous_u64 hinput hbits hbits'
  exact ⟨hrun, congrArg Int64.ofUInt64 hbits⟩

theorem unambiguous_name (name : List UInt8) : (nameFormat name).Unambiguous := by
  rintro _ _ _ _ _ _ - rfl rfl
  exact ⟨rfl, rfl⟩

theorem unambiguous_slot : (slotFormat R).Unambiguous :=
  (unambiguous_f64 R).seq fun _ => (unambiguous_f64 R).seq fun _ => unambiguous_i64

theorem unambiguous_nativeImage (nameOf : UInt32 → List UInt8) :
    (nativeImageFormat R nameOf).Unambiguous :=
  unambiguous_u32.seq fun _ =>
  (unambiguous_f64 R).seq fun _ => (unambiguous_f64 R).seq fun _ =>
  (unambiguous_f64 R).seq fun _ => (unambiguous_f64 R).seq fun _ =>
  (unambiguous_f64 R).seq fun _ => (unambiguous_f64 R).seq fun _ => (unambiguous_f64 R).seq fun _ =>
  unambiguous_u32.seq fun _ => (unambiguous_name _).seq fun _ => unambiguous_u64.seq fun _ =>
  ((unambiguous_slot R).times _).seq fun _ => .empty _

theorem unambiguous_point : (pointFormat (R := R)).Unambiguous :=
  reads_point.unambiguous exists_reader

/-- A file has one list of records. -/
theorem eq_of_fileFormat {α : Type} {G : Format UInt8 α} (hG : G.Unambiguous) {bytes : List UInt8}
    {values values' : List α} (h : fileFormat G bytes values) (h' : fileFormat G bytes values') :
    values = values' := by
  have hinput : bytes ++ [] = bytes ++ [] := rfl
  exact ((unambiguous_u64.seq fun num => hG.times num.toNat) hinput h h').2

end Formats

section Model

variable {R : Type}

/-- The track of the point contains the keypoint of the image. -/
def SparseModelPoint.Shows (pt : SparseModelPoint R) (imageId : UInt32) (idx : Nat) : Prop :=
  ∃ te ∈ pt.track, te.imageId = imageId ∧ te.point2dIdx.toNat = idx

/-- A slot carries a point exactly if the track of the point contains it, and
carries -1 exactly if no track does. -/
def Agree (images : List NativeImage) (points : List (SparseModelPoint R)) : Prop :=
  ∀ image ∈ images, ∀ idx slot, image.slots[idx]? = some slot →
    (∀ pt ∈ points, slot = pt.point3dId.toInt64 ↔ pt.Shows image.imageId idx) ∧
    (slot = -1 ↔ ∀ pt ∈ points, ¬ pt.Shows image.imageId idx)

/-- The name of an image. -/
def nameOf (r : Reconstruction R) (imageId : UInt32) : List UInt8 :=
  ((r.images.find? fun img => img.imageId = imageId).map ReconImage.name).getD []

/-- The two files hold records that agree. -/
def Consistent [DoubleBits R] (r : Reconstruction R) (dir : ModelDir) : Prop :=
  ∃ imagesBin points3dBin images points, dir .images = some imagesBin ∧
    dir .points3D = some points3dBin ∧
    fileFormat (nativeImageFormat R (nameOf r)) imagesBin images ∧
    fileFormat (pointFormat (R := R)) points3dBin points ∧ Agree images points

/-- The vectors have fewer than 2^64 elements. -/
structure SizesFit (r : Reconstruction R)
    (keypointsByImageId : UInt32 → Option (ColmapKeypoints R)) : Prop where
  images : r.images.length < 2 ^ 64
  points : r.points3D.length < 2 ^ 64
  tracks : ∀ pt ∈ r.points3D, pt.track.length < 2 ^ 64
  keypoints : ∀ imageId kpts, keypointsByImageId imageId = some kpts → kpts.length < 2 ^ 64

end Model

/-! ## What is written

The bytes of the writer, in these formats. -/

/-- The slot of a keypoint. -/
def slotValue : Option UInt64 → Int64
  | some point3dId => point3dId.toInt64
  | none => -1

section Written

variable {R : Type} [DoubleBits R]

theorem appends_i64 {file : ModelFile} (v : Int64) : Appends file (i64 file v) (i64Format · v) :=
  appends_put _

theorem appends_slot (track : UInt32 → Option UInt64) (kp : Vector R 2 × Nat) :
    Appends .images (writeKeypoint track kp)
      (slotFormat R · (slotValue (track (UInt32.ofNat kp.2)))) := by
  refine (appends_f64 _).seq ((appends_f64 _).seq ?_)
  cases track (UInt32.ofNat kp.2) with
  | some point3dId => exact appends_i64 _
  | none => exact appends_i64 _

theorem appends_name (name : List UInt8) : Appends .images (string .images name)
    (nameFormat name · ()) := by
  refine ((appends_u32 _).bind (appends_put name)).mono ?_
  rintro run ⟨len, bytes, rfl, rfl, rfl⟩
  rfl

/-- The slots of an image. -/
def nativeImage (plan : WritePlan R) (img : ReconImage R) : NativeImage where
  imageId := img.imageId
  slots := ((plan.keypoints.lookup img.imageId).getD []).zipIdx.map fun kp =>
    slotValue (plan.trackByImage img.imageId (UInt32.ofNat kp.2))

variable [Neg R] [Add R] [Sub R] [Mul R] [OfNat R 2]

theorem appends_nativeImage {plan : WritePlan R} {img : ReconImage R} {kpts : ColmapKeypoints R}
    {nameOf : UInt32 → List UInt8} (hkpts : plan.keypoints.lookup img.imageId = some kpts)
    (hcount : kpts.length < 2 ^ 64) (hname : nameOf img.imageId = img.name) :
    Appends .images (writeImage plan img) (nativeImageFormat R nameOf · (nativeImage plan img)) := by
  have hlen : (UInt64.ofNat kpts.length).toNat = kpts.zipIdx.length := by
    rw [UInt64.toNat_ofNat', Nat.mod_eq_of_lt hcount, List.length_zipIdx]
  have hstring : Appends .images (string .images img.name)
      (nameFormat (nameOf img.imageId) · ()) := by
    rw [hname]
    exact appends_name img.name
  unfold writeImage
  rw [hkpts]
  refine (appends_u32 _).seq ((appends_f64 _).seq ((appends_f64 _).seq ((appends_f64 _).seq
    ((appends_f64 _).seq ((appends_f64 _).seq ((appends_f64 _).seq ((appends_f64 _).seq
    ((appends_u32 _).seq (hstring.seq ((appends_u64 _).seq ?_))))))))))
  refine Appends.last (hlen ▸ Appends.each fun kp _ => appends_slot _ kp) ⟨rfl, ?_⟩
  unfold nativeImage
  rw [hkpts]
  rfl

variable {writable : ModelFile → Bool} {r : Reconstruction R}
  {keypointsByImageId : UInt32 → Option (ColmapKeypoints R)} {dir dir' : ModelDir}

/-- The images and points of the two files. -/
theorem files_of_ok {plan : WritePlan R} (hfit : SizesFit r keypointsByImageId)
    (hplan : checkReconstruction r keypointsByImageId = .ok plan)
    (hwrite : writeColmapModel writable r keypointsByImageId dir = (.ok (), dir')) :
    ∃ imagesBin points3dBin, dir' .images = some imagesBin ∧ dir' .points3D = some points3dBin ∧
      fileFormat (nativeImageFormat R (nameOf r)) imagesBin
        ((sortedById (fun a b => decide (a ≤ b)) ReconImage.imageId r.images).map
          (nativeImage plan)) ∧
      fileFormat (pointFormat (R := R)) points3dBin
        ((sortedById (fun a b => decide (a ≤ b)) ReconPoint3D.point3dId r.points3D).map
          writtenPoint) := by
  unfold writeColmapModel at hwrite
  rw [hplan] at hwrite
  have hchecked := checked_of_ok hplan
  obtain ⟨_, dir₁, -, hwrite⟩ := Persist.bind_eq_ok hwrite
  obtain ⟨_, dir₂, himages, hpoints⟩ := Persist.bind_eq_ok hwrite
  -- a record of each image, in the native format
  have himage : ∀ img ∈ r.images, Appends .images (writeImage plan img)
      (nativeImageFormat R (nameOf r) · (nativeImage plan img)) := by
    intro img himg
    obtain ⟨kpts, hlookup, hkpts⟩ := lookup_imageKeypoints hchecked.keypoints hchecked.imageIds himg
    refine appends_nativeImage hlookup (hfit.keypoints _ _ hkpts) ?_
    unfold nameOf
    rw [find_of_nodup hchecked.imageIds himg]
    rfl
  obtain ⟨imageRun, himageRun, rfl⟩ := writeRecords_ok hchecked.imageIds himage himages
  obtain ⟨pointRun, hpointRun, rfl⟩ := writeRecords_ok hchecked.pointIds
    (fun pt hpt => appends_point (hfit.tracks pt hpt)) hpoints
  -- the count in front of the records fits 64 bits
  have hfile : ∀ {α : Type} {G : Format UInt8 α} {n : Nat} {run : List UInt8} {values : List α},
      n < 2 ^ 64 → G.times n run values →
      fileFormat G (leBytes 8 (UInt64.ofNat n).toNat ++ run) values := by
    intro α G n run values hn hrun
    refine ⟨_, run, UInt64.ofNat n, rfl, rfl, ?_⟩
    show G.times (UInt64.ofNat n).toNat run values
    rwa [UInt64.toNat_ofNat', Nat.mod_eq_of_lt hn]
  refine ⟨_, _, ?_, Function.update_self .., hfile hfit.images himageRun,
    hfile hfit.points hpointRun⟩
  rw [Function.update_of_ne (by decide), Function.update_self]

end Written

/-! ## Agreement

The two files are compared slot by slot. A slot says which point it carries, a
track says which slots it has; after the checks the two differ only where an id
or an index is mistaken for another one, and `SlotsDistinct` says when that
cannot be. -/

section Agreement

variable {R : Type}

/-- The track of the point contains the keypoint of the image. -/
def Tracks (pt : ReconPoint3D R) (imageId : UInt32) (idx : Nat) : Prop :=
  ∃ te ∈ pt.track, te.imageId = imageId ∧ te.point2dIdx.toUInt32.toNat = idx

theorem shows_writtenPoint {pt : ReconPoint3D R} {imageId : UInt32} {idx : Nat} :
    (writtenPoint pt).Shows imageId idx ↔ Tracks pt imageId idx := by
  unfold SparseModelPoint.Shows Tracks writtenPoint
  simp only [List.mem_map, exists_exists_and_eq_and]

theorem Tracks.lt {pt : ReconPoint3D R} {imageId : UInt32} {idx : Nat} (h : Tracks pt imageId idx) :
    idx < 2 ^ 32 := by
  obtain ⟨te, -, -, rfl⟩ := h
  exact te.point2dIdx.toUInt32.toNat_lt

theorem toInt64_inj {p q : UInt64} : p.toInt64 = q.toInt64 ↔ p = q :=
  ⟨fun h => congrArg Int64.toUInt64 h, fun h => congrArg _ h⟩

/-- The id whose bits are those of -1. -/
theorem toInt64_eq_neg_one {p : UInt64} : p.toInt64 = -1 ↔ p = 0xffffffffffffffff := by
  rw [show (-1 : Int64) = (0xffffffffffffffff : UInt64).toInt64 from rfl, toInt64_inj]

/-- What agreement says of one slot. -/
def SlotAgrees (points : List (ReconPoint3D R)) (imageId : UInt32) (idx : Nat) (slot : Int64) :
    Prop :=
  (∀ pt ∈ points, slot = pt.point3dId.toInt64 ↔ Tracks pt imageId idx) ∧
    (slot = -1 ↔ ∀ pt ∈ points, ¬ Tracks pt imageId idx)

variable {slots : TrackByImage} {points : List (ReconPoint3D R)}

theorem slot_of_tracks (hfills : Fills slots (trackElements points)) {pt : ReconPoint3D R}
    (hpt : pt ∈ points) {imageId : UInt32} {idx : Nat} (h : Tracks pt imageId idx) :
    slots imageId (UInt32.ofNat idx) = some pt.point3dId := by
  obtain ⟨te, hte, rfl, rfl⟩ := h
  rw [UInt32.ofNat_toNat]
  refine (hfills _ _ _).mpr ⟨te, ?_, rfl⟩
  exact List.mem_flatMap.mpr ⟨pt, hpt, List.mem_map_of_mem hte⟩

theorem tracks_of_slot (hfills : Fills slots (trackElements points)) {imageId idx : UInt32}
    {p : UInt64} (h : slots imageId idx = some p) :
    ∃ pt ∈ points, pt.point3dId = p ∧ Tracks pt imageId idx.toNat := by
  obtain ⟨te, hte, hslot⟩ := (hfills _ _ _).mp h
  obtain ⟨pt, hpt, hmap⟩ := List.mem_flatMap.mp hte
  obtain ⟨te', hte', heq⟩ := List.mem_map.mp hmap
  obtain ⟨rfl, rfl⟩ := Prod.mk.inj heq
  obtain ⟨rfl, rfl⟩ := Prod.mk.inj hslot
  exact ⟨pt, hpt, rfl, te', hte', rfl, rfl⟩

/-- The slot of a keypoint that is in a track agrees with it unless it belongs
to another keypoint or the point has the id of no point. -/
theorem slotAgrees_some (hfills : Fills slots (trackElements points))
    (hids : (points.map ReconPoint3D.point3dId).Nodup) {imageId : UInt32} {idx : Nat} {p : UInt64}
    (h : slots imageId (UInt32.ofNat idx) = some p) :
    SlotAgrees points imageId idx p.toInt64 ↔ idx < 2 ^ 32 ∧ p ≠ 0xffffffffffffffff := by
  obtain ⟨pt, hpt, rfl, htracks⟩ := tracks_of_slot hfills h
  constructor
  · intro hagrees
    have hidx : Tracks pt imageId idx := (hagrees.1 pt hpt).mp rfl
    exact ⟨hidx.lt, fun hp => hagrees.2.mp (toInt64_eq_neg_one.mpr hp) pt hpt hidx⟩
  · rintro ⟨hlt, hne⟩
    rw [UInt32.toNat_ofNat', Nat.mod_eq_of_lt hlt] at htracks
    refine ⟨fun pt' hpt' => ?_, fun hslot => absurd (toInt64_eq_neg_one.mp hslot) hne,
      fun hnone => absurd htracks (hnone pt hpt)⟩
    rw [toInt64_inj]
    constructor
    · intro hid
      obtain rfl := List.inj_on_of_nodup_map hids hpt hpt' hid
      exact htracks
    · intro htracks'
      exact Option.some.inj (h.symm.trans (slot_of_tracks hfills hpt' htracks'))

/-- The slot of a keypoint that is in no track agrees with that unless -1 is a point. -/
theorem slotAgrees_none (hfills : Fills slots (trackElements points)) {imageId : UInt32} {idx : Nat}
    (h : slots imageId (UInt32.ofNat idx) = none) :
    SlotAgrees points imageId idx (-1) ↔ ∀ pt ∈ points, pt.point3dId ≠ 0xffffffffffffffff := by
  have hnone : ∀ pt ∈ points, ¬ Tracks pt imageId idx := by
    intro pt hpt htracks
    rw [slot_of_tracks hfills hpt htracks] at h
    cases h
  constructor
  · intro hagrees pt hpt hid
    exact hnone pt hpt ((hagrees.1 pt hpt).mp (toInt64_eq_neg_one.mpr hid).symm)
  · intro hids
    refine ⟨fun pt hpt => ⟨fun heq => ?_, fun htracks => absurd htracks (hnone pt hpt)⟩,
      fun _ => hnone, fun _ => rfl⟩
    exact absurd (toInt64_eq_neg_one.mp heq.symm) (hids pt hpt)

/-- Nothing is written in place of something else: if a point has the id that
stands for no point, it has no track, and every keypoint is in one; and 32 bits
tell every keypoint from those in tracks. -/
structure SlotsDistinct (r : Reconstruction R)
    (keypointsByImageId : UInt32 → Option (ColmapKeypoints R)) : Prop where
  sentinel : ∀ pt ∈ r.points3D, pt.point3dId = 0xffffffffffffffff → pt.track = [] ∧
    ∀ img ∈ r.images, ∀ kpts, keypointsByImageId img.imageId = some kpts → ∀ idx < kpts.length,
      ∃ pt' ∈ r.points3D, Tracks pt' img.imageId idx
  wrap : ∀ pt ∈ r.points3D, ∀ te ∈ pt.track, ∀ kpts, keypointsByImageId te.imageId = some kpts →
    kpts.length ≤ te.point2dIdx.toUInt32.toNat + 2 ^ 32

variable [DoubleBits R] {r : Reconstruction R}
  {keypointsByImageId : UInt32 → Option (ColmapKeypoints R)}

theorem toNat_toUInt32 {v : Int32} (h : 0 ≤ v) : v.toUInt32.toNat = v.toInt.toNat := by
  have hle : 0 ≤ v.toInt := Int32.le_iff_toInt_le.mp h
  have hbits : v.toInt = v.toBitVec.toInt := rfl
  have hlt := v.toBitVec.isLt
  have hnat : v.toUInt32.toNat = v.toBitVec.toNat := rfl
  rw [hbits, BitVec.toInt_eq_toNat_cond] at hle ⊢
  split at hle <;> omega

/-- The image and the keypoint that an element of a track names. -/
theorem keypoint_of_track (hrep : Representable r keypointsByImageId) {pt : ReconPoint3D R}
    (hpt : pt ∈ r.points3D) {te : TrackElement} (hte : te ∈ pt.track) :
    ∃ img ∈ r.images, img.imageId = te.imageId ∧ ∃ kpts,
      keypointsByImageId te.imageId = some kpts ∧ te.point2dIdx.toUInt32.toNat < kpts.length := by
  obtain ⟨himage, kpts, hkpts, hle, hlt⟩ := hrep.inRange pt hpt te hte
  obtain ⟨img, himg, himageId⟩ := List.mem_map.mp himage
  exact ⟨img, himg, himageId, kpts, hkpts, by rwa [toNat_toUInt32 hle]⟩

theorem slotsAgree_iff (hrep : Representable r keypointsByImageId)
    (hfills : Fills slots (trackElements r.points3D)) :
    (∀ img ∈ r.images, ∀ kpts, keypointsByImageId img.imageId = some kpts → ∀ idx < kpts.length,
      SlotAgrees r.points3D img.imageId idx
        (slotValue (slots img.imageId (UInt32.ofNat idx)))) ↔
    SlotsDistinct r keypointsByImageId := by
  constructor
  · intro hagree
    refine ⟨fun pt hpt hid => ⟨?_, fun img himg kpts hkpts idx hidx => ?_⟩,
      fun pt hpt te hte kpts hkpts => ?_⟩
    · -- a keypoint of this point would be written as unobserved
      rw [List.eq_nil_iff_forall_not_mem]
      intro te hte
      obtain ⟨img, himg, himage, kpts, hkpts, hlt⟩ := keypoint_of_track hrep hpt hte
      have hslot := slot_of_tracks hfills hpt ⟨te, hte, rfl, rfl⟩
      have hagrees := hagree img himg kpts (himage ▸ hkpts) _ hlt
      rw [himage, hslot] at hagrees
      exact ((slotAgrees_some hfills hrep.pointIds hslot).mp hagrees).2 hid
    · -- an unobserved keypoint would be one of this point
      have hagrees := hagree img himg kpts hkpts idx hidx
      rcases hslot : slots img.imageId (UInt32.ofNat idx) with _ | p
      · rw [hslot] at hagrees
        exact absurd hid ((slotAgrees_none hfills hslot).mp hagrees pt hpt)
      · rw [hslot] at hagrees
        have hlt := ((slotAgrees_some hfills hrep.pointIds hslot).mp hagrees).1
        obtain ⟨pt', hpt', -, htracks⟩ := tracks_of_slot hfills hslot
        rw [UInt32.toNat_ofNat', Nat.mod_eq_of_lt hlt] at htracks
        exact ⟨pt', hpt', htracks⟩
    · -- a keypoint 2^32 places behind one of the point would be written as its keypoint too
      by_contra hlong
      obtain ⟨img, himg, himage, -⟩ := keypoint_of_track hrep hpt hte
      have hslot := slot_of_tracks hfills hpt ⟨te, hte, rfl, rfl⟩
      have hsame : UInt32.ofNat (te.point2dIdx.toUInt32.toNat + 2 ^ 32) =
          UInt32.ofNat te.point2dIdx.toUInt32.toNat := by
        apply UInt32.toNat_inj.mp
        rw [UInt32.toNat_ofNat', UInt32.toNat_ofNat', Nat.add_mod_right]
      have hagrees := hagree img himg kpts (himage ▸ hkpts) (te.point2dIdx.toUInt32.toNat + 2 ^ 32)
        (by omega)
      rw [himage, hsame, hslot] at hagrees
      rw [← hsame] at hslot
      have hlt := ((slotAgrees_some hfills hrep.pointIds hslot).mp hagrees).1
      omega
  · intro h img himg kpts hkpts idx hidx
    rcases hslot : slots img.imageId (UInt32.ofNat idx) with _ | p
    · refine (slotAgrees_none hfills hslot).mpr fun pt hpt hid => ?_
      obtain ⟨pt', hpt', htracks⟩ := (h.sentinel pt hpt hid).2 img himg kpts hkpts idx hidx
      rw [slot_of_tracks hfills hpt' htracks] at hslot
      cases hslot
    · obtain ⟨pt, hpt, rfl, te, hte, himage, hte'⟩ := tracks_of_slot hfills hslot
      refine (slotAgrees_some hfills hrep.pointIds hslot).mpr ⟨?_, fun hid => ?_⟩
      · have hle := h.wrap pt hpt te hte kpts (himage ▸ hkpts)
        rw [hte', UInt32.toNat_ofNat'] at hle
        omega
      · rw [(h.sentinel pt hpt hid).1] at hte
        cases hte

end Agreement

/-! ## The files

Back from slots to bytes. -/

section Files

variable {R : Type} [DoubleBits R] [Neg R] [Add R] [Sub R] [Mul R] [OfNat R 2]
  {writable : ModelFile → Bool} {r : Reconstruction R}
  {keypointsByImageId : UInt32 → Option (ColmapKeypoints R)} {dir dir' : ModelDir}

omit [Neg R] [Add R] [Sub R] [Mul R] [OfNat R 2] in
/-- The records of the two files agree exactly if each slot does. -/
theorem agree_iff {plan : WritePlan R} (hchecked : Checked r keypointsByImageId plan) :
    Agree ((sortedById (fun a b => decide (a ≤ b)) ReconImage.imageId r.images).map
        (nativeImage plan))
      ((sortedById (fun a b => decide (a ≤ b)) ReconPoint3D.point3dId r.points3D).map
        writtenPoint) ↔
    ∀ img ∈ r.images, ∀ kpts, keypointsByImageId img.imageId = some kpts → ∀ idx < kpts.length,
      SlotAgrees r.points3D img.imageId idx
        (slotValue (plan.trackByImage img.imageId (UInt32.ofNat idx))) := by
  -- the slots of an image are its keypoints, in their order
  have hslots : ∀ img ∈ r.images, ∀ kpts, keypointsByImageId img.imageId = some kpts →
      ∀ idx slot, (nativeImage plan img).slots[idx]? = some slot ↔ idx < kpts.length ∧
        slotValue (plan.trackByImage img.imageId (UInt32.ofNat idx)) = slot := by
    intro img himg kpts hkpts idx slot
    obtain ⟨kpts', hlookup, hkpts'⟩ :=
      lookup_imageKeypoints hchecked.keypoints hchecked.imageIds himg
    obtain rfl := Option.some.inj (hkpts.symm.trans hkpts')
    simp only [nativeImage, hlookup, Option.getD_some, List.getElem?_map, List.getElem?_zipIdx,
      Nat.zero_add]
    rcases Nat.lt_or_ge idx kpts.length with hlt | hge
    · simp [hlt]
    · simp [hge]
  have hmem : ∀ pt, pt ∈ sortedById (fun a b => decide (a ≤ b)) ReconPoint3D.point3dId r.points3D ↔
      pt ∈ r.points3D := fun pt => List.mem_mergeSort
  constructor
  · intro hagree img himg kpts hkpts idx hidx
    have himage : nativeImage plan img ∈
        (sortedById (fun a b => decide (a ≤ b)) ReconImage.imageId r.images).map
          (nativeImage plan) :=
      List.mem_map_of_mem (List.mem_mergeSort.mpr himg)
    obtain ⟨hpoints, hnone⟩ := hagree _ himage idx _ ((hslots img himg kpts hkpts idx _).mpr
      ⟨hidx, rfl⟩)
    simp only [List.forall_mem_map, shows_writtenPoint, hmem] at hpoints hnone
    exact ⟨hpoints, hnone⟩
  · intro hall image himage idx slot hslot
    obtain ⟨img, himg, rfl⟩ := List.mem_map.mp himage
    have himg := List.mem_mergeSort.mp himg
    obtain ⟨kpts, -, hkpts⟩ := lookup_imageKeypoints hchecked.keypoints hchecked.imageIds himg
    obtain ⟨hidx, rfl⟩ := (hslots img himg kpts hkpts idx slot).mp hslot
    have h := hall img himg kpts hkpts idx hidx
    simp only [List.forall_mem_map, shows_writtenPoint, hmem]
    exact h

/-- The two files agree exactly if each slot does. -/
theorem consistent_iff_slots {plan : WritePlan R} (hfit : SizesFit r keypointsByImageId)
    (hplan : checkReconstruction r keypointsByImageId = .ok plan)
    (hwrite : writeColmapModel writable r keypointsByImageId dir = (.ok (), dir')) :
    Consistent r dir' ↔
      ∀ img ∈ r.images, ∀ kpts, keypointsByImageId img.imageId = some kpts → ∀ idx < kpts.length,
        SlotAgrees r.points3D img.imageId idx
          (slotValue (plan.trackByImage img.imageId (UInt32.ofNat idx))) := by
  obtain ⟨imagesBin, points3dBin, himages, hpoints, himageFile, hpointFile⟩ :=
    files_of_ok hfit hplan hwrite
  rw [← agree_iff (checked_of_ok hplan)]
  constructor
  · rintro ⟨_, _, images, points, himages', hpoints', himageFile', hpointFile', hagree⟩
    obtain rfl := Option.some.inj (himages.symm.trans himages')
    obtain rfl := Option.some.inj (hpoints.symm.trans hpoints')
    rwa [eq_of_fileFormat (unambiguous_nativeImage R _) himageFile himageFile',
      eq_of_fileFormat (unambiguous_point R) hpointFile hpointFile']
  · intro hagree
    exact ⟨imagesBin, points3dBin, _, _, himages, hpoints, himageFile, hpointFile, hagree⟩

/-- What the writer checked before it wrote. -/
theorem checked_of_written
    (hwrite : writeColmapModel writable r keypointsByImageId dir = (.ok (), dir')) :
    ∃ plan, checkReconstruction r keypointsByImageId = .ok plan := by
  unfold writeColmapModel at hwrite
  split at hwrite
  · cases hwrite
  · next plan hplan => exact ⟨plan, hplan⟩

/-- The model of an accepted reconstruction is consistent exactly if its slots are distinct. -/
theorem consistent_iff (hfit : SizesFit r keypointsByImageId)
    (hwrite : writeColmapModel writable r keypointsByImageId dir = (.ok (), dir')) :
    Consistent r dir' ↔ SlotsDistinct r keypointsByImageId := by
  obtain ⟨plan, hplan⟩ := checked_of_written hwrite
  obtain ⟨hrep, hfills⟩ := representable_of_ok hplan
  rw [consistent_iff_slots hfit hplan hwrite, slotsAgree_iff hrep hfills]

end Files

/-! One image with one keypoint, and a point that it shows. -/

def seenPoint (point3dId : UInt64) : Reconstruction Float where
  cameras := [{
    cameraId := 1
    width := 640
    height := 480
    intrinsicModel := "pinhole"
    fx := Float.ofBits 0x407f400000000000
    fy := Float.ofBits 0x407f400000000000
    cx := Float.ofBits 0x4074000000000000
    cy := Float.ofBits 0x406e000000000000
    distortionModel := "none" }]
  images := [{
    imageId := 1
    cameraId := 1
    name := [97]
    pose := ⟨#v[Float.ofBits 0, Float.ofBits 0, Float.ofBits 0, Float.ofBits 0x3ff0000000000000],
      #v[Float.ofBits 0, Float.ofBits 0, Float.ofBits 0]⟩ }]
  points3D := [{
    point3dId := point3dId
    xyz := #v[Float.ofBits 0, Float.ofBits 0, Float.ofBits 0x3ff0000000000000]
    color := #v[0, 0, 0]
    error := Float.ofBits 0
    track := [⟨1, 0⟩] }]

/-- One keypoint at the origin. -/
def oneOrigin : UInt32 → Option (ColmapKeypoints Float) :=
  fun _ => some [#v[Float.ofBits 0, Float.ofBits 0]]

/-- The directory after `WriteColmapModel`. -/
def seenPointDir (point3dId : UInt64) : ModelDir :=
  (writeColmapModel (fun _ => true) (seenPoint point3dId) oneOrigin fun _ => none).2

theorem seenPoint_sizesFit (point3dId : UInt64) : SizesFit (seenPoint point3dId) oneOrigin where
  images := by show 1 < _; decide
  points := by show 1 < _; decide
  tracks pt hpt := by
    obtain rfl := List.mem_singleton.mp hpt
    show 1 < _
    decide
  keypoints _ kpts h := by
    cases h
    decide

theorem slotsDistinct_seven : SlotsDistinct (seenPoint 7) oneOrigin where
  sentinel pt hpt hid := by
    obtain rfl := List.mem_singleton.mp hpt
    exact absurd hid (by decide)
  wrap pt _ te _ kpts hkpts := by
    cases hkpts
    exact Nat.le_add_left_of_le (by decide)

/-- Any other id is written so that both files tell the same. -/
theorem consistent_seven : Consistent (seenPoint 7) (seenPointDir 7) := by
  have hwrite : writeColmapModel (fun _ => true) (seenPoint 7) oneOrigin (fun _ => none) =
      (.ok (), seenPointDir 7) := Prod.ext (by decide +kernel) rfl
  exact (consistent_iff (seenPoint_sizesFit 7) hwrite).mpr slotsDistinct_seven

/-- A point with the id 2^64 - 1 is accepted, and its keypoint is written with the slot -1. -/
theorem sentinel_point_lost :
    let id : UInt64 := 0xffffffffffffffff
    writeColmapModel (fun _ => true) (seenPoint id) oneOrigin (fun _ => none) =
        (.ok (), seenPointDir id) ∧
      ¬ Consistent (seenPoint id) (seenPointDir id) := by
  intro id
  have hwrite : writeColmapModel (fun _ => true) (seenPoint id) oneOrigin (fun _ => none) =
      (.ok (), seenPointDir id) := Prod.ext (by decide +kernel) rfl
  refine ⟨hwrite, fun hconsistent => ?_⟩
  obtain ⟨plan, hplan⟩ := checked_of_written hwrite
  obtain ⟨hrep, hfills⟩ := representable_of_ok hplan
  have hslots := (consistent_iff_slots (seenPoint_sizesFit id) hplan hwrite).mp hconsistent
  obtain ⟨htrack, -⟩ := ((slotsAgree_iff hrep hfills).mp hslots).sentinel _
    (List.mem_singleton_self _) rfl
  cases htrack

end SpatialPlatform.Adapters.Colmap
