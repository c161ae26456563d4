import SpatialPlatform.Adapters.Colmap.RoundTrip
import SpatialPlatform.Lib.Coordinates

/-!
# What the writer accepts

`WriteColmapModel` checks a reconstruction before it opens a file.
`checkReconstruction_iff` states the checks as one condition, `Representable`;
`Fills` says which keypoint slots the loop over the tracks gives to which
points.
-/

namespace SpatialPlatform.Adapters.Colmap

open SpatialPlatform.Core SpatialPlatform.Lib

variable {R : Type} [DoubleBits R]

/-! ## Cameras and names

Each check is turned into what it asks for: the rows of cameras by induction
over the cameras, the names by induction over the images with the names that
were seen before. -/

/-- The cameras that a native record can hold. -/
def SupportedModel (cam : ReconCamera R) : Prop :=
  (∀ v ∈ cam.distortionCoefficients, DoubleBits.isFinite v = true) ∧
    ((cam.intrinsicModel = "pinhole" ∧ cam.distortionModel = "none") ∧
        cam.distortionCoefficients = [] ∨
      (cam.intrinsicModel = "opencv" ∧ cam.distortionModel = "opencv_radial") ∧
        cam.distortionCoefficients.length = 4 ∨
      (cam.intrinsicModel = "opencv_fisheye" ∧ cam.distortionModel = "opencv_fisheye") ∧
        cam.distortionCoefficients.length = 4)

theorem exists_guard_ok {ε α : Type} {c : Prop} [Decidable c] {e : ε} {a : α} :
    (∃ b, (if c then .error e else .ok a : Except ε α) = .ok b) ↔ ¬ c := by
  split
  · next h => exact ⟨fun ⟨_, h⟩ => (nomatch h), fun hnot => absurd h hnot⟩
  · next h => exact ⟨fun _ => h, fun _ => ⟨a, rfl⟩⟩

theorem cameraRecord_iff {cam : ReconCamera R} :
    (∃ row, cameraRecord cam = .ok row) ↔ SupportedModel cam := by
  unfold cameraRecord SupportedModel
  rw [← List.all_eq_true]
  dsimp only
  split
  · next h => exact ⟨fun ⟨_, h⟩ => (nomatch h), fun hall => by simp [hall.1] at h⟩
  next h =>
  have hfinite : cam.distortionCoefficients.all DoubleBits.isFinite = true := by simpa using h
  split
  · next hmodel =>
      rw [exists_guard_ok]
      grind
  split
  · next hmodel =>
      rw [exists_guard_ok]
      grind
  split
  · next hmodel =>
      rw [exists_guard_ok]
      grind
  · exact ⟨fun ⟨_, h⟩ => (nomatch h), fun hall => by grind⟩

theorem cameraRows_iff {cameras : List (ReconCamera R)} :
    (∃ rows, cameraRows cameras = .ok rows) ↔
      ∀ cam ∈ cameras, 0 ≤ cam.width ∧ 0 ≤ cam.height ∧ SupportedModel cam := by
  induction cameras with
  | nil => exact iff_of_true ⟨[], rfl⟩ (List.forall_mem_nil _)
  | cons c cameras ih =>
      unfold cameraRows
      rw [List.forall_mem_cons, ← ih, ← cameraRecord_iff]
      split
      · next h =>
          have hneg : ¬ (0 ≤ c.width ∧ 0 ≤ c.height) := by grind
          refine iff_of_false ?_ fun h => hneg ⟨h.1.1, h.1.2.1⟩
          rintro ⟨_, hrows⟩
          cases hrows
      · next h =>
          have hpos : 0 ≤ c.width ∧ 0 ≤ c.height := by grind
          rw [exists_bind_ok]
          constructor
          · rintro ⟨row, hrow, h⟩
            obtain ⟨rows, hrows, -⟩ := exists_bind_ok.mp h
            exact ⟨⟨hpos.1, hpos.2, row, hrow⟩, rows, hrows⟩
          · rintro ⟨⟨-, -, row, hrow⟩, rows, hrows⟩
            exact ⟨row, hrow, exists_bind_ok.mpr ⟨rows, hrows, _, rfl⟩⟩

omit [DoubleBits R] in
theorem checkNames_iff {seen : List (List UInt8)} {images : List (ReconImage R)} :
    checkNames seen images = .ok () ↔
      (∀ img ∈ images, img.name ≠ [] ∧ img.name ∉ seen) ∧ (images.map ReconImage.name).Nodup := by
  induction images generalizing seen with
  | nil => exact iff_of_true rfl ⟨List.forall_mem_nil _, List.nodup_nil⟩
  | cons i images ih =>
      unfold checkNames
      rw [List.forall_mem_cons, List.map_cons, List.nodup_cons]
      split
      · next h =>
          refine iff_of_false ?_ fun hall => hall.1.1.1 h
          intro hnames
          cases hnames
      split
      · next h =>
          refine iff_of_false ?_ fun hall => hall.1.1.2 h
          intro hnames
          cases hnames
      next hname hseen =>
      rw [ih]
      simp only [List.mem_cons, not_or, List.mem_map, not_exists, not_and]
      constructor
      · rintro ⟨hrest, hnodup⟩
        exact ⟨⟨⟨hname, hseen⟩, fun img himg => ⟨(hrest img himg).1, (hrest img himg).2.2⟩⟩,
          fun img himg => (hrest img himg).2.1, hnodup⟩
      · rintro ⟨⟨-, hrest⟩, hne, hnodup⟩
        exact ⟨fun img himg => ⟨(hrest img himg).1, hne img himg, (hrest img himg).2⟩, hnodup⟩

/-! ## Keypoints

The map from images to keypoints is built by a loop over the images; both lemmas
are inductions over them. -/

/-- Keypoints that the checks let through. -/
def UsableKeypoints (kpts : ColmapKeypoints R) : Prop :=
  kpts ≠ [] ∧ ∀ kp ∈ kpts, DoubleBits.isNaN (kp 0) = false ∧ DoubleBits.isNaN (kp 1) = false

variable {keypointsByImageId : UInt32 → Option (ColmapKeypoints R)}

theorem imageKeypoints_iff {images : List (ReconImage R)} :
    (∃ keypoints, imageKeypoints keypointsByImageId images = .ok keypoints) ↔
      ∀ img ∈ images, ∃ kpts, keypointsByImageId img.imageId = some kpts ∧ UsableKeypoints kpts := by
  induction images with
  | nil => exact ⟨fun _ _ h => (nomatch h), fun _ => ⟨[], rfl⟩⟩
  | cons i images ih =>
      unfold imageKeypoints
      rw [List.forall_mem_cons, ← ih]
      dsimp only
      split
      -- an image without keypoints ends the loop
      · next hnone =>
          refine ⟨fun ⟨_, h⟩ => (nomatch h), ?_⟩
          rintro ⟨⟨kpts, hkpts, -⟩, -⟩
          rw [hnone] at hkpts
          cases hkpts
      next kpts hkpts =>
      have husable : (∃ kpts, keypointsByImageId i.imageId = some kpts ∧ UsableKeypoints kpts) ↔
          UsableKeypoints kpts := by
        rw [hkpts]
        exact ⟨fun ⟨_, heq, h⟩ => Option.some.inj heq ▸ h, fun h => ⟨kpts, rfl, h⟩⟩
      rw [husable]
      split
      · next h => exact ⟨fun ⟨_, h⟩ => (nomatch h), fun hall => absurd h hall.1.1⟩
      split
      · next h =>
          refine ⟨fun ⟨_, h⟩ => (nomatch h), fun hall => ?_⟩
          obtain ⟨kp, hkp, hnan⟩ := List.any_eq_true.mp h
          obtain ⟨h0, h1⟩ := hall.1.2 kp hkp
          rw [h0, h1] at hnan
          cases hnan
      next hne hany =>
      have hkpts : UsableKeypoints kpts := by
        refine ⟨hne, fun kp hkp => ?_⟩
        have hnan := fun h => hany (List.any_eq_true.mpr ⟨kp, hkp, h⟩)
        simpa using hnan
      rw [exists_bind_ok]
      exact ⟨fun ⟨keypoints, h, _⟩ => ⟨hkpts, keypoints, h⟩,
        fun ⟨_, keypoints, h⟩ => ⟨keypoints, h, _, rfl⟩⟩

/-- Only the images of the reconstruction have keypoints. -/
theorem mem_of_lookup {images : List (ReconImage R)}
    {keypoints : List (UInt32 × ColmapKeypoints R)} {imageId : UInt32} {kpts : ColmapKeypoints R}
    (h : imageKeypoints keypointsByImageId images = .ok keypoints)
    (hlookup : keypoints.lookup imageId = some kpts) :
    imageId ∈ images.map ReconImage.imageId ∧ keypointsByImageId imageId = some kpts := by
  induction images generalizing keypoints with
  | nil =>
      cases h
      cases hlookup
  | cons i images ih =>
      unfold imageKeypoints at h
      dsimp only at h
      split at h
      · cases h
      rename_i kpts' hkpts'
      split at h
      · cases h
      split at h
      · cases h
      obtain ⟨rest, hrest, h⟩ := Core.bind_eq_ok h
      cases h
      rw [List.map_cons, List.mem_cons]
      by_cases heq : imageId = i.imageId
      · subst heq
        rw [List.lookup_cons_self] at hlookup
        cases hlookup
        exact ⟨.inl rfl, hkpts'⟩
      · rw [List.lookup_cons, beq_false_of_ne heq] at hlookup
        obtain ⟨hmem, hkpts⟩ := ih hrest hlookup
        exact ⟨.inr hmem, hkpts⟩

/-! ## Tracks

The slots are filled by two nested loops. `Fills` says what they hold after some
elements were placed, and each loop is an induction over what it runs through:
it places all elements, or it stops at one that has no keypoint or finds its
slot taken. -/

/-- The keypoint slot that an element of a track names. -/
def keypointSlot (te : TrackElement) : UInt32 × UInt32 := (te.imageId, te.point2dIdx.toUInt32)

omit [DoubleBits R] in
/-- The elements of all tracks, each with the id of its point. -/
def trackElements (points : List (ReconPoint3D R)) : List (UInt64 × TrackElement) :=
  points.flatMap fun pt => pt.track.map fun te => (pt.point3dId, te)

/-- The element names a keypoint of an image. -/
def NamesKeypoint (keypoints : List (UInt32 × ColmapKeypoints R)) (te : TrackElement) : Prop :=
  ∃ kpts, keypoints.lookup te.imageId = some kpts ∧ 0 ≤ te.point2dIdx ∧
    te.point2dIdx.toInt.toNat < kpts.length

/-- Every element names a keypoint, and no two the same. -/
structure Placeable (keypoints : List (UInt32 × ColmapKeypoints R))
    (elements : List (UInt64 × TrackElement)) : Prop where
  named : ∀ e ∈ elements, NamesKeypoint keypoints e.2
  distinct : (elements.map fun e => keypointSlot e.2).Nodup

/-- The slots hold the points of these elements and nothing else. -/
def Fills (slots : TrackByImage) (elements : List (UInt64 × TrackElement)) : Prop :=
  ∀ imageId idx p, slots imageId idx = some p ↔
    ∃ te, (p, te) ∈ elements ∧ keypointSlot te = (imageId, idx)

variable {keypoints : List (UInt32 × ColmapKeypoints R)} {slots : TrackByImage}
  {elements : List (UInt64 × TrackElement)}

omit [DoubleBits R] in
theorem Placeable.left {others : List (UInt64 × TrackElement)}
    (h : Placeable keypoints (elements ++ others)) : Placeable keypoints elements where
  named e he := h.named e (List.mem_append_left _ he)
  distinct := (List.nodup_append.mp (List.map_append ▸ h.distinct)).1

theorem Fills.update (h : Fills slots elements) {p : UInt64} {te : TrackElement}
    (hfree : slots te.imageId te.point2dIdx.toUInt32 = none) :
    Fills (Function.update slots te.imageId
      (Function.update (slots te.imageId) te.point2dIdx.toUInt32 (some p))) (elements ++ [(p, te)]) := by
  intro imageId idx q
  simp only [List.mem_append, List.mem_singleton, or_and_right, exists_or, Prod.mk.injEq]
  rw [← h imageId idx q]
  by_cases hslot : keypointSlot te = (imageId, idx)
  · obtain ⟨rfl, rfl⟩ := Prod.mk.inj hslot
    rw [Function.update_self, Function.update_self, hfree]
    constructor
    · intro hq
      exact .inr ⟨te, ⟨(Option.some.inj hq).symm, rfl⟩, rfl⟩
    · rintro (hq | ⟨_, ⟨rfl, -⟩, -⟩)
      · cases hq
      · rfl
  · have hold : Function.update slots te.imageId
        (Function.update (slots te.imageId) te.point2dIdx.toUInt32 (some p)) imageId idx =
          slots imageId idx := by
      by_cases himage : imageId = te.imageId
      · subst himage
        have hidx : idx ≠ te.point2dIdx.toUInt32 := fun heq => hslot (heq ▸ rfl)
        rw [Function.update_self, Function.update_of_ne hidx]
      · rw [Function.update_of_ne himage]
    rw [hold]
    constructor
    · exact .inl
    · rintro (hq | ⟨_, ⟨-, rfl⟩, hte⟩)
      · exact hq
      · exact absurd hte hslot

omit [DoubleBits R] in
/-- The loop over one track places its elements, or finds one that cannot be placed. -/
theorem slotTrack_spec (p : UInt64) (track : List TrackElement) (hfills : Fills slots elements) :
    let all := elements ++ track.map fun te => (p, te)
    Placeable keypoints elements →
      (∃ slots', slotTrack keypoints p track slots = .ok slots' ∧ Placeable keypoints all ∧
        Fills slots' all) ∨
      (∃ e, slotTrack keypoints p track slots = .error e) ∧ ¬ Placeable keypoints all := by
  induction track generalizing slots elements with
  | nil =>
      intro all hplace
      have hall : all = elements := List.append_nil elements
      rw [hall]
      exact .inl ⟨slots, rfl, hplace, hfills⟩
  | cons te track ih =>
      intro all hplace
      have hall : all = (elements ++ [(p, te)]) ++ track.map fun te => (p, te) := by simp [all]
      have hmem : (p, te) ∈ all := by simp [all]
      unfold slotTrack
      split
      · next hnone =>
          refine .inr ⟨⟨_, rfl⟩, fun h => ?_⟩
          obtain ⟨kpts, hkpts, -⟩ := h.named _ hmem
          rw [hnone] at hkpts
          cases hkpts
      next kpts hkpts =>
      split
      · next hrange =>
          refine .inr ⟨⟨_, rfl⟩, fun h => ?_⟩
          obtain ⟨kpts', hkpts', hle, hlt⟩ := h.named _ hmem
          rw [hkpts] at hkpts'
          cases hkpts'
          grind
      next hrange =>
      split
      · next htaken =>
          refine .inr ⟨⟨_, rfl⟩, fun h => ?_⟩
          obtain ⟨q, hq⟩ := Option.isSome_iff_exists.mp htaken
          obtain ⟨te', hte', hslot⟩ := (hfills _ _ q).mp hq
          have hdistinct := (hall ▸ h).left.distinct
          rw [List.map_append, List.nodup_append] at hdistinct
          exact hdistinct.2.2 _ (List.mem_map_of_mem hte') _ (List.mem_singleton_self _) hslot
      next hfree =>
      have hfree : slots te.imageId te.point2dIdx.toUInt32 = none := by simpa using hfree
      -- a free slot of the image takes the element
      have hnew : Placeable keypoints (elements ++ [(p, te)]) := by
        refine ⟨fun e he => ?_, ?_⟩
        · obtain he | he := List.mem_append.mp he
          · exact hplace.named e he
          · obtain rfl := List.mem_singleton.mp he
            exact ⟨kpts, hkpts, by grind, by grind⟩
        · rw [List.map_append, List.nodup_append]
          refine ⟨hplace.distinct, List.pairwise_singleton .., ?_⟩
          intro slot hslot slot' hslot' heq
          obtain ⟨⟨q, te'⟩, hte', rfl⟩ := List.mem_map.mp hslot
          obtain rfl := List.mem_singleton.mp hslot'
          have hq := (hfills te.imageId te.point2dIdx.toUInt32 q).mpr ⟨te', hte', heq⟩
          rw [hfree] at hq
          cases hq
      rw [hall]
      exact ih (hfills.update hfree) hnew

omit [DoubleBits R] in
/-- The loop over the points does so for all tracks. -/
theorem slotTracks_spec (keypoints : List (UInt32 × ColmapKeypoints R))
    (points : List (ReconPoint3D R)) (hfills : Fills slots elements) :
    let all := elements ++ trackElements points
    Placeable keypoints elements →
      (∃ slots', slotTracks keypoints points slots = .ok slots' ∧ Placeable keypoints all ∧
        Fills slots' all) ∨
      (∃ e, slotTracks keypoints points slots = .error e) ∧ ¬ Placeable keypoints all := by
  induction points generalizing slots elements with
  | nil =>
      intro all hplace
      have hall : all = elements := List.append_nil elements
      rw [hall]
      exact .inl ⟨slots, rfl, hplace, hfills⟩
  | cons pt points ih =>
      intro all hplace
      have hall : all = (elements ++ pt.track.map fun te => (pt.point3dId, te)) ++
          trackElements points := by
        simp [all, trackElements]
      unfold slotTracks
      obtain ⟨slots', hrun, hnew, hfills'⟩ | ⟨⟨e, hrun⟩, hnot⟩ :=
        slotTrack_spec pt.point3dId pt.track hfills hplace
      · rw [hrun, hall]
        exact ih hfills' hnew
      · rw [hrun, hall]
        exact .inr ⟨⟨e, rfl⟩, fun h => hnot h.left⟩

/-! ## The reconstruction

All checks together. What `checkReconstruction` lets through is `Representable`,
and every representable reconstruction is let through. -/

/-- The reconstructions, with their keypoints, that the checks let through. -/
structure Representable (r : Reconstruction R)
    (keypointsByImageId : UInt32 → Option (ColmapKeypoints R)) : Prop where
  hasCameras : r.cameras ≠ []
  hasImages : r.images ≠ []
  cameraIds : (r.cameras.map ReconCamera.cameraId).Nodup
  imageIds : (r.images.map ReconImage.imageId).Nodup
  pointIds : (r.points3D.map ReconPoint3D.point3dId).Nodup
  named : ∀ img ∈ r.images, img.name ≠ []
  names : (r.images.map ReconImage.name).Nodup
  cameras : ∀ cam ∈ r.cameras, 0 ≤ cam.width ∧ 0 ≤ cam.height ∧ SupportedModel cam
  keypoints : ∀ img ∈ r.images, ∃ kpts, keypointsByImageId img.imageId = some kpts ∧
    UsableKeypoints kpts
  inRange : ∀ pt ∈ r.points3D, ∀ te ∈ pt.track, te.imageId ∈ r.images.map ReconImage.imageId ∧
    ∃ kpts, keypointsByImageId te.imageId = some kpts ∧ 0 ≤ te.point2dIdx ∧
      te.point2dIdx.toInt.toNat < kpts.length
  distinct : ((trackElements r.points3D).map fun e => keypointSlot e.2).Nodup

variable {r : Reconstruction R}

/-- The track elements that the loop places, by the images and keypoints they name. -/
theorem placeable_iff (hkeypoints : imageKeypoints keypointsByImageId r.images = .ok keypoints)
    (hids : (r.images.map ReconImage.imageId).Nodup) :
    Placeable keypoints (trackElements r.points3D) ↔
      (∀ pt ∈ r.points3D, ∀ te ∈ pt.track, te.imageId ∈ r.images.map ReconImage.imageId ∧
        ∃ kpts, keypointsByImageId te.imageId = some kpts ∧ 0 ≤ te.point2dIdx ∧
          te.point2dIdx.toInt.toNat < kpts.length) ∧
      ((trackElements r.points3D).map fun e => keypointSlot e.2).Nodup := by
  have hmem : ∀ pt ∈ r.points3D, ∀ te ∈ pt.track,
      (pt.point3dId, te) ∈ trackElements r.points3D := fun pt hpt te hte =>
    List.mem_flatMap.mpr ⟨pt, hpt, List.mem_map_of_mem hte⟩
  constructor
  · intro h
    refine ⟨fun pt hpt te hte => ?_, h.distinct⟩
    obtain ⟨kpts, hlookup, hrange⟩ := h.named _ (hmem pt hpt te hte)
    obtain ⟨himage, hkpts⟩ := mem_of_lookup hkeypoints hlookup
    exact ⟨himage, kpts, hkpts, hrange⟩
  · rintro ⟨hnamed, hdistinct⟩
    refine ⟨fun e he => ?_, hdistinct⟩
    obtain ⟨pt, hpt, hmap⟩ := List.mem_flatMap.mp he
    obtain ⟨te, hte, rfl⟩ := List.mem_map.mp hmap
    obtain ⟨himage, kpts, hkpts, hrange⟩ := hnamed pt hpt te hte
    obtain ⟨img, himg, himageId⟩ := List.mem_map.mp himage
    obtain ⟨kpts', hlookup, hkpts'⟩ := lookup_imageKeypoints hkeypoints hids himg
    rw [himageId] at hlookup hkpts'
    obtain rfl := Option.some.inj (hkpts.symm.trans hkpts')
    exact ⟨kpts, hlookup, hrange⟩

theorem checkIds_eq {α : Type} [DecidableEq α] {ids : List α} (message : String)
    (h : ids.Nodup) : checkIds ids message = .ok () :=
  if_pos h

theorem fills_none : Fills (fun _ _ => none) [] :=
  fun _ _ _ => ⟨fun h => (nomatch h), fun ⟨_, h, _⟩ => (nomatch h)⟩

/-- What passes the checks is representable, and the slots hold the points of all tracks. -/
theorem representable_of_ok {plan : WritePlan R}
    (h : checkReconstruction r keypointsByImageId = .ok plan) :
    Representable r keypointsByImageId ∧
      Fills plan.trackByImage (trackElements r.points3D) := by
  unfold checkReconstruction at h
  split at h
  · cases h
  next hcameras =>
  split at h
  · cases h
  next himages =>
  obtain ⟨_, hcameraIds, h⟩ := Core.bind_eq_ok h
  obtain ⟨_, himageIds, h⟩ := Core.bind_eq_ok h
  obtain ⟨_, hpointIds, h⟩ := Core.bind_eq_ok h
  obtain ⟨_, hnames, h⟩ := Core.bind_eq_ok h
  obtain ⟨rows, hrows, h⟩ := Core.bind_eq_ok h
  obtain ⟨keypoints, hkeypoints, h⟩ := Core.bind_eq_ok h
  obtain ⟨slots, hslots, h⟩ := Core.bind_eq_ok h
  cases h
  obtain ⟨hnamed, hdistinctNames⟩ := checkNames_iff.mp hnames
  -- the slots were filled, so every element of a track has its place
  obtain ⟨slots', hrun, hplace, hfills⟩ | ⟨⟨e, hrun⟩, -⟩ :=
    slotTracks_spec keypoints r.points3D fills_none
      ⟨List.forall_mem_nil _, List.nodup_nil⟩
  · rw [hslots] at hrun
    cases hrun
    obtain ⟨hinRange, hdistinct⟩ := (placeable_iff hkeypoints (checkIds_ok himageIds)).mp hplace
    exact ⟨{
      hasCameras := by simpa using hcameras
      hasImages := by simpa using himages
      cameraIds := checkIds_ok hcameraIds
      imageIds := checkIds_ok himageIds
      pointIds := checkIds_ok hpointIds
      named := fun img himg => (hnamed img himg).1
      names := hdistinctNames
      cameras := cameraRows_iff.mp ⟨rows, hrows⟩
      keypoints := imageKeypoints_iff.mp ⟨keypoints, hkeypoints⟩
      inRange := hinRange
      distinct := hdistinct }, hfills⟩
  · rw [hslots] at hrun
    cases hrun

/-- The checks let through what is representable, and nothing else. -/
theorem checkReconstruction_iff :
    (∃ plan, checkReconstruction r keypointsByImageId = .ok plan) ↔
      Representable r keypointsByImageId := by
  refine ⟨fun ⟨_, h⟩ => (representable_of_ok h).1, fun h => ?_⟩
  obtain ⟨rows, hrows⟩ := cameraRows_iff.mpr h.cameras
  obtain ⟨keypoints, hkeypoints⟩ := imageKeypoints_iff.mpr h.keypoints
  have hplace := (placeable_iff hkeypoints h.imageIds).mpr ⟨h.inRange, h.distinct⟩
  have hnames : checkNames [] r.images = .ok () :=
    checkNames_iff.mpr ⟨fun img himg => ⟨h.named img himg, List.not_mem_nil⟩, h.names⟩
  obtain ⟨slots, hslots, -⟩ | ⟨-, hnot⟩ :=
    slotTracks_spec keypoints r.points3D fills_none
      ⟨List.forall_mem_nil _, List.nodup_nil⟩
  · refine ⟨⟨rows, keypoints, slots⟩, ?_⟩
    unfold checkReconstruction
    rw [if_neg (by simpa using h.hasCameras), if_neg (by simpa using h.hasImages),
      checkIds_eq _ h.cameraIds, checkIds_eq _ h.imageIds, checkIds_eq _ h.pointIds, hnames, hrows,
      hkeypoints]
    exact congrArg (· >>= fun slots => .ok (WritePlan.mk rows keypoints slots)) hslots
  · exact absurd hplace hnot

end SpatialPlatform.Adapters.Colmap
