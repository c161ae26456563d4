import SpatialPlatform.Adapters.Colmap.Reservations
import SpatialPlatform.Adapters.Colmap.WrittenModel

/-!
# Writing a COLMAP model and reading it back

* `write_parse_convert_iff` — an accepted reconstruction comes back, in the
  order of its ids, exactly when no image has a name of 2^32 bytes or more.
* `long_name_not_recovered` — the writer stores the lowest 32 bits of the length
  of a name.
-/

namespace SpatialPlatform.Adapters.Colmap

open SpatialPlatform.Core SpatialPlatform.Lib SpatialPlatform.Lib.Persist BinaryReader

/-! ## Files

The writer sorts the ids and looks up the record of each. What it leaves is the
list of records sorted by their ids, whatever order they came in. -/

section Sorted

variable {α ι : Type} [DecidableEq ι]

/-- The records in the order of their ids. -/
def sortedById (le : ι → ι → Bool) (id : α → ι) (records : List α) : List α :=
  records.mergeSort fun a b => le (id a) (id b)

theorem find_of_nodup {id : α → ι} {records : List α} (h : (records.map id).Nodup) {a : α}
    (ha : a ∈ records) : (records.find? fun b => id b = id a) = some a := by
  induction records with
  | nil => cases ha
  | cons b records ih =>
      rw [List.map_cons, List.nodup_cons] at h
      obtain rfl | hmem := List.mem_cons.mp ha
      · simp
      · have hne : id b ≠ id a := fun heq => h.1 (heq ▸ List.mem_map_of_mem hmem)
        rw [List.find?_cons_of_neg (by simpa using hne)]
        exact ih h.2 hmem

/-- The records that belong to the sorted ids. -/
theorem records_of_ids {le : ι → ι → Bool} {id : α → ι} {records : List α}
    (h : (records.map id).Nodup) :
    (((records.map id).mergeSort le).filterMap fun i => records.find? fun a => id a = i) =
      sortedById le id records := by
  have hids : (records.map id).mergeSort le = (sortedById le id records).map id :=
    (List.map_mergeSort (r := fun a b => le (id a) (id b)) (s := le) (f := id)
      fun a _ b _ => rfl).symm
  rw [hids, List.filterMap_map]
  have hfind : ∀ a ∈ sortedById le id records,
      ((fun i => records.find? fun a => id a = i) ∘ id) a = some a := by
    intro a ha
    exact find_of_nodup h (List.mem_mergeSort.mp ha)
  rw [List.filterMap_congr hfind, List.filterMap_some]

omit [DecidableEq ι] in
/-- Records that were sorted by their ids, and then changed otherwise, are sorted. -/
theorem mergeSort_sortedById {β : Type} {le : ι → ι → Bool} {id : α → ι} {records : List α}
    {value : α → β} (key : β → ι) (htrans : ∀ a b c, le a b = true → le b c = true → le a c = true)
    (htotal : ∀ a b, (le a b || le b a) = true) (hkey : ∀ a, key (value a) = id a) :
    ((sortedById le id records).map value).mergeSort (fun a b => le (key a) (key b)) =
      (sortedById le id records).map value := by
  apply List.mergeSort_of_pairwise
  rw [List.pairwise_map]
  simp only [hkey]
  exact List.pairwise_mergeSort (fun a b c => htrans (id a) (id b) (id c))
    (fun a b => htotal (id a) (id b)) records

end Sorted

section Written

open ColmapBinWriter

variable {α β ι : Type} [DecidableEq ι] {writable : ModelFile → Bool} {file : ModelFile}
  {le : ι → ι → Bool} {id : α → ι} {records : List α} {writeRecord : α → ModelWrite}
  {G : Format UInt8 β} {value : α → β}

/-- What `writeRecords` leaves in its file: the count, and the records in the order of their ids. -/
theorem writeRecords_ok (hids : (records.map id).Nodup)
    (hwrite : ∀ a ∈ records, Appends file (writeRecord a) (G · (value a))) {dir dir' : ModelDir}
    (h : writeRecords writable file le id records writeRecord dir = (.ok (), dir')) :
    ∃ run, G.times records.length run ((sortedById le id records).map value) ∧
      dir' = Function.update dir file
        (some (leBytes 8 (UInt64.ofNat records.length).toNat ++ run)) := by
  obtain ⟨_, dir₁, hopen, h⟩ := Persist.bind_eq_ok h
  have hdir₁ : dir₁ = Function.update dir file (some []) := by
    unfold openFile at hopen
    split at hopen
    · exact (Prod.mk.inj hopen).2.symm
    · cases hopen
  have hlen : (sortedById le id records).length = records.length := List.length_mergeSort ..
  have hcount : ((records.map id).mergeSort le).length = records.length := by
    rw [List.length_mergeSort, List.length_map]
  dsimp only at h
  rw [records_of_ids hids, hcount] at h
  have hrecords := Appends.each fun a (ha : a ∈ sortedById le id records) =>
    hwrite a (List.mem_mergeSort.mp ha)
  rw [hlen] at hrecords
  obtain ⟨run, ⟨first, rest, hrun, hfirst, hrest⟩, hdir⟩ :=
    ((appends_u64 _).bind hrecords) dir₁ dir' [] (by rw [hdir₁, Function.update_self]) h
  refine ⟨rest, hrest, ?_⟩
  rw [hdir, hdir₁, Function.update_idem, List.nil_append, hrun, hfirst]

end Written

/-! ## Reading

What the parser makes of bytes that the writer has left. `Parses` is composed
like the formats, a loop by induction over its count; the side condition of each
read is that the counts are in bounds, which is where `Addressable` comes in. -/

section Parses

variable {α β : Type} {G : Format UInt8 α}

/-- The program takes a run of the format from the front of the file and returns its value. -/
def Parses (x : Read α) (G : Format UInt8 α) : Prop :=
  ∀ r run tail a, r.pos ≤ r.bytes.length → r.bytes.drop r.pos = run ++ tail → G run a →
    ∃ r', x r = (.ok a, r') ∧ r'.pos ≤ r'.bytes.length ∧ r'.bytes.drop r'.pos = tail

theorem parses_of_reads {x : Read α} (h : Reads binarySource x G) : Parses x G := by
  intro r run tail a hr hrest hG
  exact ⟨_, h.accepts hr hrest hG, valid_of_run binarySource hr hrest,
    rest_of_run binarySource hrest⟩

theorem Parses.bind {x : Read α} {f : α → Read β} {H : α → Format UInt8 β} (hx : Parses x G)
    (hf : ∀ a, Parses (f a) (H a)) : Parses (x >>= f) (G.seq H) := by
  intro r run tail b hr hrest hGH
  obtain ⟨first, second, a, rfl, hG, hH⟩ := hGH
  rw [List.append_assoc] at hrest
  obtain ⟨r₁, hrun, hr₁, hrest₁⟩ := hx r first _ a hr hrest hG
  obtain ⟨r₂, hrun₂, hr₂, hrest₂⟩ := hf a r₁ second tail b hr₁ hrest₁ hH
  exact ⟨r₂, by rw [bind_of_ok hrun, hrun₂], hr₂, hrest₂⟩

theorem Parses.pure (a : α) : Parses (Pure.pure a) (Format.empty a) := by
  intro r run tail b hr hrest hG
  obtain ⟨rfl, rfl⟩ := hG
  exact ⟨r, rfl, hr, hrest⟩

theorem Parses.congr {x : Read α} {H : Format UInt8 α} (h : Parses x G)
    (hGH : ∀ run a, H run a → G run a) : Parses x H :=
  fun r run tail a hr hrest hH => h r run tail a hr hrest (hGH run a hH)

theorem Parses.times {x : Read α} (hx : Parses x G) (n : Nat) : Parses (x.times n) (G.times n) := by
  induction n with
  | zero => exact (Parses.pure []).congr fun run values => Format.times_zero.mp
  | succ n ih =>
      have h := hx.bind fun a => ih.bind fun as => Parses.pure (a :: as)
      exact h.congr fun run values => Format.times_succ.mp

variable {maxSize : Element → Nat} {element : Element} {label detail : String}

/-- A file of at most `max_size` records. -/
def recordsFormat (maxSize : Element → Nat) (element : Element) (G : Format UInt8 α) :
    Format UInt8 (List α) := fun run values =>
  values.length < 2 ^ 64 ∧ values.length ≤ maxSize element ∧
    ∃ records, run = leBytes 8 values.length ++ records ∧ G.times values.length records values

theorem parses_records {parse : Read α} (hparse : Parses parse G) (hG : G.AtLeast 1) :
    Parses (parseRecords maxSize element label detail parse) (recordsFormat maxSize element G) := by
  intro r run tail values hr hrest hfile
  obtain ⟨hcount, hmax, records, rfl, htimes⟩ := hfile
  have hnum : (UInt64.ofNat values.length).toNat = values.length := by
    rw [UInt64.toNat_ofNat', Nat.mod_eq_of_lt hcount]
  rw [List.append_assoc] at hrest
  obtain ⟨r₁, hrun, hr₁, hrest₁⟩ := parses_of_reads reads_u64 r _ _ (UInt64.ofNat values.length) hr
    hrest (by rw [u64Format, hnum])
  have hlarge : ¬ (UInt64.ofNat values.length).toNat > r₁.remaining := by
    have hlen := hG.times _ _ _ htimes
    have hremaining : r₁.remaining = records.length + tail.length := by
      rw [← List.length_append, ← hrest₁]
      exact List.length_drop.symm
    omega
  obtain ⟨r₂, hrun₂, hr₂, hrest₂⟩ := hparse.times values.length
    { r₁ with reserved := r₁.reserved ++ [⟨element, values.length, r₁.remaining⟩] } records tail
    values hr₁ hrest₁ htimes
  refine ⟨r₂, ?_, hr₂, hrest₂⟩
  rw [parseRecords, bind_of_ok hrun, read_bind, if_neg hlarge, hnum,
    bind_of_ok (reserve_of_le hmax r₁), hrun₂]

/-- A whole file. -/
theorem Parses.readFile {x : Read α} (h : Parses x G) {bytes : List UInt8} {a : α}
    (hG : G bytes a) (label : String) (reserved : List Reservation) :
    ∃ reserved', readFile bytes label x reserved = (.ok a, reserved') := by
  obtain ⟨r', hrun, -, -⟩ := h { bytes := bytes, file := label, reserved := reserved } bytes [] a
    (Nat.zero_le _) (List.append_nil bytes).symm hG
  refine ⟨r'.reserved, ?_⟩
  unfold Colmap.readFile
  rw [hrun]

end Parses

section Checks

variable {R : Type} [DoubleBits R]

/-- What `WriteColmapModel` has checked when it opens the first file. -/
structure Checked (r : Reconstruction R) (keypointsByImageId : UInt32 → Option (ColmapKeypoints R))
    (plan : WritePlan R) : Prop where
  cameraIds : (r.cameras.map ReconCamera.cameraId).Nodup
  imageIds : (r.images.map ReconImage.imageId).Nodup
  pointIds : (r.points3D.map ReconPoint3D.point3dId).Nodup
  rows : cameraRows r.cameras = .ok plan.cameraRows
  keypoints : imageKeypoints keypointsByImageId r.images = .ok plan.keypoints

theorem checkIds_ok {α : Type} [DecidableEq α] {ids : List α} {message : String} {u : Unit}
    (h : checkIds ids message = .ok u) : ids.Nodup := by
  unfold checkIds at h
  split at h
  · assumption
  · cases h

theorem checked_of_ok {r : Reconstruction R}
    {keypointsByImageId : UInt32 → Option (ColmapKeypoints R)} {plan : WritePlan R}
    (h : checkReconstruction r keypointsByImageId = .ok plan) :
    Checked r keypointsByImageId plan := by
  unfold checkReconstruction at h
  split at h
  · cases h
  split at h
  · cases h
  obtain ⟨_, hcameras, h⟩ := Core.bind_eq_ok h
  obtain ⟨_, himages, h⟩ := Core.bind_eq_ok h
  obtain ⟨_, hpoints, h⟩ := Core.bind_eq_ok h
  obtain ⟨_, -, h⟩ := Core.bind_eq_ok h
  obtain ⟨rows, hrows, h⟩ := Core.bind_eq_ok h
  obtain ⟨keypoints, hkeypoints, h⟩ := Core.bind_eq_ok h
  obtain ⟨slots, -, h⟩ := Core.bind_eq_ok h
  cases h
  exact ⟨checkIds_ok hcameras, checkIds_ok himages, checkIds_ok hpoints, hrows, hkeypoints⟩

/-- The row of a camera is the one that `CameraRecord` made for it. -/
theorem lookup_cameraRows {cameras : List (ReconCamera R)} {rows : List (UInt32 × RowCamera R)}
    (h : cameraRows cameras = .ok rows) (hids : (cameras.map ReconCamera.cameraId).Nodup)
    {cam : ReconCamera R} (hcam : cam ∈ cameras) :
    ∃ row, rows.lookup cam.cameraId = some row ∧ cameraRecord cam = .ok row := by
  induction cameras generalizing rows with
  | nil => cases hcam
  | cons c cameras ih =>
      unfold cameraRows at h
      split at h
      · cases h
      obtain ⟨row, hrow, h⟩ := Core.bind_eq_ok h
      obtain ⟨rest, hrest, h⟩ := Core.bind_eq_ok h
      cases h
      rw [List.map_cons, List.nodup_cons] at hids
      obtain rfl | hmem := List.mem_cons.mp hcam
      · exact ⟨row, List.lookup_cons_self, hrow⟩
      · have hne : cam.cameraId ≠ c.cameraId :=
          fun heq => hids.1 (heq ▸ List.mem_map_of_mem hmem)
        rw [List.lookup_cons, beq_false_of_ne hne]
        exact ih hrest hids.2 hmem

/-- The keypoints of an image are those that the caller gave for it. -/
theorem lookup_imageKeypoints {keypointsByImageId : UInt32 → Option (ColmapKeypoints R)}
    {images : List (ReconImage R)} {keypoints : List (UInt32 × ColmapKeypoints R)}
    (h : imageKeypoints keypointsByImageId images = .ok keypoints)
    (hids : (images.map ReconImage.imageId).Nodup) {img : ReconImage R} (himg : img ∈ images) :
    ∃ kpts, keypoints.lookup img.imageId = some kpts ∧
      keypointsByImageId img.imageId = some kpts := by
  induction images generalizing keypoints with
  | nil => cases himg
  | cons i images ih =>
      unfold imageKeypoints at h
      dsimp only at h
      split at h
      · cases h
      rename_i kpts hkpts
      split at h
      · cases h
      split at h
      · cases h
      obtain ⟨rest, hrest, h⟩ := Core.bind_eq_ok h
      cases h
      rw [List.map_cons, List.nodup_cons] at hids
      obtain rfl | hmem := List.mem_cons.mp himg
      · exact ⟨kpts, List.lookup_cons_self, hkpts⟩
      · have hne : img.imageId ≠ i.imageId :=
          fun heq => hids.1 (heq ▸ List.mem_map_of_mem hmem)
        rw [List.lookup_cons, beq_false_of_ne hne]
        exact ih hrest hids.2 hmem

/-- A point whose track is not longer than a vector can be. -/
theorem parses_point (maxSize : Element → Nat) :
    Parses (parsePoint3D maxSize : Read (SparseModelPoint R))
      fun run pt => pointFormat run pt ∧ pt.track.length ≤ maxSize .trackElement := by
  intro r run tail pt hr hrest hpoint
  obtain ⟨⟨head, _, ⟨pt', trackLen⟩, rfl, hhead, second, _, track, rfl, htrack, rfl, rfl⟩, hmax⟩ :=
    hpoint
  rw [List.append_nil, List.append_assoc] at hrest
  obtain ⟨r₁, hrun₁, hr₁, hrest₁⟩ := parses_of_reads reads_pointHead r _ _ _ hr hrest hhead
  have hlen : track.length = trackLen.toNat := by
    obtain ⟨_, -, -, hlen⟩ := htrack
    exact hlen
  have hle : trackLen.toNat ≤ maxSize .trackElement := hlen ▸ hmax
  obtain ⟨r₂, hrun₂, hr₂, hrest₂⟩ := (parses_of_reads reads_trackElement).times trackLen.toNat
    { r₁ with reserved := r₁.reserved ++ [⟨.trackElement, trackLen.toNat, r₁.remaining⟩] } second
    tail track hr₁ hrest₁ htrack
  refine ⟨r₂, ?_, hr₂, hrest₂⟩
  unfold parsePoint3D
  rw [bind_of_ok hrun₁]
  show (reserve maxSize .trackElement trackLen.toNat >>= _) _ = _
  rw [bind_of_ok (reserve_of_le hle r₁), bind_of_ok hrun₂]
  rfl

theorem parses_cameras (maxSize : Element → Nat) :
    Parses (parseCameras maxSize : Read (List (SparseModelCamera R)))
      (recordsFormat maxSize .camera cameraFormat) :=
  parses_records (parses_of_reads reads_camera) (atLeast_camera.mono (by decide))

theorem parses_images (maxSize : Element → Nat) :
    Parses (parseImages maxSize : Read (List (SparseModelImage R)))
      (recordsFormat maxSize .image imageFormat) :=
  parses_records (parses_of_reads reads_image) (atLeast_image.mono (by decide))

theorem parses_points (maxSize : Element → Nat) :
    Parses (parsePoints3D maxSize : Read (List (SparseModelPoint R)))
      (recordsFormat maxSize .point fun run pt =>
        pointFormat run pt ∧ pt.track.length ≤ maxSize .trackElement) :=
  parses_records (parses_point maxSize) fun run pt h =>
    (atLeast_point.mono (by decide)) run pt h.1

/-- Three files that can be read, one after the other. -/
theorem parseSparseModel_ok {maxSize : Element → Nat} {camerasBin imagesBin points3dBin : List UInt8}
    {cameras : List (SparseModelCamera R)} {images : List (SparseModelImage R)}
    {points : List (SparseModelPoint R)} {reserved₁ reserved₂ reserved₃ : List Reservation}
    (hcameras : readFile camerasBin kCamerasLabel (parseCameras maxSize) [] =
      (.ok cameras, reserved₁))
    (himages : readFile imagesBin kImagesLabel (parseImages maxSize) reserved₁ =
      (.ok images, reserved₂))
    (hpoints : readFile points3dBin kPoints3dLabel (parsePoints3D maxSize) reserved₂ =
      (.ok points, reserved₃)) :
    (parseSparseModel maxSize camerasBin imagesBin points3dBin []).1 = .ok {
      cameras := cameras.mergeSort fun a b => a.cameraId ≤ b.cameraId
      images := images.mergeSort fun a b => a.imageId ≤ b.imageId
      points3d := points.mergeSort fun a b => a.point3dId ≤ b.point3dId } := by
  unfold parseSparseModel
  rw [bind_of_ok hcameras, bind_of_ok himages, bind_of_ok hpoints]
  rfl

end Checks

/-! ## The round trip

From bytes to the reconstruction. Short names are enough, by the lemmas above;
and they are needed, since the number in front of a name has 32 bits while the
name itself may be longer, so that a file with a long name has the wrong length
for its records. -/

section RoundTrip

variable {R : Type} [DoubleBits R] [Neg R] [Add R] [Sub R] [Mul R] [OfNat R 2]

/-- The vectors of a reconstruction, and the keypoints of its images, are no
longer than the vectors of the parser can be. -/
structure Addressable (maxSize : Element → Nat) (r : Reconstruction R)
    (keypointsByImageId : UInt32 → Option (ColmapKeypoints R)) : Prop where
  sizes : ∀ element, maxSize element < 2 ^ 64
  cameras : r.cameras.length ≤ maxSize .camera
  images : r.images.length ≤ maxSize .image
  points : r.points3D.length ≤ maxSize .point
  tracks : ∀ pt ∈ r.points3D, pt.track.length ≤ maxSize .trackElement
  keypoints : ∀ imageId kpts, keypointsByImageId imageId = some kpts → kpts.length < 2 ^ 64

/-- What comes back of an image: the writer does not know its frame, and COLMAP
only lists images that it registered. -/
def recoveredImage (input : ConverterInput) (img : ReconImage R) : ReconImage R :=
  { img with
    frameId := (input.frameIdMap.lookup img.name).getD ""
    pose := throughColmap img.pose
    detected := true }

/-- What comes back of a reconstruction: cameras, images and points in the order
of their ids, with what the caller of the converter supplies. -/
def recovered (r : Reconstruction R) (input : ConverterInput) : Reconstruction R :=
  { sparseModelToReconstruction { cameras := [], images := [], points3d := [] } input with
    cameras := (sortedById (fun a b => decide (a ≤ b)) ReconCamera.cameraId r.cameras).map
      fun cam => { cam with calibrationRef := "" }
    images := (sortedById (fun a b => decide (a ≤ b)) ReconImage.imageId r.images).map
      (recoveredImage input)
    points3D := sortedById (fun a b => decide (a ≤ b)) ReconPoint3D.point3dId r.points3D }

/-- The files can be parsed, and the model converts to the reconstruction that was written. -/
def RoundTrip (maxSize : Element → Nat) (dir : ModelDir) (r : Reconstruction R)
    (input : ConverterInput) : Prop :=
  ∃ camerasBin imagesBin points3dBin model, dir .cameras = some camerasBin ∧
    dir .images = some imagesBin ∧ dir .points3D = some points3dBin ∧
    (parseSparseModel maxSize camerasBin imagesBin points3dBin []).1 = .ok model ∧
    sparseModelToReconstruction model input = recovered r input

omit [Neg R] [Add R] [Sub R] [Mul R] [OfNat R 2] in
theorem recordsFormat_of_written {α β ι : Type} [DecidableEq ι] {maxSize : Element → Nat}
    {element : Element} {G : Format UInt8 β} {le : ι → ι → Bool} {id : α → ι} {records : List α}
    {value : α → β} {run : List UInt8} (hsize : maxSize element < 2 ^ 64)
    (hlen : records.length ≤ maxSize element)
    (htimes : G.times records.length run ((sortedById le id records).map value)) :
    recordsFormat maxSize element G (leBytes 8 (UInt64.ofNat records.length).toNat ++ run)
      ((sortedById le id records).map value) := by
  have hvalues : ((sortedById le id records).map value).length = records.length := by
    rw [List.length_map]
    exact List.length_mergeSort ..
  refine ⟨by omega, by omega, run, ?_, ?_⟩
  · rw [hvalues, UInt64.toNat_ofNat', Nat.mod_eq_of_lt (by omega)]
  · rwa [hvalues]

omit [Neg R] [Add R] [Sub R] [Mul R] [OfNat R 2] in
/-- The camera that the reader returns for one that was checked. -/
theorem written_camera {r : Reconstruction R}
    {keypointsByImageId : UInt32 → Option (ColmapKeypoints R)} {plan : WritePlan R}
    (h : Checked r keypointsByImageId plan) (cam : ReconCamera R) :
    ∃ v : SparseModelCamera R, v.cameraId = cam.cameraId ∧ (cam ∈ r.cameras →
      Appends .cameras (writeCamera plan cam) (cameraFormat · v) ∧
      reconCameraOfModel v = { cam with calibrationRef := "" }) := by
  by_cases hcam : cam ∈ r.cameras
  · obtain ⟨row, hlookup, hrow⟩ := lookup_cameraRows h.rows h.cameraIds hcam
    obtain ⟨info, i, hinfo, hlen, hi, hback⟩ := camera_recovered hrow
    exact ⟨writtenCamera cam row info i, rfl, fun _ => ⟨appends_camera hlookup hinfo hlen hi, hback⟩⟩
  · -- such a camera is not written, and any value of the same id will do
    let v := writtenCamera cam ⟨0, []⟩ ⟨"", 0, "", false⟩ ⟨cam.fx, cam.fy, cam.cx, cam.cy⟩
    exact ⟨v, rfl, fun h => absurd h hcam⟩

/-- The files that `WriteColmapModel` leaves, for names of fewer than 2^32
bytes: the reader finds the cameras, images and points in the order of their
ids. -/
theorem roundTrip_of_short {maxSize : Element → Nat} {writable : ModelFile → Bool}
    {r : Reconstruction R} {keypointsByImageId : UInt32 → Option (ColmapKeypoints R)}
    {dir dir' : ModelDir} (input : ConverterInput)
    (hsize : Addressable maxSize r keypointsByImageId)
    (hwrite : writeColmapModel writable r keypointsByImageId dir = (.ok (), dir'))
    (hshort : ∀ img ∈ r.images, img.name.length < 2 ^ 32) : RoundTrip maxSize dir' r input := by
  unfold writeColmapModel at hwrite
  split at hwrite
  · cases hwrite
  rename_i plan hplan
  have hchecked := checked_of_ok hplan
  obtain ⟨_, dir₁, hcameras, hwrite⟩ := Persist.bind_eq_ok hwrite
  obtain ⟨_, dir₂, himages, hpoints⟩ := Persist.bind_eq_ok hwrite
  -- what is appended to each file, record by record
  choose cameraOf hcameraId hcamera using written_camera hchecked
  have himage : ∀ img ∈ r.images,
      Appends .images (writeImage plan img) (imageFormat · (writtenImage img)) := by
    intro img himg
    obtain ⟨kpts, hlookup, hkpts⟩ := lookup_imageKeypoints hchecked.keypoints hchecked.imageIds himg
    exact appends_image hlookup (hsize.keypoints _ _ hkpts) (hshort img himg)
  have hpoint : ∀ pt ∈ r.points3D,
      Appends .points3D (writePoint3D pt) (pointFormat · (writtenPoint pt)) := by
    intro pt hpt
    exact appends_point ((hsize.tracks pt hpt).trans_lt (hsize.sizes _))
  obtain ⟨cameraRun, hcameraRun, rfl⟩ :=
    writeRecords_ok hchecked.cameraIds (fun cam hcam => (hcamera cam hcam).1) hcameras
  obtain ⟨imageRun, himageRun, rfl⟩ := writeRecords_ok hchecked.imageIds himage himages
  obtain ⟨pointRun, hpointRun, rfl⟩ := writeRecords_ok hchecked.pointIds hpoint hpoints
  have hpointRun' := Format.times_and (P := fun pt => pt.track.length ≤ maxSize .trackElement)
    hpointRun (by
      intro pt hpt
      obtain ⟨pt', hpt', rfl⟩ := List.mem_map.mp hpt
      show (pt'.track.map _).length ≤ _
      rw [List.length_map]
      exact hsize.tracks pt' (List.mem_mergeSort.mp hpt'))
  -- the reader takes the three files back in the order of the writer
  obtain ⟨reserved₁, hreadCameras⟩ := (parses_cameras maxSize).readFile
    (recordsFormat_of_written (hsize.sizes _) hsize.cameras hcameraRun) kCamerasLabel []
  obtain ⟨reserved₂, hreadImages⟩ := (parses_images maxSize).readFile
    (recordsFormat_of_written (hsize.sizes _) hsize.images himageRun) kImagesLabel reserved₁
  obtain ⟨reserved₃, hreadPoints⟩ := (parses_points maxSize).readFile
    (recordsFormat_of_written (hsize.sizes _) hsize.points hpointRun') kPoints3dLabel reserved₂
  let cameras := (sortedById (fun a b => decide (a ≤ b)) ReconCamera.cameraId r.cameras).map cameraOf
  let images := (sortedById (fun a b => decide (a ≤ b)) ReconImage.imageId r.images).map writtenImage
  let points := (sortedById (fun a b => decide (a ≤ b)) ReconPoint3D.point3dId r.points3D).map
    writtenPoint
  -- the records are written in the order of their ids, so the reader's sort changes nothing
  have hcameraOrder : (cameras.mergeSort fun a b => a.cameraId ≤ b.cameraId) = cameras :=
    mergeSort_sortedById SparseModelCamera.cameraId (by grind) (by grind) hcameraId
  have himageOrder : (images.mergeSort fun a b => a.imageId ≤ b.imageId) = images :=
    mergeSort_sortedById SparseModelImage.imageId (by grind) (by grind) fun _ => rfl
  have hpointOrder : (points.mergeSort fun a b => a.point3dId ≤ b.point3dId) = points :=
    mergeSort_sortedById SparseModelPoint.point3dId (by grind) (by grind) fun _ => rfl
  refine ⟨leBytes 8 (UInt64.ofNat r.cameras.length).toNat ++ cameraRun,
    leBytes 8 (UInt64.ofNat r.images.length).toNat ++ imageRun,
    leBytes 8 (UInt64.ofNat r.points3D.length).toNat ++ pointRun,
    { cameras := cameras, images := images, points3d := points }, ?_, ?_, ?_, ?_, ?_⟩
  · rw [Function.update_of_ne (by decide), Function.update_of_ne (by decide), Function.update_self]
  · rw [Function.update_of_ne (by decide), Function.update_self]
  · rw [Function.update_self]
  · rw [parseSparseModel_ok hreadCameras hreadImages hreadPoints]
    exact congrArg Except.ok (by rw [hcameraOrder, himageOrder, hpointOrder])
  · unfold recovered sparseModelToReconstruction
    congr 1
    · rw [List.map_map]
      apply List.map_congr_left
      intro cam hcam
      exact (hcamera cam (List.mem_mergeSort.mp hcam)).2
    · rw [List.map_map]
      rfl
    · rw [List.map_map]
      refine (List.map_congr_left fun pt _ => ?_).trans (List.map_id _)
      exact point_recovered pt

omit [Neg R] [Add R] [Sub R] [Mul R] [OfNat R 2] in
/-- The length of a name takes 32 bits. -/
theorem length_of_imageFormat {run : List UInt8} {image : SparseModelImage R}
    (h : imageFormat run image) : image.name.length < 2 ^ 32 := by
  obtain ⟨_, _, imageId, -, -, _, _, qw, -, -, _, _, qx, -, -, _, _, qy, -, -, _, _, qz, -, -,
    _, _, tx, -, -, _, _, ty, -, -, _, _, tz, -, -, _, _, cameraId, -, -, _, _, name, -, hname,
    _, _, count, -, -, _, _, keypoints, -, -, -, rfl⟩ := h
  obtain ⟨len, -, hlen⟩ := hname
  show name.length < 2 ^ 32
  rw [hlen]
  exact len.toNat_lt

omit [Neg R] [Add R] [Sub R] [Mul R] [OfNat R 2] in
theorem triple_parseImages (maxSize : Element → Nat) :
    Triple (fun r => r.pos ≤ r.bytes.length) (parseImages maxSize : Read (List (SparseModelImage R)))
      (fun images _ => ∀ image ∈ images, image.name.length < 2 ^ 32) (fun _ => True) := by
  refine reads_u64.triple.bind fun num => Triple.read.bind fun remaining => Triple.ite
    (fun _ => .fail fun _ _ => trivial) fun _ => ?_
  refine Triple.bind (Q := fun _ r => r.pos ≤ r.bytes.length) ?_ fun _ => ?_
  · rintro r ⟨⟨hr, -⟩, -⟩
    rcases Nat.lt_or_ge (maxSize .image) num.toNat with hlt | hle
    · rw [reserve_of_lt hlt]
      trivial
    · rw [reserve_of_le hle]
      exact hr
  · refine (reads_image.times num.toNat).triple.post ?_ fun _ _ => trivial
    intro images r ⟨_, run, htimes⟩ image himage
    obtain ⟨run', hrun'⟩ := Format.exists_run_of_times htimes himage
    exact length_of_imageFormat hrun'

/-- What comes back has names of fewer than 2^32 bytes. -/
theorem short_of_roundTrip {maxSize : Element → Nat} {dir : ModelDir} {r : Reconstruction R}
    {input : ConverterInput} (h : RoundTrip maxSize dir r input) :
    ∀ img ∈ r.images, img.name.length < 2 ^ 32 := by
  obtain ⟨camerasBin, imagesBin, points3dBin, model, -, -, -, hparse, hconvert⟩ := h
  have hmodel : parseSparseModel maxSize camerasBin imagesBin points3dBin [] =
      (.ok model, (parseSparseModel (R := R) maxSize camerasBin imagesBin points3dBin []).2) :=
    Prod.ext hparse rfl
  obtain ⟨cameras, reserved₁, -, hmodel⟩ := Persist.bind_eq_ok hmodel
  obtain ⟨images, reserved₂, himages, hmodel⟩ := Persist.bind_eq_ok hmodel
  obtain ⟨points, reserved₃, -, hmodel⟩ := Persist.bind_eq_ok hmodel
  cases (Prod.mk.inj hmodel).1
  have hnames : ∀ image ∈ images, image.name.length < 2 ^ 32 := by
    let reader : BinaryReader := { bytes := imagesBin, file := kImagesLabel, reserved := reserved₁ }
    unfold readFile at himages
    rcases hrun : (parseImages maxSize : Read (List (SparseModelImage R))) reader with ⟨e | v, r'⟩
    · rw [hrun] at himages
      cases himages
    · rw [hrun] at himages
      cases himages
      exact (triple_parseImages maxSize).ok (Nat.zero_le _) hrun
  intro img himg
  have hback := congrArg Reconstruction.images hconvert
  have hmem : img ∈ sortedById (fun a b => decide (a ≤ b)) ReconImage.imageId r.images :=
    List.mem_mergeSort.mpr himg
  have hwritten : recoveredImage input img ∈ (recovered r input).images := List.mem_map_of_mem hmem
  rw [← hback] at hwritten
  obtain ⟨image, himage, heq⟩ := List.mem_map.mp hwritten
  have hname : image.name = img.name := congrArg ReconImage.name heq
  rw [← hname]
  exact hnames image (List.mem_mergeSort.mp himage)

/-- An accepted reconstruction comes back from its native model exactly when
every image name has fewer than 2^32 bytes; and over exact arithmetic a pose
with a rotation of length one comes back as it was. -/
theorem write_parse_convert_iff {maxSize : Element → Nat} {writable : ModelFile → Bool}
    {r : Reconstruction R} {keypointsByImageId : UInt32 → Option (ColmapKeypoints R)}
    {dir dir' : ModelDir} (input : ConverterInput)
    (hsize : Addressable maxSize r keypointsByImageId)
    (hwrite : writeColmapModel writable r keypointsByImageId dir = (.ok (), dir')) :
    (RoundTrip maxSize dir' r input ↔ ∀ img ∈ r.images, img.name.length < 2 ^ 32) ∧
    ∀ {K : Type} [CommRing K] (pose : ReconPose K), HasLengthOne pose.rotationXyzw →
      throughColmap pose = pose :=
  ⟨⟨short_of_roundTrip, roundTrip_of_short input hsize hwrite⟩, fun _ h => throughColmap_eq h⟩

/-! A reconstruction with one camera and one image. -/

/-- The integers from 0 below 2^64, as their bits. -/
instance : DoubleBits Int where
  toBits v := UInt64.ofNat v.toNat
  ofBits bits := bits.toNat
  isFinite v := 0 ≤ v ∧ v < 2 ^ 64
  isNaN _ := false
  ofBits_toBits v h := by
    have hv : 0 ≤ v ∧ v < 2 ^ 64 := by simpa using h
    have hlt : v.toNat < 2 ^ 64 := by omega
    rw [UInt64.toNat_ofNat', Nat.mod_eq_of_lt hlt]
    omega

def oneImage (name : List UInt8) : Reconstruction Int where
  cameras := [{
    cameraId := 1
    width := 640
    height := 480
    intrinsicModel := "pinhole"
    fx := 500
    fy := 500
    cx := 320
    cy := 240
    distortionModel := "none" }]
  images := [{
    imageId := 1
    cameraId := 1
    name := name
    pose := ⟨#v[0, 0, 0, 1], #v[0, 0, 0]⟩ }]

/-- One keypoint for every image. -/
def oneKeypoint : UInt32 → Option (ColmapKeypoints Int) := fun _ => some [#v[12, 34]]

/-- The directory after `WriteColmapModel`. -/
def oneImageDir (name : List UInt8) : ModelDir :=
  (writeColmapModel (fun _ => true) (oneImage name) oneKeypoint fun _ => none).2

/-- What the checks find in it. -/
def onePlan : WritePlan Int where
  cameraRows := [(1, ⟨kPinHoleModel, [500, 500, 320, 240]⟩)]
  keypoints := [(1, [#v[12, 34]])]
  trackByImage := fun _ _ => none

theorem oneImage_checked (b : UInt8) (bytes : List UInt8) :
    checkReconstruction (oneImage (b :: bytes)) oneKeypoint = .ok onePlan := by
  simp [checkReconstruction, checkIds, checkNames, cameraRows, cameraRecord, imageKeypoints,
    slotTracks, oneImage, oneKeypoint, onePlan, DoubleBits.isNaN]
  rfl

omit [DoubleBits R] [Neg R] [Add R] [Sub R] [Mul R] [OfNat R 2] in
theorem records_singleton {α ι : Type} [DecidableEq ι] (le : ι → ι → Bool) (id : α → ι) (a : α) :
    ((([a].map id).mergeSort le).filterMap fun i => [a].find? fun a => id a = i) = [a] := by
  simp

/-- An image with a name of any length is accepted. -/
theorem oneImage_accepted (b : UInt8) (bytes : List UInt8) :
    writeColmapModel (fun _ => true) (oneImage (b :: bytes)) oneKeypoint (fun _ => none) =
      (.ok (), oneImageDir (b :: bytes)) := by
  refine Prod.ext ?_ rfl
  unfold writeColmapModel
  rw [oneImage_checked]
  -- the bytes of the name stay symbolic, so the three files are written one by one
  have hcameras : ∀ dir, (writeRecords (fun _ => true) .cameras (fun a b => decide (a ≤ b))
      ReconCamera.cameraId (oneImage (b :: bytes)).cameras (writeCamera onePlan) dir).1 = .ok () := by
    intro dir
    simp only [writeRecords, oneImage, records_singleton]
    rfl
  have himages : ∀ dir, (writeRecords (fun _ => true) .images (fun a b => decide (a ≤ b))
      ReconImage.imageId (oneImage (b :: bytes)).images (writeImage onePlan) dir).1 = .ok () := by
    intro dir
    simp only [writeRecords, oneImage, records_singleton, each, writeImage, onePlan,
      List.lookup_cons_self]
    rfl
  have hpoints : ∀ dir, (writeRecords (fun _ => true) .points3D (fun a b => decide (a ≤ b))
      ReconPoint3D.point3dId (oneImage (b :: bytes)).points3D writePoint3D dir).1 = .ok () := by
    intro dir
    simp only [writeRecords, oneImage, List.map_nil, List.mergeSort_nil, List.filterMap_nil]
    rfl
  show (bind (m := Persist ModelDir ProjectError) _ _ _).1 = _
  rw [bind_of_ok (Prod.ext (hcameras _) rfl), bind_of_ok (Prod.ext (himages _) rfl)]
  exact hpoints _

/-- A converter with nothing to supply. -/
def noInput : ConverterInput where
  reconstructionId := ""
  sceneId := ""
  sessionIds := []
  coordinateFrame := ""
  provenance := {}
  frameIdMap := []

/-- The image shows a point, at the second of its keypoints. -/
def seenPoint3D : Reconstruction Int :=
  { oneImage [97] with points3D := [{
      point3dId := 7
      xyz := #v[1, 2, 3]
      color := #v[10, 20, 30]
      error := 0
      track := [⟨1, 1⟩] }] }

def twoKeypoints : UInt32 → Option (ColmapKeypoints Int) := fun _ => some [#v[12, 34], #v[56, 78]]

/-- The directory after `WriteColmapModel`. -/
def seenPoint3DDir : ModelDir :=
  (writeColmapModel (fun _ => true) seenPoint3D twoKeypoints fun _ => none).2

theorem seenPoint3D_addressable : Addressable maxSize64 seenPoint3D twoKeypoints where
  sizes element := by cases element <;> decide
  cameras := by show 1 ≤ _; decide
  images := by show 1 ≤ _; decide
  points := by show 1 ≤ _; decide
  tracks pt hpt := by
    obtain rfl := List.mem_singleton.mp hpt
    show 1 ≤ _
    decide
  keypoints _ kpts h := by
    cases h
    decide

theorem seenPoint3D_recovered :
    RoundTrip maxSize64 seenPoint3DDir seenPoint3D noInput ∧
      throughColmap (⟨#v[0, 0, 0, 1], #v[1, 2, 3]⟩ : ReconPose Int) =
        ⟨#v[0, 0, 0, 1], #v[1, 2, 3]⟩ := by
  have hwrite : writeColmapModel (fun _ => true) seenPoint3D twoKeypoints (fun _ => none) =
      (.ok (), seenPoint3DDir) := Prod.ext (by decide +kernel) rfl
  have h := write_parse_convert_iff noInput seenPoint3D_addressable hwrite
  exact ⟨h.1.mpr (by decide), h.2 _ (by rfl)⟩

/-- The model of an image with a name of 2^32 bytes is written without an error, with the length 0. -/
theorem long_name_not_recovered :
    let name := List.replicate (2 ^ 32) (97 : UInt8)
    writeColmapModel (fun _ => true) (oneImage name) oneKeypoint (fun _ => none) =
        (.ok (), oneImageDir name) ∧
      ∀ input, ¬ RoundTrip maxSize64 (oneImageDir name) (oneImage name) input := by
  intro name
  have hname : name = 97 :: List.replicate (2 ^ 32 - 1) 97 := List.replicate_succ
  refine ⟨hname ▸ oneImage_accepted 97 _, fun input h => ?_⟩
  have hshort := short_of_roundTrip h _ (List.mem_singleton_self _)
  have hlength : name.length < 2 ^ 32 := hshort
  rw [List.length_replicate] at hlength
  exact absurd hlength (Nat.lt_irrefl _)

end RoundTrip

end SpatialPlatform.Adapters.Colmap
