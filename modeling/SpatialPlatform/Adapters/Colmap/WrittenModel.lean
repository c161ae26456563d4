import SpatialPlatform.Adapters.Colmap.ModelFormat
import SpatialPlatform.Adapters.Colmap.ModelWriter
import SpatialPlatform.Lib.Coordinates

/-!
# What `WriteColmapModel` writes

Each write appends a run of the format of `ModelFormat.lean` to its file, with
the value that the reader will return for it.
-/

namespace SpatialPlatform.Adapters.Colmap

open SpatialPlatform.Core SpatialPlatform.Lib SpatialPlatform.Lib.Persist ColmapBinWriter

/-- When the program returns, it has appended a run with the property to the file. -/
def Appends (file : ModelFile) (x : ModelWrite) (P : List UInt8 → Prop) : Prop :=
  ∀ dir dir' bytes, dir file = some bytes → x dir = (.ok (), dir') →
    ∃ run, P run ∧ dir' = Function.update dir file (some (bytes ++ run))

variable {file : ModelFile} {α β : Type}

theorem appends_put (run : List UInt8) : Appends file (put file run) (· = run) := by
  intro dir dir' bytes hbytes h
  refine ⟨run, rfl, ?_⟩
  have hdir := (Prod.mk.inj h).2
  rw [hbytes] at hdir
  exact hdir.symm

theorem Appends.fail {P : List UInt8 → Prop} (e : ProjectError) :
    Appends file (Persist.fail e) P := by
  intro dir dir' bytes _ h
  cases h

theorem Appends.mono {x : ModelWrite} {P Q : List UInt8 → Prop} (h : Appends file x P)
    (hPQ : ∀ run, P run → Q run) : Appends file x Q := by
  intro dir dir' bytes hbytes hrun
  obtain ⟨run, hP, hdir⟩ := h dir dir' bytes hbytes hrun
  exact ⟨run, hPQ run hP, hdir⟩

theorem Appends.bind {x y : ModelWrite} {P Q : List UInt8 → Prop} (hx : Appends file x P)
    (hy : Appends file y Q) :
    Appends file (x >>= fun _ => y) fun run => ∃ a b, run = a ++ b ∧ P a ∧ Q b := by
  intro dir dir' bytes hbytes h
  obtain ⟨_, dir₁, hrun, hrun'⟩ := Persist.bind_eq_ok h
  obtain ⟨a, hP, rfl⟩ := hx dir dir₁ bytes hbytes hrun
  obtain ⟨b, hQ, hdir⟩ := hy _ dir' (bytes ++ a) (Function.update_self ..) hrun'
  refine ⟨a ++ b, ⟨a, b, rfl, hP, hQ⟩, ?_⟩
  rw [hdir, Function.update_idem, List.append_assoc]

/-- A write, and what follows it. -/
theorem Appends.seq {x y : ModelWrite} {G : Format UInt8 α} {H : α → Format UInt8 β} {a : α} {b : β}
    (hx : Appends file x (G · a)) (hy : Appends file y (H a · b)) :
    Appends file (x >>= fun _ => y) (G.seq H · b) :=
  (hx.bind hy).mono fun _ ⟨first, second, hrun, hG, hH⟩ => ⟨first, second, a, hrun, hG, hH⟩

/-- The last write of a record. -/
theorem Appends.last {x : ModelWrite} {G : Format UInt8 α} {H : α → Format UInt8 β} {a : α} {b : β}
    (hx : Appends file x (G · a)) (h : H a [] b) : Appends file x (G.seq H · b) :=
  hx.mono fun run hG => ⟨run, [], a, (List.append_nil run).symm, hG, h⟩

/-- A loop appends the runs of its values. -/
theorem Appends.each {x : β → ModelWrite} {G : Format UInt8 α} {value : β → α} {bs : List β}
    (hx : ∀ b ∈ bs, Appends file (x b) (G · (value b))) :
    Appends file (Persist.each x bs) (G.times bs.length · (bs.map value)) := by
  induction bs with
  | nil =>
      intro dir dir' bytes hbytes h
      cases h
      refine ⟨[], Format.times_zero.mpr ⟨rfl, rfl⟩, ?_⟩
      rw [List.append_nil, ← hbytes, Function.update_eq_self]
  | cons b bs ih =>
      have hfirst := hx b List.mem_cons_self
      have hrest := ih fun b' hb' => hx b' (List.mem_cons_of_mem b hb')
      refine (hfirst.bind hrest).mono ?_
      intro run ⟨first, rest, hrun, hG, htimes⟩
      apply Format.times_succ.mpr
      exact ⟨first, rest, value b, hrun, hG, rest, [], bs.map value, by simp, htimes, rfl, rfl⟩

/-! ## Fields -/

theorem appends_u8 (v : UInt8) : Appends file (u8 file v) (u8Format · v) := appends_put _

theorem appends_u32 (v : UInt32) : Appends file (u32 file v) (u32Format · v) := appends_put _

theorem appends_i32 (v : Int32) : Appends file (i32 file v) (i32Format · v) := appends_put _

theorem appends_u64 (v : UInt64) : Appends file (u64 file v) (u64Format · v) := appends_put _

/-- A name of fewer than 2^32 bytes. -/
theorem appends_string {v : List UInt8} (h : v.length < 2 ^ 32) :
    Appends file (string file v) (stringFormat · v) := by
  refine ((appends_u32 _).bind (appends_put v)).mono ?_
  intro run ⟨len, bytes, hrun, hlen, hbytes⟩
  subst hrun hlen hbytes
  refine ⟨UInt32.ofNat bytes.length, rfl, ?_⟩
  rw [UInt32.toNat_ofNat', Nat.mod_eq_of_lt h]

section Records

variable {R : Type} [DoubleBits R]

theorem appends_f64 (v : R) : Appends file (f64 file v) (f64Format · v) := by
  unfold f64
  split
  · exact .fail _
  · rename_i hfinite
    refine (appends_put _).mono ?_
    rintro run rfl
    exact ⟨DoubleBits.toBits v, rfl, (DoubleBits.ofBits_toBits v (by simpa using hfinite)).symm⟩

theorem appends_f64s (vs : List R) :
    Appends file (Persist.each (f64 file) vs) (f64Format.times vs.length · vs) := by
  have h : Appends file (Persist.each (f64 file) vs)
      (f64Format.times vs.length · (vs.map fun v => v)) := Appends.each fun v _ => appends_f64 v
  rwa [List.map_id'] at h

/-! ## Records

For every record the bytes that are appended for it, as a run of the format of
the reader, and the value that the reader returns for this run. -/

/-- The camera that the reader returns for a row. -/
def writtenCamera (cam : ReconCamera R) (row : RowCamera R) (info : CameraModelInfo)
    (i : SparseModelIntrinsics R) : SparseModelCamera R where
  cameraId := cam.cameraId
  model := info.name
  intrinsicModel := info.intrinsicModel
  intrinsics := i
  width := cam.width
  height := cam.height
  modelId := row.modelId
  rawParams := row.params

theorem appends_camera {plan : WritePlan R} {cam : ReconCamera R} {row : RowCamera R}
    {info : CameraModelInfo} {i : SparseModelIntrinsics R}
    (hrow : plan.cameraRows.lookup cam.cameraId = some row)
    (hinfo : modelInfo row.modelId = some info) (hlen : row.params.length = info.numParams)
    (hi : intrinsics info.singleFocal row.params = some i) :
    Appends .cameras (writeCamera plan cam) (cameraFormat · (writtenCamera cam row info i)) := by
  unfold writeCamera
  rw [hrow]
  refine (appends_u32 _).seq ((appends_i32 _).seq ?_)
  rw [hinfo]
  refine (appends_u64 _).seq ((appends_u64 _).seq ((hlen ▸ appends_f64s row.params).last ?_))
  rw [hi]
  refine ⟨rfl, ?_⟩
  simp [writtenCamera]

/-- The three rows that `CameraRecord` can give. -/
theorem cameraRecord_ok {cam : ReconCamera R} {row : RowCamera R} (h : cameraRecord cam = .ok row) :
    (cam.intrinsicModel = "pinhole" ∧ cam.distortionModel = "none" ∧
      cam.distortionCoefficients = [] ∧ row = ⟨1, [cam.fx, cam.fy, cam.cx, cam.cy]⟩) ∨
    (cam.distortionCoefficients.length = 4 ∧
      ((cam.intrinsicModel = "opencv" ∧ cam.distortionModel = "opencv_radial" ∧
        row = ⟨4, [cam.fx, cam.fy, cam.cx, cam.cy] ++ cam.distortionCoefficients⟩) ∨
      (cam.intrinsicModel = "opencv_fisheye" ∧ cam.distortionModel = "opencv_fisheye" ∧
        row = ⟨5, [cam.fx, cam.fy, cam.cx, cam.cy] ++ cam.distortionCoefficients⟩))) := by
  unfold cameraRecord at h
  dsimp only at h
  split at h
  · cases h
  split at h
  · rename_i hmodel
    split at h
    · cases h
    · rename_i hd
      cases h
      exact .inl ⟨hmodel.1, hmodel.2, by simpa using hd, rfl⟩
  split at h
  · rename_i hmodel
    split at h
    · cases h
    · rename_i hd
      cases h
      exact .inr ⟨by simpa using hd, .inl ⟨hmodel.1, hmodel.2, rfl⟩⟩
  split at h
  · rename_i hmodel
    split at h
    · cases h
    · rename_i hd
      cases h
      exact .inr ⟨by simpa using hd, .inr ⟨hmodel.1, hmodel.2, rfl⟩⟩
  · cases h

/-- The camera comes back as it was, but for its reference to a calibration. -/
theorem camera_recovered {cam : ReconCamera R} {row : RowCamera R} (h : cameraRecord cam = .ok row) :
    ∃ info i, modelInfo row.modelId = some info ∧ row.params.length = info.numParams ∧
      intrinsics info.singleFocal row.params = some i ∧
      reconCameraOfModel (writtenCamera cam row info i) = { cam with calibrationRef := "" } := by
  obtain ⟨id, width, height, intrinsicModel, fx, fy, cx, cy, distortionModel, d, ref⟩ := cam
  obtain ⟨rfl, rfl, rfl, rfl⟩ | ⟨hd, hmodel⟩ := cameraRecord_ok h
  · exact ⟨⟨"PINHOLE", 4, "pinhole", false⟩, ⟨fx, fy, cx, cy⟩, rfl, rfl, rfl, rfl⟩
  · obtain ⟨k1, k2, k3, k4, rfl⟩ : ∃ k1 k2 k3 k4, d = [k1, k2, k3, k4] := by
      match d, hd with
      | [k1, k2, k3, k4], _ => exact ⟨k1, k2, k3, k4, rfl⟩
    obtain ⟨rfl, rfl, rfl⟩ | ⟨rfl, rfl, rfl⟩ := hmodel
    · exact ⟨⟨"OPENCV", 8, "opencv", false⟩, ⟨fx, fy, cx, cy⟩, rfl, rfl, rfl, rfl⟩
    · exact ⟨⟨"OPENCV_FISHEYE", 8, "opencv_fisheye", false⟩, ⟨fx, fy, cx, cy⟩, rfl, rfl, rfl, rfl⟩

section Pose

variable [Neg R] [Add R] [Sub R] [Mul R] [OfNat R 2]

/-- The image that the reader returns. -/
def writtenImage (img : ReconImage R) : SparseModelImage R where
  imageId := img.imageId
  cameraId := img.cameraId
  name := img.name
  qvec := (canonicalPoseToColmap img.pose).1
  tvec := (canonicalPoseToColmap img.pose).2

omit [Neg R] [Add R] [Sub R] [Mul R] [OfNat R 2] in
theorem appends_keypoint (track : UInt32 → Option UInt64) (kp : Vector R 2 × Nat) :
    Appends .images (writeKeypoint track kp) (skipFormat 24 · ()) := by
  have hpoint : ∀ v : Int64, Appends .images (i64 .images v) fun run => run.length = 8 := by
    intro v
    refine (appends_put _).mono fun run hrun => ?_
    rw [hrun, length_leBytes]
  have hnumber : ∀ v : R, Appends .images (f64 .images v) fun run => run.length = 8 := by
    intro v
    refine (appends_f64 v).mono fun run hrun => ?_
    obtain ⟨bits, rfl, -⟩ := hrun
    exact length_leBytes ..
  have hrecord : ∀ v : Int64, Appends .images
      (f64 .images (kp.1 0) >>= fun _ => f64 .images (kp.1 1) >>= fun _ => i64 .images v)
      (skipFormat 24 · ()) := by
    intro v
    refine ((hnumber _).bind ((hnumber _).bind (hpoint v))).mono ?_
    rintro run ⟨x, rest, hrun, hx, y, id, hrest, hy, hid⟩
    show run.length = 24
    rw [hrun, hrest, List.length_append, List.length_append, hx, hy, hid]
  unfold writeKeypoint
  cases track (UInt32.ofNat kp.2) with
  | some point3dId => exact hrecord point3dId.toInt64
  | none => exact hrecord (-1)

omit [Neg R] [Add R] [Sub R] [Mul R] [OfNat R 2] in
/-- The keypoints of an image are `24` bytes each. -/
theorem appends_keypoints (track : UInt32 → Option UInt64) (kpts : List (Vector R 2 × Nat)) :
    Appends .images (Persist.each (writeKeypoint track) kpts)
      ((skipFormat 24).times kpts.length · (kpts.map fun _ => ())) :=
  Appends.each fun kp _ => appends_keypoint track kp

omit [DoubleBits R] [Neg R] [Add R] [Sub R] [Mul R] [OfNat R 2] in
theorem vector_four (v : Vector R 4) : Vector.quadruple (v 0) (v 1) (v 2) (v 3) = v := by
  apply Vector.ext
  intro i hi
  interval_cases i <;> rfl

theorem vector_three {S : Type} (v : Vector S 3) : Vector.triple (v 0) (v 1) (v 2) = v := by
  apply Vector.ext
  intro i hi
  interval_cases i <;> rfl

theorem appends_image {plan : WritePlan R} {img : ReconImage R} {kpts : ColmapKeypoints R}
    (hkpts : plan.keypoints.lookup img.imageId = some kpts) (hcount : kpts.length < 2 ^ 64)
    (hname : img.name.length < 2 ^ 32) :
    Appends .images (writeImage plan img) (imageFormat · (writtenImage img)) := by
  have hlen : (UInt64.ofNat kpts.length).toNat = kpts.zipIdx.length := by
    rw [UInt64.toNat_ofNat', Nat.mod_eq_of_lt hcount, List.length_zipIdx]
  unfold writeImage
  rw [hkpts]
  refine (appends_u32 _).seq ((appends_f64 _).seq ((appends_f64 _).seq ((appends_f64 _).seq
    ((appends_f64 _).seq ((appends_f64 _).seq ((appends_f64 _).seq ((appends_f64 _).seq
    ((appends_u32 _).seq ((appends_string hname).seq ((appends_u64 _).seq ?_))))))))))
  refine Appends.last (hlen ▸ appends_keypoints _ _) ⟨rfl, ?_⟩
  rw [vector_four, vector_three]
  rfl

end Pose

/-- The point that the reader returns. -/
def writtenPoint (pt : ReconPoint3D R) : SparseModelPoint R where
  point3dId := pt.point3dId
  xyz := pt.xyz
  rgb := pt.color
  error := pt.error
  track := pt.track.map fun te => ⟨te.imageId, te.point2dIdx.toUInt32⟩

theorem appends_trackElement (te : TrackElement) :
    Appends .points3D (writeTrackElement te)
      (trackElementFormat · ⟨te.imageId, te.point2dIdx.toUInt32⟩) :=
  (appends_u32 _).seq ((appends_u32 _).last ⟨rfl, rfl⟩)

theorem appends_point {pt : ReconPoint3D R} (hcount : pt.track.length < 2 ^ 64) :
    Appends .points3D (writePoint3D pt) (pointFormat · (writtenPoint pt)) := by
  have hlen : (UInt64.ofNat pt.track.length).toNat = pt.track.length := by
    rw [UInt64.toNat_ofNat', Nat.mod_eq_of_lt hcount]
  have hhead : Appends .points3D (writePointHead pt)
      (pointHeadFormat · ({ writtenPoint pt with track := [] }, UInt64.ofNat pt.track.length)) := by
    refine (appends_u64 _).seq ((appends_f64 _).seq ((appends_f64 _).seq ((appends_f64 _).seq
      ((appends_u8 _).seq ((appends_u8 _).seq ((appends_u8 _).seq ((appends_f64 _).seq
      ((appends_u64 _).last ⟨rfl, ?_⟩))))))))
    rw [vector_three, vector_three]
    rfl
  refine hhead.seq ((hlen ▸ Appends.each fun te _ => appends_trackElement te).last ⟨rfl, rfl⟩)

omit [DoubleBits R] in
theorem point_recovered (pt : ReconPoint3D R) : reconPointOfModel (writtenPoint pt) = pt := by
  have htrack : ∀ te : TrackElement, (⟨te.imageId, te.point2dIdx.toUInt32.toInt32⟩ : TrackElement) =
      te := by
    intro te
    simp
  simp [reconPointOfModel, writtenPoint, Function.comp_def]

end Records

end SpatialPlatform.Adapters.Colmap
