import SpatialPlatform.Core.Reconstruction.ReconstructionJson
import SpatialPlatform.Lib.Fallible

/-!
# The shape of a reconstruction document

Which document `ReconstructionFromJson` takes for which reconstruction, as a
relation for each object of the document. What a number of the document has to
do with the field it is read into is a parameter: `documentFromJson_eq_ok` has
the conversions of the JSON library there.
-/

namespace SpatialPlatform.Core

open SpatialPlatform.Lib

/-- What the numbers of a document have to do with fields of each type. -/
structure NumberRelation where
  uint8 : Json → UInt8 → Prop
  int32 : Json → Int32 → Prop
  uint32 : Json → UInt32 → Prop
  int64 : Json → Int64 → Prop
  uint64 : Json → UInt64 → Prop
  double : Json → Float → Prop

/-- The object has the member, and it has the property. -/
def Member (obj : Json) (key : String) (P : Json → Prop) : Prop :=
  ∃ j, obj.member? key = some j ∧ P j

/-- An array of the elements. -/
def ArrayOf {α : Type} (R : Json → α → Prop) (j : Json) (l : List α) : Prop :=
  ∃ elements, j = .arr elements ∧ List.Forall₂ R elements l

/-- A member that may be missing, and is an empty text then. -/
def OptionalText (obj : Json) (key text : String) : Prop :=
  obj.member? key = none ∧ text = "" ∨ Member obj key (· = .str text)

section Shapes

variable (N : NumberRelation)

structure TrackElementOf (te : Json) (v : TrackElement) : Prop where
  isObject : te.isObject = true
  imageId : Member te "image_id" (N.uint32 · v.imageId)
  point2dIdx : Member te "point2d_idx" (N.int32 · v.point2dIdx)

structure PointOf (entry : Json) (pt : ReconPoint3D Float) : Prop where
  isObject : entry.isObject = true
  point3dId : Member entry "point3d_id" (N.uint64 · pt.point3dId)
  xyz : Member entry "xyz" (ArrayOf N.double · pt.xyz.toList)
  color : Member entry "color" (ArrayOf N.uint8 · pt.color.toList)
  error : Member entry "error" (N.double · pt.error)
  track : Member entry "track" (ArrayOf (TrackElementOf N) · pt.track)

structure PoseOf (pose : Json) (p : ReconPose Float) : Prop where
  isObject : pose.isObject = true
  rotationXyzw : Member pose "rotation_xyzw" (ArrayOf N.double · p.rotationXyzw.toList)
  translationXyz : Member pose "translation_xyz" (ArrayOf N.double · p.translationXyz.toList)

structure ImageOf (entry : Json) (img : ReconImage Float) : Prop where
  isObject : entry.isObject = true
  imageId : Member entry "image_id" (N.uint32 · img.imageId)
  cameraId : Member entry "camera_id" (N.uint32 · img.cameraId)
  frameId : OptionalText entry "frame_id" img.frameId
  name : Member entry "name" fun j => ∃ text, j = .str text ∧ stringBytes text = img.name
  pose : Member entry "pose" (PoseOf N · img.pose)
  detected : Member entry "detected" (· = .bool img.detected)

structure CameraOf (entry : Json) (cam : ReconCamera Float) : Prop where
  isObject : entry.isObject = true
  cameraId : Member entry "camera_id" (N.uint32 · cam.cameraId)
  width : Member entry "width" (N.int64 · cam.width)
  height : Member entry "height" (N.int64 · cam.height)
  intrinsicModel : Member entry "intrinsic_model" (· = .str cam.intrinsicModel)
  fx : Member entry "fx" (N.double · cam.fx)
  fy : Member entry "fy" (N.double · cam.fy)
  cx : Member entry "cx" (N.double · cam.cx)
  cy : Member entry "cy" (N.double · cam.cy)
  distortionModel : Member entry "distortion_model" (· = .str cam.distortionModel)
  distortionCoefficients :
    entry.member? "distortion_coefficients" = none ∧ cam.distortionCoefficients = [] ∨
      Member entry "distortion_coefficients" (ArrayOf N.double · cam.distortionCoefficients)
  calibrationRef : OptionalText entry "calibration_ref" cam.calibrationRef

structure BackendOf (backend : Json) (b : BackendInfo) : Prop where
  isObject : backend.isObject = true
  name : Member backend "name" (· = .str b.name)
  version : Member backend "version" (· = .str b.version)
  adapterVersion : Member backend "adapter_version" (· = .str b.adapterVersion)

structure ProvenanceOf (prov : Json) (p : ReconstructionProvenance) : Prop where
  isObject : prov.isObject = true
  backend : Member prov "backend" (BackendOf · p.backend)
  configurationHash : Member prov "configuration_hash" (· = .str p.configurationHash)
  inputArtifactHashes :
    Member prov "input_artifact_hashes" (· = .arr (p.inputArtifactHashes.map .str))
  engineVersion : Member prov "engine_version" (· = .str p.engineVersion)
  engineCommit : Member prov "engine_commit" (· = .str p.engineCommit)
  gitCommit : Member prov "git_commit" (· = .str p.gitCommit)
  startedAtNs : Member prov "started_at_ns" (N.int64 · p.startedAtNs)
  finishedAtNs : Member prov "finished_at_ns" (N.int64 · p.finishedAtNs)
  durationNs : Member prov "duration_ns" (N.int64 · p.durationNs)
  backendSpecificJson : OptionalText prov "backend_specific_json" p.backendSpecificJson

structure DocumentOf (doc : Json) (rec : Reconstruction Float) : Prop where
  reconstructionId : Member doc "reconstruction_id" (· = .str rec.reconstructionId)
  sceneId : Member doc "scene_id" (· = .str rec.sceneId)
  sessionIds : Member doc "session_ids" (· = .arr (rec.sessionIds.map .str))
  coordinateFrame : Member doc "coordinate_frame" (· = .str rec.coordinateFrame)
  status : OptionalText doc "status" rec.status
  createdAtNs : Member doc "created_at_ns" (N.int64 · rec.createdAtNs)
  provenance : Member doc "provenance" (ProvenanceOf N · rec.provenance)
  cameras : Member doc "cameras" (ArrayOf (CameraOf N) · rec.cameras)
  images : Member doc "images" (ArrayOf (ImageOf N) · rec.images)
  points3D : Member doc "points3D" (ArrayOf (PointOf N) · rec.points3D)

end Shapes

/-- What the library makes of the numbers: `get` of the type of the field. -/
def readNumbers : NumberRelation where
  uint8 j v := byte? j = some v
  int32 j v := getInt32 j = .ok v
  uint32 j v := getUInt32 j = .ok v
  int64 j v := getInt64 j = .ok v
  uint64 j v := getUInt64 j = .ok v
  double j v := j.number? = some v

/-! ## What the readers take

A reader that returns has met the shape it asks for, and the other way round:
one equivalence for each of the readers that the document is read with. -/

section Readers

variable {α : Type} {obj j : Json} {key subject : String}

theorem getString_eq_ok {text : String} : j.getString = .ok text ↔ j = .str text := by
  cases j with
  | str t => exact ⟨fun h => congrArg Json.str (Except.ok.inj h), fun h => by cases h; rfl⟩
  | _ => exact ⟨fun h => (nomatch h), fun h => (nomatch h)⟩

theorem getBool_eq_ok {b : Bool} : getBool j = .ok b ↔ j = .bool b := by
  cases j with
  | bool c => exact ⟨fun h => congrArg Json.bool (Except.ok.inj h), fun h => by cases h; rfl⟩
  | _ => exact ⟨fun h => (nomatch h), fun h => (nomatch h)⟩

theorem getDouble_eq_ok {x : Float} : getDouble j = .ok x ↔ j.number? = some x := by
  unfold getDouble
  cases j.number? with
  | none => exact ⟨fun h => (nomatch h), fun h => (nomatch h)⟩
  | some y => exact ⟨fun h => congrArg some (Except.ok.inj h), fun h => by cases h; rfl⟩

theorem jsonGetField_eq_ok {get : Json → Except String α} {a : α} :
    jsonGetField get obj key = .ok a ↔ Member obj key (get · = .ok a) := by
  unfold jsonGetField Member
  cases obj.member? key with
  | none => exact ⟨fun h => (nomatch h), fun ⟨_, h, _⟩ => (nomatch h)⟩
  | some value =>
      dsimp only
      rw [mapError_eq_ok_iff]
      exact ⟨fun h => ⟨value, rfl, h⟩, fun ⟨_, hvalue, h⟩ => Option.some.inj hvalue ▸ h⟩

theorem jsonOptionalField_eq_ok {text : String} :
    (∃ o, jsonOptionalField Json.getString obj key = .ok o ∧ o.getD "" = text) ↔
      OptionalText obj key text := by
  unfold jsonOptionalField OptionalText Member
  cases obj.member? key with
  | none =>
      constructor
      · rintro ⟨_, ⟨⟩, rfl⟩
        exact .inl ⟨rfl, rfl⟩
      · rintro (⟨-, rfl⟩ | ⟨_, h, -⟩)
        · exact ⟨none, rfl, rfl⟩
        · cases h
  | some value =>
      dsimp only
      constructor
      · rintro ⟨o, h, rfl⟩
        rcases hget : value.getString with e | t
        · rw [hget] at h
          cases h
        · rw [hget] at h
          cases h
          exact .inr ⟨value, rfl, getString_eq_ok.mp hget⟩
      · rintro (⟨h, -⟩ | ⟨_, hvalue, h⟩)
        · cases h
        · cases hvalue
          cases h
          exact ⟨some text, rfl, rfl⟩

theorem requireObject_eq_ok {u : Unit} :
    requireObject subject j = .ok u ↔ j.isObject = true := by
  unfold requireObject
  split
  · next h => exact ⟨fun _ => h, fun _ => rfl⟩
  · next h => exact ⟨fun h => (nomatch h), fun hobject => absurd hobject h⟩

theorem requireArray_eq_ok {elements : List Json} :
    requireArray subject j = .ok elements ↔ j = .arr elements := by
  cases j with
  | arr l => exact ⟨fun h => congrArg Json.arr (Except.ok.inj h), fun h => by cases h; rfl⟩
  | _ => exact ⟨fun h => (nomatch h), fun h => (nomatch h)⟩

theorem requireStrings_eq_ok {texts : List String} :
    requireStrings subject j = .ok texts ↔ j = .arr (texts.map .str) := by
  unfold requireStrings
  simp only [bind_eq_ok_iff, requireArray_eq_ok, mapM_eq_ok_iff]
  constructor
  · rintro ⟨elements, rfl, h⟩
    congr 1
    induction h with
    | nil => rfl
    | @cons element text _ _ hfirst _ ih =>
        rw [List.map_cons, ← ih]
        congr 1
        cases element with
        | str t => exact congrArg Json.str (Except.ok.inj hfirst)
        | _ => exact (nomatch hfirst)
  · rintro rfl
    refine ⟨_, rfl, ?_⟩
    rw [List.forall₂_map_left_iff, List.forall₂_same]
    exact fun _ _ => rfl

/-- Elements that are taken one by one. -/
theorem arrayOf_iff {f : Json → Except ProjectError α} {l : List α} :
    (∃ elements, requireArray subject j = .ok elements ∧ elements.mapM f = .ok l) ↔
      ArrayOf (fun j a => f j = .ok a) j l := by
  simp only [requireArray_eq_ok, mapM_eq_ok_iff, ArrayOf]

theorem jsonNumberVector_eq_ok {number : Json → Option α} {optional : Bool} {l : List α} :
    jsonNumberVector number obj key optional = .ok l ↔
      (optional = true ∧ obj.member? key = none ∧ l = []) ∨
        Member obj key (ArrayOf (fun j a => number j = some a) · l) := by
  have helement : ∀ (item : Json) (a : α) (e : ProjectError),
      (number item).elim (Except.error e) Except.ok = .ok a ↔ number item = some a := by
    intro item a e
    cases number item with
    | none => exact ⟨fun h => (nomatch h), fun h => (nomatch h)⟩
    | some b => exact ⟨fun h => congrArg some (Except.ok.inj h), fun h => by cases h; rfl⟩
  unfold jsonNumberVector Member
  cases obj.member? key with
  | none =>
      cases optional with
      | true =>
          constructor
          · intro h
            cases h
            exact .inl ⟨rfl, rfl, rfl⟩
          · rintro (⟨-, -, rfl⟩ | ⟨_, h, -⟩)
            · rfl
            · cases h
      | false => exact ⟨fun h => (nomatch h), fun h => by
          rcases h with ⟨h, -⟩ | ⟨_, h, -⟩ <;> cases h⟩
  | some value =>
      simp only [bind_eq_ok_iff, arrayOf_iff, helement]
      constructor
      · exact fun h => .inr ⟨value, rfl, h⟩
      · rintro (⟨-, h, -⟩ | ⟨_, hvalue, h⟩)
        · cases h
        · exact Option.some.inj hvalue ▸ h

theorem jsonFixed_eq_ok {n : Nat} {number : Json → Option α} {v : Vector α n} :
    jsonFixed n number obj key = .ok v ↔
      Member obj key (ArrayOf (fun j a => number j = some a) · v.toList) := by
  unfold jsonFixed
  simp only [bind_eq_ok_iff, jsonNumberVector_eq_ok, Bool.false_eq_true, false_and, false_or]
  constructor
  · rintro ⟨l, hl, h⟩
    split at h
    · cases h
      exact hl
    · cases h
  · intro h
    refine ⟨v.toList, h, ?_⟩
    rw [dif_pos v.length_toList]
    rfl

/-- A member that is taken as it is. -/
theorem jsonGetField_value_eq_ok {value : Json} :
    jsonGetField .ok obj key = .ok value ↔ obj.member? key = some value := by
  rw [jsonGetField_eq_ok]
  exact ⟨fun ⟨_, hj, h⟩ => Except.ok.inj h ▸ hj, fun h => ⟨value, h, rfl⟩⟩

end Readers

/-! ## What the parts of the document are read from

The same for the parts, from the smallest to the whole document. The relation of
numbers to values is a parameter, so what the source converts and what a field
can hold are two instances of one shape. -/

theorem trackElementFromJson_eq_ok {te : Json} {v : TrackElement} :
    trackElementFromJson te = .ok v ↔ TrackElementOf readNumbers te v := by
  unfold trackElementFromJson
  simp only [bind_eq_ok_iff, requireObject_eq_ok, jsonGetField_eq_ok]
  constructor
  · rintro ⟨_, hobject, imageId, himage, point2dIdx, hidx, hv⟩
    cases hv
    exact ⟨hobject, himage, hidx⟩
  · rintro ⟨hobject, himage, hidx⟩
    exact ⟨(), hobject, v.imageId, himage, v.point2dIdx, hidx, rfl⟩

theorem point3DFromJson_eq_ok {entry : Json} {pt : ReconPoint3D Float} :
    point3DFromJson entry = .ok pt ↔ PointOf readNumbers entry pt := by
  unfold point3DFromJson jsonVec3 jsonColor
  simp only [bind_eq_ok_iff, jsonGetField_value_eq_ok]
  simp only [requireObject_eq_ok, jsonGetField_eq_ok, jsonFixed_eq_ok, requireArray_eq_ok, mapM_eq_ok_iff, trackElementFromJson_eq_ok,
    getDouble_eq_ok]
  constructor
  · rintro ⟨_, hobject, id, hid, xyz, hxyz, color, hcolor, error, herror, j, hj, elements, helements,
      track, htrack, hpt⟩
    cases hpt
    exact ⟨hobject, hid, hxyz, hcolor, herror, j, hj, elements, helements, htrack⟩
  · rintro ⟨hobject, hid, hxyz, hcolor, herror, j, hj, elements, helements, htrack⟩
    exact ⟨(), hobject, pt.point3dId, hid, pt.xyz, hxyz, pt.color, hcolor, pt.error, herror, j, hj,
      elements, helements, pt.track, htrack, rfl⟩

theorem imageFromJson_eq_ok {entry : Json} {img : ReconImage Float} :
    imageFromJson entry = .ok img ↔ ImageOf readNumbers entry img := by
  unfold imageFromJson jsonVec4 jsonVec3
  simp only [bind_eq_ok_iff, jsonGetField_value_eq_ok]
  simp only [requireObject_eq_ok, jsonGetField_eq_ok, jsonFixed_eq_ok, getString_eq_ok, getBool_eq_ok]
  constructor
  · rintro ⟨_, hobject, imageId, himage, cameraId, hcamera, fid, hfid, name, ⟨j, hj, hname⟩, pose, hpose,
      _, hposeObject, rotation, hrotation, translation, htranslation, detected, hdetected, himg⟩
    cases himg
    exact ⟨hobject, himage, hcamera, jsonOptionalField_eq_ok.mp ⟨fid, hfid, rfl⟩,
      ⟨j, hj, name, hname, rfl⟩, ⟨pose, hpose, hposeObject, hrotation, htranslation⟩, hdetected⟩
  · rintro ⟨hobject, himage, hcamera, hframe, ⟨j, hj, name, hname, hbytes⟩,
      ⟨pose, hpose, hposeObject, hrotation, htranslation⟩, hdetected⟩
    obtain ⟨fid, hfid, hframeId⟩ := jsonOptionalField_eq_ok.mpr hframe
    refine ⟨(), hobject, img.imageId, himage, img.cameraId, hcamera, fid, hfid, name, ⟨j, hj, hname⟩,
      pose, hpose, (), hposeObject, img.pose.rotationXyzw, hrotation, img.pose.translationXyz,
      htranslation, img.detected, hdetected, ?_⟩
    rw [hframeId, hbytes]
    rfl

theorem cameraFromJson_eq_ok {entry : Json} {cam : ReconCamera Float} :
    cameraFromJson entry = .ok cam ↔ CameraOf readNumbers entry cam := by
  unfold cameraFromJson jsonDoubleVector
  simp only [bind_eq_ok_iff, requireObject_eq_ok, jsonGetField_eq_ok, jsonNumberVector_eq_ok,
    getString_eq_ok, getDouble_eq_ok, true_and]
  constructor
  · rintro ⟨_, hobject, id, hid, width, hwidth, height, hheight, model, hmodel, fx, hfx, fy, hfy, cx,
      hcx, cy, hcy, distortion, hdistortion, coefficients, hcoefficients, ref, href, hcam⟩
    cases hcam
    exact ⟨hobject, hid, hwidth, hheight, hmodel, hfx, hfy, hcx, hcy, hdistortion, hcoefficients,
      jsonOptionalField_eq_ok.mp ⟨ref, href, rfl⟩⟩
  · rintro ⟨hobject, hid, hwidth, hheight, hmodel, hfx, hfy, hcx, hcy, hdistortion, hcoefficients,
      hcalibration⟩
    obtain ⟨ref, href, hcalibrationRef⟩ := jsonOptionalField_eq_ok.mpr hcalibration
    refine ⟨(), hobject, cam.cameraId, hid, cam.width, hwidth, cam.height, hheight, cam.intrinsicModel,
      hmodel, cam.fx, hfx, cam.fy, hfy, cam.cx, hcx, cam.cy, hcy, cam.distortionModel, hdistortion,
      cam.distortionCoefficients, hcoefficients, ref, href, ?_⟩
    rw [hcalibrationRef]
    rfl

theorem provenanceFromJson_eq_ok {prov : Json} {p : ReconstructionProvenance} :
    provenanceFromJson prov = .ok p ↔ ProvenanceOf readNumbers prov p := by
  unfold provenanceFromJson
  simp only [bind_eq_ok_iff, jsonGetField_value_eq_ok]
  simp only [requireObject_eq_ok, jsonGetField_eq_ok, requireStrings_eq_ok, getString_eq_ok]
  constructor
  · rintro ⟨_, hobject, backend, hbackend, _, hbackendObject, name, hname, version, hversion, adapter,
      hadapter, hash, hhash, iah, hiah, hashes, hhashes, engine, hengine, commit, hcommit, git, hgit,
      started, hstarted, finished, hfinished, duration, hduration, bsj, hbsj, hp⟩
    cases hp
    exact ⟨hobject, ⟨backend, hbackend, hbackendObject, hname, hversion, hadapter⟩, hhash,
      ⟨iah, hiah, hhashes⟩, hengine, hcommit, hgit, hstarted, hfinished, hduration,
      jsonOptionalField_eq_ok.mp ⟨bsj, hbsj, rfl⟩⟩
  · rintro ⟨hobject, ⟨backend, hbackend, hbackendObject, hname, hversion, hadapter⟩, hhash,
      ⟨iah, hiah, hhashes⟩, hengine, hcommit, hgit, hstarted, hfinished, hduration, hspecific⟩
    obtain ⟨bsj, hbsj, hspecificJson⟩ := jsonOptionalField_eq_ok.mpr hspecific
    refine ⟨(), hobject, backend, hbackend, (), hbackendObject, _, hname, _, hversion, _, hadapter,
      _, hhash, iah, hiah, _, hhashes, _, hengine, _, hcommit, _, hgit, _, hstarted, _, hfinished,
      _, hduration, bsj, hbsj, ?_⟩
    rw [hspecificJson]
    rfl

theorem documentFromJson_eq_ok {doc : Json} {rec : Reconstruction Float} :
    documentFromJson doc = .ok rec ↔ DocumentOf readNumbers doc rec := by
  unfold documentFromJson
  simp only [bind_eq_ok_iff, jsonGetField_value_eq_ok]
  simp only [jsonGetField_eq_ok, requireStrings_eq_ok, requireArray_eq_ok, mapM_eq_ok_iff, getString_eq_ok, provenanceFromJson_eq_ok,
    cameraFromJson_eq_ok, imageFromJson_eq_ok, point3DFromJson_eq_ok]
  constructor
  · rintro ⟨id, hid, scene, hscene, sids, hsids, sessions, hsessions, frame, hframe, status, hstatus,
      created, hcreated, prov, hprov, provenance, hprovenance, c, hc, cs, hcs, cameras, hcameras, i,
      hi, is, his, images, himages, p, hp, ps, hps, points, hpoints, hrec⟩
    cases hrec
    exact ⟨hid, hscene, ⟨sids, hsids, hsessions⟩, hframe,
      jsonOptionalField_eq_ok.mp ⟨status, hstatus, rfl⟩, hcreated, ⟨prov, hprov, hprovenance⟩,
      ⟨c, hc, cs, hcs, hcameras⟩, ⟨i, hi, is, his, himages⟩, ⟨p, hp, ps, hps, hpoints⟩⟩
  · rintro ⟨hid, hscene, ⟨sids, hsids, hsessions⟩, hframe, hstatus, hcreated, ⟨prov, hprov, hprovenance⟩,
      ⟨c, hc, cs, hcs, hcameras⟩, ⟨i, hi, is, his, himages⟩, ⟨p, hp, ps, hps, hpoints⟩⟩
    obtain ⟨status, hstatus', hstatusText⟩ := jsonOptionalField_eq_ok.mpr hstatus
    refine ⟨_, hid, _, hscene, sids, hsids, _, hsessions, _, hframe, status, hstatus', _, hcreated,
      prov, hprov, _, hprovenance, c, hc, cs, hcs, _, hcameras, i, hi, is, his, _, himages, p, hp, ps,
      hps, _, hpoints, ?_⟩
    rw [hstatusText]
    rfl

/-! ## From one relation of numbers to another

Two documents of one shape agree if their numbers do. The lemmas follow the
shape; lists are inductions over the elements that were taken. -/

/-- What `L` has for a number with any value under `M` is a value under `N`. -/
structure NumberRelation.Meets (L M N : NumberRelation) : Prop where
  uint8 : ∀ {j v w}, L.uint8 j v → M.uint8 j w → N.uint8 j v
  int32 : ∀ {j v w}, L.int32 j v → M.int32 j w → N.int32 j v
  uint32 : ∀ {j v w}, L.uint32 j v → M.uint32 j w → N.uint32 j v
  int64 : ∀ {j v w}, L.int64 j v → M.int64 j w → N.int64 j v
  uint64 : ∀ {j v w}, L.uint64 j v → M.uint64 j w → N.uint64 j v
  double : ∀ {j v w}, L.double j v → M.double j w → N.double j v

/-- A number with a value under `L` has one under `N`. -/
structure NumberRelation.Yields (L N : NumberRelation) : Prop where
  uint8 : ∀ {j v}, L.uint8 j v → ∃ w, N.uint8 j w
  int32 : ∀ {j v}, L.int32 j v → ∃ w, N.int32 j w
  uint32 : ∀ {j v}, L.uint32 j v → ∃ w, N.uint32 j w
  int64 : ∀ {j v}, L.int64 j v → ∃ w, N.int64 j w
  uint64 : ∀ {j v}, L.uint64 j v → ∃ w, N.uint64 j w
  double : ∀ {j v}, L.double j v → ∃ w, N.double j w

section Members

variable {α β : Type} {obj : Json} {key : String}

theorem Member.meet {P Q R : Json → Prop} (hP : Member obj key P) (hQ : Member obj key Q)
    (h : ∀ j, P j → Q j → R j) : Member obj key R := by
  obtain ⟨j, hj, hPj⟩ := hP
  obtain ⟨j', hj', hQj⟩ := hQ
  obtain rfl : j = j' := Option.some.inj (hj.symm.trans hj')
  exact ⟨j, hj, h j hPj hQj⟩

theorem Member.yield {P : Json → Prop} {R : Json → β → Prop} (hP : Member obj key P)
    (h : ∀ j, P j → ∃ b, R j b) : ∃ b, Member obj key (R · b) := by
  obtain ⟨j, hj, hPj⟩ := hP
  obtain ⟨b, hb⟩ := h j hPj
  exact ⟨b, j, hj, hb⟩

theorem ArrayOf.meet {A C : Json → α → Prop} {B : Json → β → Prop} {j : Json} {l : List α}
    {l' : List β} (hA : ArrayOf A j l) (hB : ArrayOf B j l')
    (h : ∀ j a b, A j a → B j b → C j a) : ArrayOf C j l := by
  obtain ⟨elements, rfl, hl⟩ := hA
  obtain ⟨elements', heq, hl'⟩ := hB
  cases heq
  refine ⟨elements, rfl, ?_⟩
  induction hl generalizing l' with
  | nil => exact .nil
  | cons ha _ ih =>
      obtain ⟨b, rest, hb, hrest, rfl⟩ := List.forall₂_cons_left_iff.mp hl'
      exact .cons (h _ _ b ha hb) (ih hrest)

theorem ArrayOf.yield {A : Json → α → Prop} {C : Json → β → Prop} {j : Json} {l : List α}
    (hA : ArrayOf A j l) (h : ∀ j a, A j a → ∃ b, C j b) :
    ∃ l' : List β, l'.length = l.length ∧ ArrayOf C j l' := by
  obtain ⟨elements, rfl, hl⟩ := hA
  induction hl with
  | nil => exact ⟨[], rfl, [], rfl, .nil⟩
  | cons ha _ ih =>
      obtain ⟨b, hb⟩ := h _ _ ha
      obtain ⟨rest, hlength, _, heq, hrest⟩ := ih
      cases heq
      exact ⟨b :: rest, congrArg (· + 1) hlength, _, rfl, .cons hb hrest⟩

theorem ArrayOf.yield_list {A : Json → α → Prop} {C : Json → β → Prop} {j : Json} {l : List α}
    (hA : ArrayOf A j l) (h : ∀ j a, A j a → ∃ b, C j b) : ∃ l' : List β, ArrayOf C j l' := by
  obtain ⟨l', -, hl'⟩ := hA.yield h
  exact ⟨l', hl'⟩

/-- The same of an array with a fixed size. -/
theorem ArrayOf.yield_vector {n : Nat} {A : Json → α → Prop} {C : Json → β → Prop} {j : Json}
    {v : Vector α n} (hA : ArrayOf A j v.toList) (h : ∀ j a, A j a → ∃ b, C j b) :
    ∃ w : Vector β n, ArrayOf C j w.toList := by
  obtain ⟨l, hlength, hl⟩ := hA.yield h
  exact ⟨⟨l.toArray, hlength.trans v.length_toList⟩, hl⟩

end Members

section Meets

variable {L M N : NumberRelation} (h : L.Meets M N)

include h

theorem TrackElementOf.meet {te : Json} {v w : TrackElement} (hL : TrackElementOf L te v)
    (hM : TrackElementOf M te w) : TrackElementOf N te v where
  isObject := hL.isObject
  imageId := hL.imageId.meet hM.imageId fun _ => h.uint32
  point2dIdx := hL.point2dIdx.meet hM.point2dIdx fun _ => h.int32

theorem PointOf.meet {entry : Json} {pt pt' : ReconPoint3D Float} (hL : PointOf L entry pt)
    (hM : PointOf M entry pt') : PointOf N entry pt where
  isObject := hL.isObject
  point3dId := hL.point3dId.meet hM.point3dId fun _ => h.uint64
  xyz := hL.xyz.meet hM.xyz fun _ hl hm => hl.meet hm fun _ _ _ => h.double
  color := hL.color.meet hM.color fun _ hl hm => hl.meet hm fun _ _ _ => h.uint8
  error := hL.error.meet hM.error fun _ => h.double
  track := hL.track.meet hM.track fun _ hl hm => hl.meet hm fun _ _ _ => TrackElementOf.meet h

theorem PoseOf.meet {pose : Json} {p p' : ReconPose Float} (hL : PoseOf L pose p)
    (hM : PoseOf M pose p') : PoseOf N pose p where
  isObject := hL.isObject
  rotationXyzw := hL.rotationXyzw.meet hM.rotationXyzw fun _ hl hm =>
    hl.meet hm fun _ _ _ => h.double
  translationXyz := hL.translationXyz.meet hM.translationXyz fun _ hl hm =>
    hl.meet hm fun _ _ _ => h.double

theorem ImageOf.meet {entry : Json} {img img' : ReconImage Float} (hL : ImageOf L entry img)
    (hM : ImageOf M entry img') : ImageOf N entry img :=
  { hL with
    imageId := hL.imageId.meet hM.imageId fun _ => h.uint32
    cameraId := hL.cameraId.meet hM.cameraId fun _ => h.uint32
    pose := hL.pose.meet hM.pose fun _ => PoseOf.meet h }

theorem CameraOf.meet {entry : Json} {cam cam' : ReconCamera Float} (hL : CameraOf L entry cam)
    (hM : CameraOf M entry cam') : CameraOf N entry cam :=
  { hL with
    cameraId := hL.cameraId.meet hM.cameraId fun _ => h.uint32
    width := hL.width.meet hM.width fun _ => h.int64
    height := hL.height.meet hM.height fun _ => h.int64
    fx := hL.fx.meet hM.fx fun _ => h.double
    fy := hL.fy.meet hM.fy fun _ => h.double
    cx := hL.cx.meet hM.cx fun _ => h.double
    cy := hL.cy.meet hM.cy fun _ => h.double
    distortionCoefficients := by
      rcases hL.distortionCoefficients with hnone | hl
      · exact .inl hnone
      · rcases hM.distortionCoefficients with ⟨hnone, -⟩ | hm
        · obtain ⟨j, hj, -⟩ := hl
          rw [hnone] at hj
          cases hj
        · exact .inr (hl.meet hm fun _ hl hm => hl.meet hm fun _ _ _ => h.double) }

theorem ProvenanceOf.meet {prov : Json} {p p' : ReconstructionProvenance}
    (hL : ProvenanceOf L prov p) (hM : ProvenanceOf M prov p') : ProvenanceOf N prov p :=
  { hL with
    startedAtNs := hL.startedAtNs.meet hM.startedAtNs fun _ => h.int64
    finishedAtNs := hL.finishedAtNs.meet hM.finishedAtNs fun _ => h.int64
    durationNs := hL.durationNs.meet hM.durationNs fun _ => h.int64 }

theorem DocumentOf.meet {doc : Json} {rec rec' : Reconstruction Float} (hL : DocumentOf L doc rec)
    (hM : DocumentOf M doc rec') : DocumentOf N doc rec :=
  { hL with
    createdAtNs := hL.createdAtNs.meet hM.createdAtNs fun _ => h.int64
    provenance := hL.provenance.meet hM.provenance fun _ => ProvenanceOf.meet h
    cameras := hL.cameras.meet hM.cameras fun _ hl hm => hl.meet hm fun _ _ _ => CameraOf.meet h
    images := hL.images.meet hM.images fun _ hl hm => hl.meet hm fun _ _ _ => ImageOf.meet h
    points3D := hL.points3D.meet hM.points3D fun _ hl hm =>
      hl.meet hm fun _ _ _ => PointOf.meet h }

end Meets

section Yields

variable {L N : NumberRelation} (h : L.Yields N)

include h

theorem TrackElementOf.yield {te : Json} {v : TrackElement} (hL : TrackElementOf L te v) :
    ∃ w, TrackElementOf N te w := by
  obtain ⟨imageId, himage⟩ := hL.imageId.yield fun _ => h.uint32
  obtain ⟨point2dIdx, hidx⟩ := hL.point2dIdx.yield fun _ => h.int32
  exact ⟨⟨imageId, point2dIdx⟩, hL.isObject, himage, hidx⟩

theorem PointOf.yield {entry : Json} {pt : ReconPoint3D Float} (hL : PointOf L entry pt) :
    ∃ pt', PointOf N entry pt' := by
  obtain ⟨point3dId, hid⟩ := hL.point3dId.yield fun _ => h.uint64
  obtain ⟨xyz, hxyz⟩ := hL.xyz.yield fun _ hl => hl.yield_vector fun _ _ => h.double
  obtain ⟨color, hcolor⟩ := hL.color.yield fun _ hl => hl.yield_vector fun _ _ => h.uint8
  obtain ⟨error, herror⟩ := hL.error.yield fun _ => h.double
  obtain ⟨track, htrack⟩ : ∃ track, Member entry "track" (ArrayOf (TrackElementOf N) · track) :=
    hL.track.yield fun _ hl => hl.yield_list fun _ _ => TrackElementOf.yield h
  exact ⟨{ point3dId, xyz, color, error, track }, hL.isObject, hid, hxyz, hcolor, herror, htrack⟩

theorem PoseOf.yield {pose : Json} {p : ReconPose Float} (hL : PoseOf L pose p) :
    ∃ p', PoseOf N pose p' := by
  obtain ⟨rotation, hrotation⟩ := hL.rotationXyzw.yield fun _ hl =>
    hl.yield_vector fun _ _ => h.double
  obtain ⟨translation, htranslation⟩ := hL.translationXyz.yield fun _ hl =>
    hl.yield_vector fun _ _ => h.double
  exact ⟨⟨rotation, translation⟩, hL.isObject, hrotation, htranslation⟩

theorem ImageOf.yield {entry : Json} {img : ReconImage Float} (hL : ImageOf L entry img) :
    ∃ img', ImageOf N entry img' := by
  obtain ⟨imageId, himage⟩ := hL.imageId.yield fun _ => h.uint32
  obtain ⟨cameraId, hcamera⟩ := hL.cameraId.yield fun _ => h.uint32
  obtain ⟨pose, hpose⟩ := hL.pose.yield fun _ => PoseOf.yield h
  exact ⟨{ img with imageId, cameraId, pose }, hL.isObject, himage, hcamera, hL.frameId, hL.name,
    hpose, hL.detected⟩

theorem CameraOf.yield {entry : Json} {cam : ReconCamera Float} (hL : CameraOf L entry cam) :
    ∃ cam', CameraOf N entry cam' := by
  obtain ⟨cameraId, hid⟩ := hL.cameraId.yield fun _ => h.uint32
  obtain ⟨width, hwidth⟩ := hL.width.yield fun _ => h.int64
  obtain ⟨height, hheight⟩ := hL.height.yield fun _ => h.int64
  obtain ⟨fx, hfx⟩ := hL.fx.yield fun _ => h.double
  obtain ⟨fy, hfy⟩ := hL.fy.yield fun _ => h.double
  obtain ⟨cx, hcx⟩ := hL.cx.yield fun _ => h.double
  obtain ⟨cy, hcy⟩ := hL.cy.yield fun _ => h.double
  have hcoefficients : ∃ coefficients : List Float,
      entry.member? "distortion_coefficients" = none ∧ coefficients = [] ∨
        Member entry "distortion_coefficients" (ArrayOf N.double · coefficients) := by
    rcases hL.distortionCoefficients with ⟨hnone, -⟩ | hl
    · exact ⟨[], .inl ⟨hnone, rfl⟩⟩
    · obtain ⟨coefficients, hcoefficients⟩ := hl.yield fun _ hl =>
        hl.yield_list fun _ _ => h.double
      exact ⟨coefficients, .inr hcoefficients⟩
  obtain ⟨distortionCoefficients, hcoefficients⟩ := hcoefficients
  exact ⟨{ cam with cameraId, width, height, fx, fy, cx, cy, distortionCoefficients }, hL.isObject,
    hid, hwidth, hheight, hL.intrinsicModel, hfx, hfy, hcx, hcy, hL.distortionModel, hcoefficients,
    hL.calibrationRef⟩

theorem ProvenanceOf.yield {prov : Json} {p : ReconstructionProvenance}
    (hL : ProvenanceOf L prov p) : ∃ p', ProvenanceOf N prov p' := by
  obtain ⟨startedAtNs, hstarted⟩ := hL.startedAtNs.yield fun _ => h.int64
  obtain ⟨finishedAtNs, hfinished⟩ := hL.finishedAtNs.yield fun _ => h.int64
  obtain ⟨durationNs, hduration⟩ := hL.durationNs.yield fun _ => h.int64
  exact ⟨{ p with startedAtNs, finishedAtNs, durationNs }, hL.isObject, hL.backend,
    hL.configurationHash, hL.inputArtifactHashes, hL.engineVersion, hL.engineCommit, hL.gitCommit,
    hstarted, hfinished, hduration, hL.backendSpecificJson⟩

theorem DocumentOf.yield {doc : Json} {rec : Reconstruction Float} (hL : DocumentOf L doc rec) :
    ∃ rec', DocumentOf N doc rec' := by
  obtain ⟨createdAtNs, hcreated⟩ := hL.createdAtNs.yield fun _ => h.int64
  obtain ⟨provenance, hprovenance⟩ := hL.provenance.yield fun _ => ProvenanceOf.yield h
  obtain ⟨cameras, hcameras⟩ : ∃ cameras, Member doc "cameras" (ArrayOf (CameraOf N) · cameras) :=
    hL.cameras.yield fun _ hl => hl.yield_list fun _ _ => CameraOf.yield h
  obtain ⟨images, himages⟩ : ∃ images, Member doc "images" (ArrayOf (ImageOf N) · images) :=
    hL.images.yield fun _ hl => hl.yield_list fun _ _ => ImageOf.yield h
  obtain ⟨points3D, hpoints⟩ : ∃ points, Member doc "points3D" (ArrayOf (PointOf N) · points) :=
    hL.points3D.yield fun _ hl => hl.yield_list fun _ _ => PointOf.yield h
  exact ⟨{ rec with createdAtNs, provenance, cameras, images, points3D }, hL.reconstructionId,
    hL.sceneId, hL.sessionIds, hL.coordinateFrame, hL.status, hcreated, hprovenance, hcameras,
    himages, hpoints⟩

end Yields

end SpatialPlatform.Core
