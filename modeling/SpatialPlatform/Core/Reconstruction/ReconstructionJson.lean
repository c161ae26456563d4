import SpatialPlatform.Core.Artifacts.Held
import SpatialPlatform.Core.JsonAccess
import SpatialPlatform.Core.Reconstruction.Document

/-!
# Reconstruction documents as JSON

`core/reconstruction/reconstruction_json.h`: the writer of the document of a
reconstruction, the strict reader that a later stage opens it with, and that the
reader gives back what was written. The two functions are written separately;
what ties them together is one lemma for each object of the document, from the
elements of a track up to the document itself.
-/

namespace SpatialPlatform.Core

/-! ## Writing

The members of each part in the order of their keys. Names are bytes, so an
entry exists only for a name that is a text. -/

/-- A member that is left out when its text is empty. -/
def optionalText (key text : String) : List (String × Json) :=
  if text = "" then [] else [(key, .str text)]

def BackendInfo.members (b : BackendInfo) : List (String × Json) :=
  [("name", .str b.name), ("version", .str b.version), ("adapter_version", .str b.adapterVersion)]

def ReconstructionProvenance.members (p : ReconstructionProvenance) : List (String × Json) :=
  [("backend", .object p.backend.members),
    ("configuration_hash", .str p.configurationHash),
    ("input_artifact_hashes", .arr (p.inputArtifactHashes.map .str)),
    ("engine_version", .str p.engineVersion),
    ("engine_commit", .str p.engineCommit),
    ("git_commit", .str p.gitCommit),
    ("started_at_ns", .int p.startedAtNs.toInt),
    ("finished_at_ns", .int p.finishedAtNs.toInt),
    ("duration_ns", .int p.durationNs.toInt)] ++
  optionalText "backend_specific_json" p.backendSpecificJson

def ReconCamera.members (c : ReconCamera Float) : List (String × Json) :=
  [("camera_id", .int c.cameraId.toNat),
    ("width", .int c.width.toInt),
    ("height", .int c.height.toInt),
    ("intrinsic_model", .str c.intrinsicModel),
    ("fx", .float c.fx),
    ("fy", .float c.fy),
    ("cx", .float c.cx),
    ("cy", .float c.cy),
    ("distortion_model", .str c.distortionModel),
    ("distortion_coefficients", .arr (c.distortionCoefficients.map .float))] ++
  optionalText "calibration_ref" c.calibrationRef

def ReconPose.members (p : ReconPose Float) : List (String × Json) :=
  [("rotation_xyzw", .arr (p.rotationXyzw.toList.map .float)),
    ("translation_xyz", .arr (p.translationXyz.toList.map .float))]

/-- The members of an image whose name is a text. -/
def ReconImage.members (image : ReconImage Float) (name : String) : List (String × Json) :=
  [("image_id", .int image.imageId.toNat),
    ("camera_id", .int image.cameraId.toNat)] ++
  optionalText "frame_id" image.frameId ++
  [("name", .str name),
    ("pose", .object image.pose.members),
    ("detected", .bool image.detected)]

/-- The text that the bytes of a name encode. -/
def ReconImage.nameText? (image : ReconImage Float) : Option String :=
  String.fromUTF8? ⟨image.name.toArray⟩

/-- The entry of an image. `dump` throws for a name that is not UTF-8. -/
def ReconImage.json? (image : ReconImage Float) : Option Json :=
  image.nameText?.map fun name => .object (image.members name)

def TrackElement.members (te : TrackElement) : List (String × Json) :=
  [("image_id", .int te.imageId.toNat), ("point2d_idx", .int te.point2dIdx.toInt)]

def ReconPoint3D.members (pt : ReconPoint3D Float) : List (String × Json) :=
  [("point3d_id", .int pt.point3dId.toNat),
    ("xyz", .arr (pt.xyz.toList.map .float)),
    ("color", .arr (pt.color.toList.map fun c => .int c.toNat)),
    ("error", .float pt.error),
    ("track", .arr (pt.track.map fun te => .object te.members))]

/-- The members of the document, around the entries of its images. -/
def Reconstruction.members (rec : Reconstruction Float) (images : List Json) :
    List (String × Json) :=
  [("schema_version", .int 2),
    ("reconstruction_id", .str rec.reconstructionId),
    ("scene_id", .str rec.sceneId),
    ("session_ids", .arr (rec.sessionIds.map .str)),
    ("coordinate_frame", .str rec.coordinateFrame)] ++
  optionalText "status" rec.status ++
  [("created_at_ns", .int rec.createdAtNs.toInt),
    ("provenance", .object rec.provenance.members),
    ("cameras", .arr (rec.cameras.map fun c => .object c.members)),
    ("images", .arr images),
    ("points3D", .arr (rec.points3D.map fun pt => .object pt.members))]

/-- The document of a reconstruction, unless it has a name that cannot be written. -/
def Reconstruction.document? (rec : Reconstruction Float) : Option Json := do
  let images ← rec.images.mapM ReconImage.json?
  return .object (rec.members images)

/-- `ReconstructionToJson`; `none` where `dump` throws. -/
def reconstructionToJson (json : JsonLibrary) (rec : Reconstruction Float) : Option String :=
  rec.document?.map (json.dump none)

/-! ## Reading

The accessors throw with the path of the member; conversions are those of the
library, which does not check ranges. -/

/-- `ReconstructionJsonViolation`. -/
def reconstructionJsonViolation (detail : String) : ProjectError :=
  ⟨.validationDomain, "reconstruction document: " ++ detail⟩

/-- `JsonGetField`. -/
def jsonGetField {α : Type} (get : Json → Except String α) (obj : Json) (key : String) :
    Except ProjectError α :=
  match obj.member? key with
  | none => .error (reconstructionJsonViolation ("missing field '" ++ key ++ "'"))
  | some value => (get value).mapError fun _ =>
      reconstructionJsonViolation ("field '" ++ key ++ "' has an invalid value type")

/-- `JsonOptionalField`. -/
def jsonOptionalField {α : Type} (get : Json → Except String α) (obj : Json) (key : String) :
    Except ProjectError (Option α) :=
  match obj.member? key with
  | none => .ok none
  | some value => ((get value).mapError fun _ =>
      reconstructionJsonViolation ("field '" ++ key ++ "' has an invalid value type")).map some

/-! ### Arrays and objects -/

/-- `get<double>` and the cast to `std::uint8_t`, of a value with `is_number`.
The cast of a number that is out of the range of a byte is undefined; it is the
last byte here. -/
def byte? : Json → Option UInt8
  | .int n => some (UInt8.ofInt n)
  | .float x => some x.toUInt8
  | _ => none

/-- `is_array`, or the violation. -/
def requireArray (subject : String) : Json → Except ProjectError (List Json)
  | .arr elements => .ok elements
  | _ => .error (reconstructionJsonViolation (subject ++ " must be an array"))

/-- `is_object`, or the violation. -/
def requireObject (subject : String) (j : Json) : Except ProjectError Unit :=
  if j.isObject then .ok ()
  else .error (reconstructionJsonViolation (subject ++ " must be an object"))

/-- An array of strings. -/
def requireStrings (subject : String) (j : Json) : Except ProjectError (List String) := do
  let elements ← requireArray subject j
  elements.mapM fun
    | .str text => .ok text
    | _ => .error (reconstructionJsonViolation (subject ++ " contains a non-string"))

/-- `JsonDoubleVector`, with what is done to each number. -/
def jsonNumberVector {α : Type} (number : Json → Option α) (obj : Json) (key : String)
    (optional : Bool) : Except ProjectError (List α) :=
  match obj.member? key with
  | none =>
      if optional then .ok []
      else .error (reconstructionJsonViolation ("missing field '" ++ key ++ "'"))
  | some value => do
      let elements ← requireArray ("field '" ++ key ++ "'") value
      elements.mapM fun item => (number item).elim
        (.error (reconstructionJsonViolation ("field '" ++ key ++ "' contains a non-number"))) .ok

/-- `JsonDoubleVector`. -/
def jsonDoubleVector : Json → String → Bool → Except ProjectError (List Float) :=
  jsonNumberVector Json.number?

/-- The check of the size of a vector. -/
def jsonFixed {α : Type} (n : Nat) (number : Json → Option α) (obj : Json) (key : String) :
    Except ProjectError (Vector α n) := do
  let v ← jsonNumberVector number obj key false
  if h : v.length = n then
    return ⟨v.toArray, h⟩
  else
    throw (reconstructionJsonViolation
      ("field '" ++ key ++ "' must have exactly " ++ toString n ++ " elements"))

/-- `JsonVec4`. -/
def jsonVec4 : Json → String → Except ProjectError (Vector Float 4) := jsonFixed 4 Json.number?

/-- `JsonVec3`. -/
def jsonVec3 : Json → String → Except ProjectError (Vector Float 3) := jsonFixed 3 Json.number?

/-- `JsonColor`. -/
def jsonColor : Json → String → Except ProjectError (Vector UInt8 3) := jsonFixed 3 byte?

/-! ### The parts of the document -/

/-- The provenance and its backend. -/
def provenanceFromJson (prov : Json) : Except ProjectError ReconstructionProvenance := do
  requireObject "field 'provenance'" prov
  let backend ← jsonGetField .ok prov "backend"
  requireObject "provenance 'backend'" backend
  let name ← jsonGetField Json.getString backend "name"
  let version ← jsonGetField Json.getString backend "version"
  let adapterVersion ← jsonGetField Json.getString backend "adapter_version"
  let configurationHash ← jsonGetField Json.getString prov "configuration_hash"
  let iah ← jsonGetField .ok prov "input_artifact_hashes"
  let inputArtifactHashes ← requireStrings "provenance 'input_artifact_hashes'" iah
  let engineVersion ← jsonGetField Json.getString prov "engine_version"
  let engineCommit ← jsonGetField Json.getString prov "engine_commit"
  let gitCommit ← jsonGetField Json.getString prov "git_commit"
  let startedAtNs ← jsonGetField getInt64 prov "started_at_ns"
  let finishedAtNs ← jsonGetField getInt64 prov "finished_at_ns"
  let durationNs ← jsonGetField getInt64 prov "duration_ns"
  let bsj ← jsonOptionalField Json.getString prov "backend_specific_json"
  return {
    backend := { name, version, adapterVersion }
    configurationHash, inputArtifactHashes, engineVersion, engineCommit, gitCommit, startedAtNs,
    finishedAtNs, durationNs
    backendSpecificJson := bsj.getD "" }

/-- One entry of `cameras`. -/
def cameraFromJson (entry : Json) : Except ProjectError (ReconCamera Float) := do
  requireObject "camera entry" entry
  let cameraId ← jsonGetField getUInt32 entry "camera_id"
  let width ← jsonGetField getInt64 entry "width"
  let height ← jsonGetField getInt64 entry "height"
  let intrinsicModel ← jsonGetField Json.getString entry "intrinsic_model"
  let fx ← jsonGetField getDouble entry "fx"
  let fy ← jsonGetField getDouble entry "fy"
  let cx ← jsonGetField getDouble entry "cx"
  let cy ← jsonGetField getDouble entry "cy"
  let distortionModel ← jsonGetField Json.getString entry "distortion_model"
  let distortionCoefficients ← jsonDoubleVector entry "distortion_coefficients" true
  let ref ← jsonOptionalField Json.getString entry "calibration_ref"
  return {
    cameraId, width, height, intrinsicModel, fx, fy, cx, cy, distortionModel,
    distortionCoefficients
    calibrationRef := ref.getD "" }

/-- One entry of `images`. -/
def imageFromJson (entry : Json) : Except ProjectError (ReconImage Float) := do
  requireObject "image entry" entry
  let imageId ← jsonGetField getUInt32 entry "image_id"
  let cameraId ← jsonGetField getUInt32 entry "camera_id"
  let fid ← jsonOptionalField Json.getString entry "frame_id"
  let name ← jsonGetField Json.getString entry "name"
  let pose ← jsonGetField .ok entry "pose"
  requireObject "image 'pose'" pose
  let rotationXyzw ← jsonVec4 pose "rotation_xyzw"
  let translationXyz ← jsonVec3 pose "translation_xyz"
  let detected ← jsonGetField getBool entry "detected"
  return {
    imageId, cameraId, detected
    frameId := fid.getD ""
    name := stringBytes name
    pose := { rotationXyzw, translationXyz } }

/-- One entry of `track`. -/
def trackElementFromJson (te : Json) : Except ProjectError TrackElement := do
  requireObject "track element" te
  let imageId ← jsonGetField getUInt32 te "image_id"
  let point2dIdx ← jsonGetField getInt32 te "point2d_idx"
  return { imageId, point2dIdx }

/-- One entry of `points3D`. -/
def point3DFromJson (entry : Json) : Except ProjectError (ReconPoint3D Float) := do
  requireObject "point3D entry" entry
  let point3dId ← jsonGetField getUInt64 entry "point3d_id"
  let xyz ← jsonVec3 entry "xyz"
  let color ← jsonColor entry "color"
  let error ← jsonGetField getDouble entry "error"
  let track ← jsonGetField .ok entry "track"
  let elements ← requireArray "point3D 'track'" track
  let track ← elements.mapM trackElementFromJson
  return { point3dId, xyz, color, error, track }

/-- `ReconstructionFromJson`, of a document. -/
def documentFromJson (doc : Json) : Except ProjectError (Reconstruction Float) := do
  let reconstructionId ← jsonGetField Json.getString doc "reconstruction_id"
  let sceneId ← jsonGetField Json.getString doc "scene_id"
  let sids ← jsonGetField .ok doc "session_ids"
  let sessionIds ← requireStrings "field 'session_ids'" sids
  let coordinateFrame ← jsonGetField Json.getString doc "coordinate_frame"
  let status ← jsonOptionalField Json.getString doc "status"
  let createdAtNs ← jsonGetField getInt64 doc "created_at_ns"
  let prov ← jsonGetField .ok doc "provenance"
  let provenance ← provenanceFromJson prov
  let cameras ← jsonGetField .ok doc "cameras"
  let entries ← requireArray "field 'cameras'" cameras
  let cameras ← entries.mapM cameraFromJson
  let images ← jsonGetField .ok doc "images"
  let entries ← requireArray "field 'images'" images
  let images ← entries.mapM imageFromJson
  let points ← jsonGetField .ok doc "points3D"
  let entries ← requireArray "field 'points3D'" points
  let points3D ← entries.mapM point3DFromJson
  return {
    reconstructionId, sceneId, sessionIds, coordinateFrame, createdAtNs, provenance, cameras,
    images, points3D
    status := status.getD "" }

/-- `ReconstructionFromJson`. -/
def reconstructionFromJson (json : JsonLibrary) (jsonText : String) :
    Except ProjectError (Reconstruction Float) :=
  match json.parse jsonText with
  | .error _ => .error (reconstructionJsonViolation "document is not valid JSON object text")
  | .ok doc =>
      if doc.isObject then documentFromJson doc
      else .error (reconstructionJsonViolation "document is not valid JSON object text")

/-! ## Reading what was written

What each accessor finds in a member that the writer has put there. -/

/-- The same, of elements that can be written only in part. -/
theorem mapM_of_mapM {ε α β : Type} {get : β → Except ε α} {put : α → Option β}
    (h : ∀ a b, put a = some b → get b = .ok a) {l : List α} {written : List β}
    (hwritten : l.mapM put = some written) : written.mapM get = .ok l := by
  induction l generalizing written with
  | nil =>
      cases hwritten
      rfl
  | cons a l ih =>
      rw [List.mapM_cons] at hwritten
      obtain ⟨b, hb, hrest⟩ := Option.bind_eq_some_iff.mp hwritten
      obtain ⟨rest, hl, hcons⟩ := Option.bind_eq_some_iff.mp hrest
      cases hcons
      rw [List.mapM_cons, h a b hb, ih hl]
      rfl

section Values

theorem byte?_toNat (n : UInt8) : byte? (.int n.toNat) = some n := by
  show some (UInt8.ofInt n.toNat) = _
  have hn := n.toNat_lt
  congr 1
  apply UInt8.toNat_inj.mp
  simp [UInt8.ofInt]
  omega

theorem number?_float (x : Float) : (Json.float x).number? = some x := rfl

/-- The bytes of a text that was decoded. -/
theorem stringBytes_of_fromUTF8? {bytes : List UInt8} {text : String}
    (h : String.fromUTF8? ⟨bytes.toArray⟩ = some text) : stringBytes text = bytes := by
  simp only [String.fromUTF8?, Option.dite_none_right_eq_some, Option.some.injEq] at h
  obtain ⟨hvalid, rfl⟩ := h
  rfl

theorem requireStrings_arr (subject : String) (texts : List String) :
    requireStrings subject (.arr (texts.map .str)) = .ok texts :=
  mapM_map_of_forall fun _ _ => rfl

end Values

section Members

variable {α : Type} {members : List (String × Json)} (hkeys : (members.map (·.1)).Nodup)
  {key : String} {value : Json}

include hkeys

theorem jsonGetField_object {get : Json → Except String α} {a : α} (hmem : (key, value) ∈ members)
    (hget : get value = .ok a) : jsonGetField get (.object members) key = .ok a := by
  rw [jsonGetField, Json.member?_object hkeys hmem]
  simp only [hget]
  rfl

/-- An optional text is read back, whether it is empty or not. -/
theorem jsonOptionalField_object {text : String} (hmem : text ≠ "" → (key, .str text) ∈ members)
    (hkey : text = "" → key ∉ members.map (·.1)) :
    jsonOptionalField Json.getString (.object members) key =
      .ok (if text = "" then none else some text) := by
  by_cases hempty : text = ""
  · rw [jsonOptionalField, Json.member?_object_of_notMem (hkey hempty), if_pos hempty]
  · rw [jsonOptionalField, Json.member?_object hkeys (hmem hempty), if_neg hempty]
    rfl

theorem jsonNumberVector_object {number : Json → Option α} {put : α → Json}
    (hnumber : ∀ a, number (put a) = some a) {l : List α} (hmem : (key, .arr (l.map put)) ∈ members)
    (optional : Bool) : jsonNumberVector number (.object members) key optional = .ok l := by
  rw [jsonNumberVector, Json.member?_object hkeys hmem]
  apply mapM_map_of_forall
  intro a _
  rw [hnumber]
  rfl

theorem jsonFixed_object {n : Nat} {number : Json → Option α} {put : α → Json}
    (hnumber : ∀ a, number (put a) = some a) {v : Vector α n}
    (hmem : (key, .arr (v.toList.map put)) ∈ members) :
    jsonFixed n number (.object members) key = .ok v := by
  unfold jsonFixed
  rw [jsonNumberVector_object hkeys hnumber hmem]
  show (if h : v.toList.length = n then Except.ok _ else _) = _
  rw [dif_pos v.length_toList]
  rfl

end Members

theorem getD_optionalText (text : String) :
    (if text = "" then none else some text).getD "" = text := by
  split
  · next hempty => exact hempty.symm
  · rfl

/-! ## The round trip

Part by part, from the elements of a track to the document. A name that is no
text cannot be written; that is the only way in which writing fails, by
induction over the images. -/

theorem trackElementFromJson_object (te : TrackElement) :
    trackElementFromJson (.object te.members) = .ok te := by
  have hkeys : (te.members.map (·.1)).Nodup := by simp [TrackElement.members]
  have himage : jsonGetField getUInt32 (.object te.members) "image_id" = .ok te.imageId :=
    jsonGetField_object hkeys (by simp [TrackElement.members]) (getUInt32_toNat _)
  have hindex : jsonGetField getInt32 (.object te.members) "point2d_idx" = .ok te.point2dIdx :=
    jsonGetField_object hkeys (by simp [TrackElement.members]) (getInt32_toInt _)
  unfold trackElementFromJson
  rw [himage, hindex]
  rfl

theorem point3DFromJson_object (pt : ReconPoint3D Float) :
    point3DFromJson (.object pt.members) = .ok pt := by
  have hkeys : (pt.members.map (·.1)).Nodup := by simp [ReconPoint3D.members]
  have hid : jsonGetField getUInt64 (.object pt.members) "point3d_id" = .ok pt.point3dId :=
    jsonGetField_object hkeys (by simp [ReconPoint3D.members]) (getUInt64_toNat _)
  have hxyz : jsonVec3 (.object pt.members) "xyz" = .ok pt.xyz :=
    jsonFixed_object hkeys number?_float (by simp [ReconPoint3D.members])
  have hcolor : jsonColor (.object pt.members) "color" = .ok pt.color :=
    jsonFixed_object hkeys byte?_toNat (by simp [ReconPoint3D.members])
  have herror : jsonGetField getDouble (.object pt.members) "error" = .ok pt.error :=
    jsonGetField_object hkeys (by simp [ReconPoint3D.members]) (getDouble_float _)
  have htrack : jsonGetField .ok (.object pt.members) "track" =
      .ok (.arr (pt.track.map fun te => .object te.members)) :=
    jsonGetField_object hkeys (by simp [ReconPoint3D.members]) rfl
  have helements : (pt.track.map fun te => Json.object te.members).mapM trackElementFromJson =
      .ok pt.track := mapM_map_of_forall fun te _ => trackElementFromJson_object te
  unfold point3DFromJson
  rw [hid, hxyz, hcolor, herror, htrack]
  show ((pt.track.map fun te => Json.object te.members).mapM trackElementFromJson >>= _) = _
  rw [helements]
  rfl

theorem imageFromJson_object {image : ReconImage Float} {entry : Json}
    (hentry : image.json? = some entry) : imageFromJson entry = .ok image := by
  obtain ⟨name, hname, rfl⟩ := Option.map_eq_some_iff.mp hentry
  have hbytes : stringBytes name = image.name := stringBytes_of_fromUTF8? hname
  have hkeys : ((image.members name).map (·.1)).Nodup := by
    by_cases hempty : image.frameId = "" <;> simp [ReconImage.members, optionalText, hempty]
  have himage : jsonGetField getUInt32 (.object (image.members name)) "image_id" =
      .ok image.imageId :=
    jsonGetField_object hkeys (by simp [ReconImage.members]) (getUInt32_toNat _)
  have hcamera : jsonGetField getUInt32 (.object (image.members name)) "camera_id" =
      .ok image.cameraId :=
    jsonGetField_object hkeys (by simp [ReconImage.members]) (getUInt32_toNat _)
  have hframe : jsonOptionalField Json.getString (.object (image.members name)) "frame_id" =
      .ok (if image.frameId = "" then none else some image.frameId) :=
    jsonOptionalField_object hkeys
      (fun hempty => by simp [ReconImage.members, optionalText, hempty])
      (fun hempty => by simp [ReconImage.members, optionalText, hempty])
  have hfile : jsonGetField Json.getString (.object (image.members name)) "name" = .ok name :=
    jsonGetField_object hkeys (by simp [ReconImage.members]) (getString_str _)
  have hpose : jsonGetField .ok (.object (image.members name)) "pose" =
      .ok (.object image.pose.members) :=
    jsonGetField_object hkeys (by simp [ReconImage.members]) rfl
  -- the pose is an object of its own
  have hposeKeys : (image.pose.members.map (·.1)).Nodup := by simp [ReconPose.members]
  have hrotation : jsonVec4 (.object image.pose.members) "rotation_xyzw" =
      .ok image.pose.rotationXyzw :=
    jsonFixed_object hposeKeys number?_float (by simp [ReconPose.members])
  have htranslation : jsonVec3 (.object image.pose.members) "translation_xyz" =
      .ok image.pose.translationXyz :=
    jsonFixed_object hposeKeys number?_float (by simp [ReconPose.members])
  have hdetected : jsonGetField getBool (.object (image.members name)) "detected" =
      .ok image.detected :=
    jsonGetField_object hkeys (by simp [ReconImage.members]) (getBool_bool _)
  unfold imageFromJson
  rw [himage, hcamera, hframe, hfile, hpose, hdetected]
  show (jsonVec4 (.object image.pose.members) "rotation_xyzw" >>= fun rotationXyzw =>
    jsonVec3 (.object image.pose.members) "translation_xyz" >>= _) = _
  rw [hrotation, htranslation]
  show Except.ok { image with
    frameId := (if image.frameId = "" then none else some image.frameId).getD ""
    name := stringBytes name } = _
  rw [getD_optionalText, hbytes]

theorem cameraFromJson_object (c : ReconCamera Float) :
    cameraFromJson (.object c.members) = .ok c := by
  have hkeys : (c.members.map (·.1)).Nodup := by
    by_cases hempty : c.calibrationRef = "" <;> simp [ReconCamera.members, optionalText, hempty]
  have hid : jsonGetField getUInt32 (.object c.members) "camera_id" = .ok c.cameraId :=
    jsonGetField_object hkeys (by simp [ReconCamera.members]) (getUInt32_toNat _)
  have hinteger : ∀ (key : String) (n : Int64), (key, .int n.toInt) ∈ c.members →
      jsonGetField getInt64 (.object c.members) key = .ok n :=
    fun _ n hmem => jsonGetField_object hkeys hmem (getInt64_toInt n)
  have htext : ∀ key text : String, (key, .str text) ∈ c.members →
      jsonGetField Json.getString (.object c.members) key = .ok text :=
    fun _ text hmem => jsonGetField_object hkeys hmem (getString_str text)
  have hdouble : ∀ (key : String) (x : Float), (key, .float x) ∈ c.members →
      jsonGetField getDouble (.object c.members) key = .ok x :=
    fun _ x hmem => jsonGetField_object hkeys hmem (getDouble_float x)
  have hcoefficients : jsonDoubleVector (.object c.members) "distortion_coefficients" true =
      .ok c.distortionCoefficients :=
    jsonNumberVector_object hkeys number?_float (by simp [ReconCamera.members]) true
  have href : jsonOptionalField Json.getString (.object c.members) "calibration_ref" =
      .ok (if c.calibrationRef = "" then none else some c.calibrationRef) :=
    jsonOptionalField_object hkeys
      (fun hempty => by simp [ReconCamera.members, optionalText, hempty])
      (fun hempty => by simp [ReconCamera.members, optionalText, hempty])
  unfold cameraFromJson
  rw [hid, hinteger "width" c.width (by simp [ReconCamera.members]),
    hinteger "height" c.height (by simp [ReconCamera.members]),
    htext "intrinsic_model" c.intrinsicModel (by simp [ReconCamera.members]),
    hdouble "fx" c.fx (by simp [ReconCamera.members]),
    hdouble "fy" c.fy (by simp [ReconCamera.members]),
    hdouble "cx" c.cx (by simp [ReconCamera.members]),
    hdouble "cy" c.cy (by simp [ReconCamera.members]),
    htext "distortion_model" c.distortionModel (by simp [ReconCamera.members]),
    hcoefficients, href]
  show Except.ok { c with
    calibrationRef := (if c.calibrationRef = "" then none else some c.calibrationRef).getD "" } = _
  rw [getD_optionalText]

theorem provenanceFromJson_object (p : ReconstructionProvenance) :
    provenanceFromJson (.object p.members) = .ok p := by
  have hkeys : (p.members.map (·.1)).Nodup := by
    by_cases hempty : p.backendSpecificJson = "" <;>
      simp [ReconstructionProvenance.members, optionalText, hempty]
  have hbackendKeys : (p.backend.members.map (·.1)).Nodup := by simp [BackendInfo.members]
  have hbackend : jsonGetField .ok (.object p.members) "backend" =
      .ok (.object p.backend.members) :=
    jsonGetField_object hkeys (by simp [ReconstructionProvenance.members]) rfl
  have hname : ∀ key text : String, (key, .str text) ∈ p.backend.members →
      jsonGetField Json.getString (.object p.backend.members) key = .ok text :=
    fun _ text hmem => jsonGetField_object hbackendKeys hmem (getString_str text)
  have htext : ∀ key text : String, (key, .str text) ∈ p.members →
      jsonGetField Json.getString (.object p.members) key = .ok text :=
    fun _ text hmem => jsonGetField_object hkeys hmem (getString_str text)
  have hinteger : ∀ (key : String) (n : Int64), (key, .int n.toInt) ∈ p.members →
      jsonGetField getInt64 (.object p.members) key = .ok n :=
    fun _ n hmem => jsonGetField_object hkeys hmem (getInt64_toInt n)
  have hinputs : jsonGetField .ok (.object p.members) "input_artifact_hashes" =
      .ok (.arr (p.inputArtifactHashes.map .str)) :=
    jsonGetField_object hkeys (by simp [ReconstructionProvenance.members]) rfl
  have hspecific : jsonOptionalField Json.getString (.object p.members) "backend_specific_json" =
      .ok (if p.backendSpecificJson = "" then none else some p.backendSpecificJson) :=
    jsonOptionalField_object hkeys
      (fun hempty => by simp [ReconstructionProvenance.members, optionalText, hempty])
      (fun hempty => by simp [ReconstructionProvenance.members, optionalText, hempty])
  -- each field is where the writer has put it
  unfold provenanceFromJson
  rw [hbackend, hinputs, hspecific,
    htext "configuration_hash" p.configurationHash (by simp [ReconstructionProvenance.members]),
    htext "engine_version" p.engineVersion (by simp [ReconstructionProvenance.members]),
    htext "engine_commit" p.engineCommit (by simp [ReconstructionProvenance.members]),
    htext "git_commit" p.gitCommit (by simp [ReconstructionProvenance.members]),
    hinteger "started_at_ns" p.startedAtNs (by simp [ReconstructionProvenance.members]),
    hinteger "finished_at_ns" p.finishedAtNs (by simp [ReconstructionProvenance.members]),
    hinteger "duration_ns" p.durationNs (by simp [ReconstructionProvenance.members])]
  show (jsonGetField Json.getString (.object p.backend.members) "name" >>= fun name =>
    jsonGetField Json.getString (.object p.backend.members) "version" >>= fun version =>
    jsonGetField Json.getString (.object p.backend.members) "adapter_version" >>= _) = _
  rw [hname "name" p.backend.name (by simp [BackendInfo.members]),
    hname "version" p.backend.version (by simp [BackendInfo.members]),
    hname "adapter_version" p.backend.adapterVersion (by simp [BackendInfo.members])]
  show (requireStrings "provenance 'input_artifact_hashes'" (.arr (p.inputArtifactHashes.map .str))
    >>= _) = _
  rw [requireStrings_arr]
  show Except.ok { p with
    backendSpecificJson :=
      (if p.backendSpecificJson = "" then none else some p.backendSpecificJson).getD "" } = _
  rw [getD_optionalText]

theorem Reconstruction.members_nodup (rec : Reconstruction Float) (images : List Json) :
    ((rec.members images).map (·.1)).Nodup := by
  by_cases hempty : rec.status = "" <;> simp [Reconstruction.members, optionalText, hempty]

theorem documentFromJson_document? {rec : Reconstruction Float} {document : Json}
    (hdocument : rec.document? = some document) :
    document.isObject ∧ documentFromJson document = .ok rec := by
  obtain ⟨images, himages, hobject⟩ := Option.bind_eq_some_iff.mp hdocument
  cases hobject
  refine ⟨rfl, ?_⟩
  have hkeys := rec.members_nodup images
  have htext : ∀ key text : String, (key, .str text) ∈ rec.members images →
      jsonGetField Json.getString (.object (rec.members images)) key = .ok text :=
    fun _ text hmem => jsonGetField_object hkeys hmem (getString_str text)
  have hvalue : ∀ (key : String) (value : Json), (key, value) ∈ rec.members images →
      jsonGetField .ok (.object (rec.members images)) key = .ok value :=
    fun _ _ hmem => jsonGetField_object hkeys hmem rfl
  have hcreated : jsonGetField getInt64 (.object (rec.members images)) "created_at_ns" =
      .ok rec.createdAtNs :=
    jsonGetField_object hkeys (by simp [Reconstruction.members]) (getInt64_toInt _)
  have hstatus : jsonOptionalField Json.getString (.object (rec.members images)) "status" =
      .ok (if rec.status = "" then none else some rec.status) :=
    jsonOptionalField_object hkeys
      (fun hempty => by simp [Reconstruction.members, optionalText, hempty])
      (fun hempty => by simp [Reconstruction.members, optionalText, hempty])
  -- the lists, element by element
  have hcameras : (rec.cameras.map fun c => Json.object c.members).mapM cameraFromJson =
      .ok rec.cameras := mapM_map_of_forall fun c _ => cameraFromJson_object c
  have himagesRead : images.mapM imageFromJson = .ok rec.images :=
    mapM_of_mapM (fun _ _ => imageFromJson_object) himages
  have hpoints : (rec.points3D.map fun pt => Json.object pt.members).mapM point3DFromJson =
      .ok rec.points3D := mapM_map_of_forall fun pt _ => point3DFromJson_object pt
  unfold documentFromJson
  simp only [htext "reconstruction_id" rec.reconstructionId (by simp [Reconstruction.members]),
    htext "scene_id" rec.sceneId (by simp [Reconstruction.members]),
    htext "coordinate_frame" rec.coordinateFrame (by simp [Reconstruction.members]),
    hvalue "session_ids" (.arr (rec.sessionIds.map .str)) (by simp [Reconstruction.members]),
    hvalue "provenance" (.object rec.provenance.members) (by simp [Reconstruction.members]),
    hvalue "cameras" (.arr (rec.cameras.map fun c => .object c.members))
      (by simp [Reconstruction.members]),
    hvalue "images" (.arr images) (by simp [Reconstruction.members]),
    hvalue "points3D" (.arr (rec.points3D.map fun pt => .object pt.members))
      (by simp [Reconstruction.members]),
    hstatus, hcreated, ok_bind, requireStrings_arr, requireArray, provenanceFromJson_object,
    hcameras, himagesRead, hpoints, getD_optionalText]
  rfl

/-- A document whose names are texts can be written. -/
theorem document?_of_names {rec : Reconstruction Float}
    (hnames : ∀ image ∈ rec.images, image.nameText?.isSome) :
    ∃ document, rec.document? = some document := by
  have himages : ∀ images : List (ReconImage Float), (∀ image ∈ images, image.nameText?.isSome) →
      ∃ entries, images.mapM ReconImage.json? = some entries := by
    intro images
    induction images with
    | nil => exact fun _ => ⟨[], rfl⟩
    | cons image images ih =>
        intro h
        obtain ⟨name, hname⟩ := Option.isSome_iff_exists.mp (h image List.mem_cons_self)
        obtain ⟨entries, hentries⟩ := ih fun other hother => h other (List.mem_cons_of_mem _ hother)
        refine ⟨.object (image.members name) :: entries, ?_⟩
        rw [List.mapM_cons, hentries, ReconImage.json?, hname]
        rfl
  obtain ⟨entries, hentries⟩ := himages rec.images hnames
  exact ⟨.object (rec.members entries), by rw [Reconstruction.document?, hentries]; rfl⟩

/-- A library that reads the document of a reconstruction back as it stands,
every number included, reads back the reconstruction. -/
theorem reconstructionFromJson_reconstructionToJson {json : JsonLibrary}
    {rec : Reconstruction Float} (hnames : ∀ image ∈ rec.images, image.nameText?.isSome)
    (hjson : ∀ document, rec.document? = some document → json.RoundTrips none document) :
    ∃ text, reconstructionToJson json rec = some text ∧
      reconstructionFromJson json text = .ok rec := by
  obtain ⟨document, hdocument⟩ := document?_of_names hnames
  obtain ⟨hobject, hread⟩ := documentFromJson_document? hdocument
  have hparse : json.parse (json.dump none document) = .ok document := hjson document hdocument
  refine ⟨json.dump none document, by rw [reconstructionToJson, hdocument]; rfl, ?_⟩
  rw [reconstructionFromJson, hparse]
  show (if document.isObject then documentFromJson document else _) = _
  rw [if_pos hobject, hread]

/-- One point that one image shows. -/
def onePoint : Reconstruction Float where
  reconstructionId := "r1"
  sceneId := "s1"
  sessionIds := ["a"]
  coordinateFrame := "world"
  createdAtNs := 5
  provenance := { engineVersion := "1.0", durationNs := -1 }
  cameras := [
    { cameraId := 1, width := 4, height := 3, intrinsicModel := "PINHOLE", fx := 2, fy := 2,
      cx := 2, cy := 1.5, distortionModel := "NONE" }]
  images := [
    { imageId := 1, cameraId := 1, frameId := "f1", name := stringBytes "a.jpg",
      pose := ⟨#v[0, 0, 0, 1], #v[0, 0, 0]⟩, detected := true }]
  points3D := [
    { point3dId := 9, xyz := #v[1, 2, 3], color := #v[255, 0, 7], error := 0.5,
      track := [{ imageId := 1, point2dIdx := 0 }] }]

/-- What `dump` prints for it. -/
def onePointText : String :=
  "\x7b\"cameras\":[\x7b\"camera_id\":1,\"cx\":2.0,\"cy\":1.5," ++
  "\"distortion_coefficients\":[],\"distortion_model\":\"NONE\",\"fx\":2.0,\"fy\":2.0," ++
  "\"height\":3,\"intrinsic_model\":\"PINHOLE\",\"width\":4\x7d]," ++
  "\"coordinate_frame\":\"world\",\"created_at_ns\":5," ++
  "\"images\":[\x7b\"camera_id\":1,\"detected\":true,\"frame_id\":\"f1\"," ++
  "\"image_id\":1,\"name\":\"a.jpg\",\"pose\":\x7b\"rotation_xyzw\":[0.0,0.0,0.0,1.0]," ++
  "\"translation_xyz\":[0.0,0.0,0.0]\x7d\x7d]," ++
  "\"points3D\":[\x7b\"color\":[255,0,7],\"error\":0.5,\"point3d_id\":9," ++
  "\"track\":[\x7b\"image_id\":1,\"point2d_idx\":0\x7d],\"xyz\":[1.0,2.0,3.0]\x7d]," ++
  "\"provenance\":\x7b\"backend\":\x7b\"adapter_version\":\"\",\"name\":\"\"," ++
  "\"version\":\"\"\x7d,\"configuration_hash\":\"\",\"duration_ns\":-1," ++
  "\"engine_commit\":\"\",\"engine_version\":\"1.0\",\"finished_at_ns\":0," ++
  "\"git_commit\":\"\",\"input_artifact_hashes\":[],\"started_at_ns\":0\x7d," ++
  "\"reconstruction_id\":\"r1\",\"scene_id\":\"s1\",\"schema_version\":2," ++
  "\"session_ids\":[\"a\"]\x7d"

/-- A library that knows this text. -/
def onePointJson : JsonLibrary where
  parse := fun text =>
    match onePoint.document? with
    | some document =>
        if text = onePointText then .ok document else .error (.parseError "syntax error")
    | none => .error (.parseError "syntax error")
  dump := fun _ _ => onePointText

theorem onePoint_read_back : ∃ text, reconstructionToJson onePointJson onePoint = some text ∧
    reconstructionFromJson onePointJson text = .ok onePoint := by
  apply reconstructionFromJson_reconstructionToJson
  · intro image himage
    rw [List.mem_singleton.mp himage, ReconImage.nameText?, fromUTF8?_stringBytes]
    rfl
  · intro document hdocument
    show onePointJson.parse onePointText = .ok document
    simp [onePointJson, hdocument]

end SpatialPlatform.Core
