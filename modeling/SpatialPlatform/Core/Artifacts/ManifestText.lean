import SpatialPlatform.Core.Artifacts.StoreState
import SpatialPlatform.Core.JsonAccess
import SpatialPlatform.Core.UuidText

/-!
# The text of a manifest

`core/artifacts/artifact_manifest.cpp`. The creation time, which nothing reads,
is not written.

* `fromJson_manifestJson` — the document of a manifest is read back as that
  manifest.
-/

namespace SpatialPlatform.Core

/-- What reading a manifest throws: an error of the platform, or a `type_error`
of the JSON library.
-/
inductive StoreException where
  | project (error : ProjectError)
  | typeError (what : String)
  deriving DecidableEq, Repr

namespace ArtifactManifest

/-! ## Writing -/

/-- The members of `producer`. -/
def producerMembers (p : ProducerInfo) : List (String × Json) :=
  [("id", .str p.id), ("version", .str p.version), ("git_commit", .str p.gitCommit)]

/-- The members of the document. -/
def members (m : ArtifactManifest) : List (String × Json) :=
  [("artifact_uuid", .str (formatUuid m.artifactUuid)),
    ("content_hash", .str m.contentHash),
    ("type", .str m.type),
    ("schema_version", .int m.schemaVersion.toInt),
    ("producer", .object (producerMembers m.producer)),
    ("input_artifact_hashes", .arr (m.inputArtifactHashes.map .str)),
    ("configuration_hash",
      if m.configurationHash = "" then .null else .str m.configurationHash),
    ("coordinate_frame", .str m.coordinateFrame),
    ("unit", .str m.unit),
    ("file_size", .int m.fileSize.toInt),
    ("mime_type", .str m.mimeType),
    ("validation_status", .str m.validationStatus),
    ("width", .int m.width.toInt),
    ("height", .int m.height.toInt),
    ("pixel_format", .str m.pixelFormat)]

/-- The document of a manifest. -/
def manifestJson (m : ArtifactManifest) : Json := .object m.members

/-- `ToJsonString`. -/
def toJsonString (json : JsonLibrary) (m : ArtifactManifest) : String :=
  json.dump (some 2) (manifestJson m)

/-! ## Reading

Three kinds of members: required ones, optional ones whose type is checked, and
those of another type that are passed over. -/

/-- `GetRequiredString`. -/
def getRequiredString (j : Json) (key what : String) : Except StoreException String :=
  match j.member? key with
  | some (.str text) => .ok text
  | _ => .error (.project
      ⟨.artifactManifest, what ++ ": missing or non-string field '" ++ key ++ "'"⟩)

/-- A member that may be missing, and must otherwise have the right type. -/
def optional {α : Type} (get : Json → Except String α) (default : α) (j : Json) (key : String) :
    Except StoreException α :=
  match j.member? key with
  | none => .ok default
  | some value => (get value).mapError .typeError

/-- An integer member; another type is passed over. -/
def integerOr (default : Int64) (j : Json) (key : String) : Int64 :=
  ((j.member? key).bind Json.integer?).getD default

/-- A text member; another type is passed over. -/
def textOr (default : String) (j : Json) (key : String) : String :=
  match j.member? key with
  | some (.str text) => text
  | _ => default

/-- The strings of `input_artifact_hashes`. -/
def getStrings (j : Json) : Except String (List String) := j.elements.mapM Json.getString

/-- `producer`, if it is there. -/
def producerOf (j : Json) : Except StoreException ProducerInfo :=
  match j.member? "producer" with
  | none => .ok {}
  | some p => do
      let id ← optional Json.getString "" p "id"
      let version ← optional Json.getString "" p "version"
      let gitCommit ← optional Json.getString "" p "git_commit"
      return { id, version, gitCommit }

/-- `FromJsonString`, of a document. -/
def fromJson (j : Json) : Except StoreException ArtifactManifest := do
  let uuid ← getRequiredString j "artifact_uuid" "manifest"
  let artifactUuid ← (parseUuid uuid).mapError .project
  let contentHash ← getRequiredString j "content_hash" "manifest"
  let type ← getRequiredString j "type" "manifest"
  let schemaVersion ← optional getInt64 1 j "schema_version"
  let producer ← producerOf j
  let inputArtifactHashes ← optional getStrings [] j "input_artifact_hashes"
  let _ ← optional Json.getString "" j "creation_timestamp"
  let coordinateFrame ← optional Json.getString "" j "coordinate_frame"
  let unit ← optional Json.getString "meter" j "unit"
  let fileSize ← optional getInt64 0 j "file_size"
  let mimeType ← optional Json.getString "" j "mime_type"
  let validationStatus ← optional Json.getString "valid" j "validation_status"
  return {
    artifactUuid, contentHash, type, schemaVersion, producer, inputArtifactHashes, coordinateFrame,
    unit, fileSize, mimeType, validationStatus
    configurationHash := textOr "" j "configuration_hash"
    width := integerOr 0 j "width"
    height := integerOr 0 j "height"
    pixelFormat := textOr "" j "pixel_format" }

/-- `FromJsonString`. -/
def fromJsonString (json : JsonLibrary) (text : String) : Except StoreException ArtifactManifest :=
  match json.parse text with
  | .error _ => .error (.project ⟨.artifactManifest, "artifact manifest is not valid JSON"⟩)
  | .ok j => fromJson j

/-! ## The round trip

A document has its members in the order of their keys, so a member is looked up
by its key. Each reader returns what the writer put under the key, and
`FromJson` does so member by member. -/

theorem members_nodup (m : ArtifactManifest) : (m.members.map (·.1)).Nodup := by
  show ["artifact_uuid", "content_hash", "type", "schema_version", "producer",
    "input_artifact_hashes", "configuration_hash", "coordinate_frame", "unit", "file_size",
    "mime_type", "validation_status", "width", "height", "pixel_format"].Nodup
  decide

/-- A member of the document. -/
theorem member?_manifestJson {m : ArtifactManifest} {key : String} {j : Json}
    (h : (key, j) ∈ m.members) : (manifestJson m).member? key = some j :=
  Json.member?_object m.members_nodup h

theorem producerMember {p : ProducerInfo} {key : String} {j : Json}
    (h : (key, j) ∈ producerMembers p) : (Json.object (producerMembers p)).member? key = some j := by
  have hkeys : ((producerMembers p).map (·.1)).Nodup := by
    show ["id", "version", "git_commit"].Nodup
    decide
  exact Json.member?_object hkeys h

theorem getStrings_arr (texts : List String) : getStrings (.arr (texts.map .str)) = .ok texts := by
  show (texts.map Json.str).mapM Json.getString = _
  induction texts with
  | nil => rfl
  | cons text texts ih =>
      rw [List.map_cons, List.mapM_cons, ih]
      rfl

section Members

variable {j : Json} {key : String}

theorem optional_text {text default : String} (h : j.member? key = some (.str text)) :
    optional Json.getString default j key = .ok text := by
  rw [optional, h]
  rfl

theorem optional_integer {n default : Int64} (h : j.member? key = some (.int n.toInt)) :
    optional getInt64 default j key = .ok n := by
  rw [optional, h]
  show (getInt64 (.int n.toInt)).mapError _ = _
  rw [getInt64_toInt]
  rfl

theorem integerOr_integer {n default : Int64} (h : j.member? key = some (.int n.toInt)) :
    integerOr default j key = n := by
  rw [integerOr, h]
  exact Int64.ofInt_toInt n

theorem optional_texts {texts default : List String}
    (h : j.member? key = some (.arr (texts.map .str))) :
    optional getStrings default j key = .ok texts := by
  rw [optional, h]
  show (getStrings (.arr (texts.map .str))).mapError _ = _
  rw [getStrings_arr]
  rfl

theorem getRequiredString_text {what text : String}
    (h : j.member? key = some (.str text)) : getRequiredString j key what = .ok text := by
  rw [getRequiredString, h]

end Members

section RoundTrip

variable {m : ArtifactManifest} {j : Json}

theorem producerOf_members (h : ∀ key value, (key, value) ∈ m.members → j.member? key = some value) :
    producerOf j = .ok m.producer := by
  have htext : ∀ key text : String, (key, .str text) ∈ producerMembers m.producer →
      optional Json.getString "" (.object (producerMembers m.producer)) key = .ok text :=
    fun _ _ hmem => optional_text (producerMember hmem)
  rw [producerOf, h "producer" (.object (producerMembers m.producer)) (by simp [members])]
  simp only
  rw [htext "id" m.producer.id (by simp [producerMembers]),
    htext "version" m.producer.version (by simp [producerMembers]),
    htext "git_commit" m.producer.gitCommit (by simp [producerMembers])]
  rfl

/-- A document with the members of a manifest is read back as that manifest, whatever else it has. -/
theorem fromJson_members (h : ∀ key value, (key, value) ∈ m.members → j.member? key = some value)
    {time : String} (htime : optional Json.getString "" j "creation_timestamp" = .ok time) :
    fromJson j = .ok m := by
  have huuid : (parseUuid (formatUuid m.artifactUuid)).mapError StoreException.project =
      .ok m.artifactUuid := by
    rw [parseUuid_formatUuid]
    rfl
  -- an empty hash is written as null
  have hconfig : textOr "" j "configuration_hash" = m.configurationHash := by
    by_cases hempty : m.configurationHash = ""
    · rw [textOr, h _ .null (by simp [members, hempty]), hempty]
    · rw [textOr, h _ (.str m.configurationHash) (by simp [members, hempty])]
  have htext : ∀ key text : String, (key, .str text) ∈ m.members →
      ∀ default, optional Json.getString default j key = .ok text :=
    fun _ _ hmem _ => optional_text (h _ _ hmem)
  have hinteger : ∀ (key : String) (n : Int64), (key, .int n.toInt) ∈ m.members →
      ∀ default, optional getInt64 default j key = .ok n :=
    fun _ _ hmem _ => optional_integer (h _ _ hmem)
  have hrequired : ∀ key text : String, (key, .str text) ∈ m.members →
      getRequiredString j key "manifest" = .ok text :=
    fun _ _ hmem => getRequiredString_text (h _ _ hmem)
  have hinputs : optional getStrings [] j "input_artifact_hashes" =
      .ok m.inputArtifactHashes := optional_texts (h _ _ (by simp [members]))
  have hwidth : integerOr 0 j "width" = m.width := integerOr_integer (h _ _ (by simp [members]))
  have hheight : integerOr 0 j "height" = m.height := integerOr_integer (h _ _ (by simp [members]))
  have hformat : textOr "" j "pixel_format" = m.pixelFormat := by
    rw [textOr, h "pixel_format" (.str m.pixelFormat) (by simp [members])]
  unfold fromJson
  simp only [hrequired "artifact_uuid" (formatUuid m.artifactUuid) (by simp [members]),
    hrequired "content_hash" m.contentHash (by simp [members]),
    hrequired "type" m.type (by simp [members]),
    hinteger "schema_version" m.schemaVersion (by simp [members]),
    htext "coordinate_frame" m.coordinateFrame (by simp [members]),
    htext "unit" m.unit (by simp [members]),
    hinteger "file_size" m.fileSize (by simp [members]),
    htext "mime_type" m.mimeType (by simp [members]),
    htext "validation_status" m.validationStatus (by simp [members]),
    producerOf_members h, hinputs, htime, hconfig, hwidth, hheight, hformat, bind, Except.bind,
    huuid]
  rfl

end RoundTrip

/-- The document of a manifest is read back as that manifest. -/
theorem fromJson_manifestJson (m : ArtifactManifest) : fromJson (manifestJson m) = .ok m := by
  have htime : optional Json.getString "" (manifestJson m) "creation_timestamp" = .ok "" := by
    rw [optional, manifestJson, Json.member?_object_of_notMem]
    simp [members]
  exact fromJson_members (fun _ _ => member?_manifestJson) htime

/-- A library that reads back what it prints reads every manifest back. -/
theorem fromJsonString_toJsonString {json : JsonLibrary} {m : ArtifactManifest}
    (h : json.RoundTrips (some 2) (manifestJson m)) :
    fromJsonString json (toJsonString json m) = .ok m := by
  have hparse : json.parse (toJsonString json m) = .ok (manifestJson m) := h
  rw [fromJsonString, hparse]
  exact fromJson_manifestJson m

end ArtifactManifest

end SpatialPlatform.Core
