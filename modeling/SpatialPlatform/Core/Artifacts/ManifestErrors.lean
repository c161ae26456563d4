import SpatialPlatform.Core.Artifacts.StoreFiles
import SpatialPlatform.Core.JsonAccess
import SpatialPlatform.Lib.Thrown

/-!
# Malformed manifests

`FromJsonString` of `core/artifacts/artifact_manifest.cpp` on any text. The
three required members are checked before they are read, `width`, `height` and
the two members that may be null are passed over when they have another type,
and the other members are read as they are: there, and in `ParseUuid`, something
else than the `ArtifactError` of the header leaves the decoder.

* `decoderLaw` — the round trip, and the texts that only an `ArtifactError`
  rejects.
* `StoreHandle.garbageCollect_throws` — what `GarbageCollect` throws when all
  manifests are such texts.
-/

namespace SpatialPlatform.Core

open SpatialPlatform.Lib

/-- `ArtifactManifest` with `creation_timestamp`, which nothing in the store reads. -/
structure DatedManifest extends ArtifactManifest where
  creationTimestamp : String := ""

/-! ## Manifests with their time -/

namespace DatedManifest

open ArtifactManifest (optional)

/-- The members of the document. -/
def members (m : DatedManifest) : List (String × Json) :=
  m.toArtifactManifest.members ++ [("creation_timestamp", .str m.creationTimestamp)]

/-- `ToJsonString`. -/
def toJsonString (json : JsonLibrary) (m : DatedManifest) : String :=
  json.dump (some 2) (.object m.members)

/-- `FromJsonString`, of a document. `ArtifactManifest.fromJson` has read the time in its place. -/
def fromJson (j : Json) : Except StoreException DatedManifest := do
  let manifest ← ArtifactManifest.fromJson j
  let creationTimestamp ← optional Json.getString "" j "creation_timestamp"
  return { manifest with creationTimestamp }

/-- `FromJsonString`. -/
def fromJsonString (json : JsonLibrary) (text : String) : Except StoreException DatedManifest :=
  match json.parse text with
  | .error _ => .error (.project ⟨.artifactManifest, "artifact manifest is not valid JSON"⟩)
  | .ok j => fromJson j

theorem members_nodup (m : DatedManifest) : (m.members.map (·.1)).Nodup := by
  rw [members, List.map_append]
  refine m.toArtifactManifest.members_nodup.append (List.nodup_singleton _) ?_
  intro key hkey htime
  rw [List.mem_singleton.mp htime] at hkey
  simp [ArtifactManifest.members] at hkey

/-- A document with the members of a manifest is read back as that manifest. -/
theorem fromJson_members {m : DatedManifest} {j : Json}
    (h : ∀ key value, (key, value) ∈ m.members → j.member? key = some value) : fromJson j = .ok m := by
  have htime : optional Json.getString "" j "creation_timestamp" = .ok m.creationTimestamp :=
    ArtifactManifest.optional_text (h "creation_timestamp" _ (List.mem_append_right _ (by simp)))
  have hmanifest : ArtifactManifest.fromJson j = .ok m.toArtifactManifest :=
    ArtifactManifest.fromJson_members (fun key value hm => h key value (List.mem_append_left _ hm)) htime
  rw [fromJson, hmanifest, ok_bind, htime]
  rfl

end DatedManifest

/-! ## Exceptions -/

/-- An `ArtifactError` with the code of a malformed manifest. -/
def StoreException.IsManifestError : StoreException → Prop
  | .project error => error.code = .artifactManifest
  | .typeError _ => False

/-- A result, or the exception that the header of the decoder names. -/
def FailsAsManifest {α : Type} (x : Except StoreException α) : Prop :=
  ∀ e, x = .error e → e.IsManifestError

section

variable {α β : Type}

theorem failsAsManifest_ok (a : α) : FailsAsManifest (.ok a) := fun _ h => (nomatch h)

theorem failsAsManifest_error {e : StoreException} :
    FailsAsManifest (.error e : Except StoreException α) ↔ e.IsManifestError :=
  ⟨fun h => h e rfl, fun h _ he => Except.error.inj he ▸ h⟩

theorem failsAsManifest_bind {x : Except StoreException α} {f : α → Except StoreException β} :
    FailsAsManifest (x >>= f) ↔ FailsAsManifest x ∧ ∀ a, x = .ok a → FailsAsManifest (f a) := by
  cases x with
  | error e =>
    show FailsAsManifest (.error e) ↔ _
    rw [failsAsManifest_error, failsAsManifest_error, and_iff_left]
    exact fun a h => (nomatch h)
  | ok a =>
    show FailsAsManifest (f a) ↔ _
    constructor
    · exact fun h => ⟨failsAsManifest_ok a, fun b hb => Except.ok.inj hb ▸ h⟩
    · exact fun h => h.2 a rfl

end

/-! ## Types of members

The decoder reads some members with a check and others without. A member that is
read without one throws an exception of the library when its type is wrong, and
that exception is none of the platform. The lemmas go through the members in the
order in which they are read, since an earlier one hides what comes behind it. -/

/-- The member is there and is a string. -/
def HasText (j : Json) (key : String) : Prop := ∃ text, j.member? key = some (.str text)

/-- The member, if it is there, is a string. -/
def TextIfAny (j : Json) (key : String) : Prop :=
  ∀ value, j.member? key = some value → ∃ text, value = .str text

/-- The member, if it is there, is a number. -/
def NumberIfAny (j : Json) (key : String) : Prop :=
  ∀ value, j.member? key = some value → (∃ n, value = .int n) ∨ ∃ x, value = .float x

/-- The member, if it is there, has strings only. -/
def TextsIfAny (j : Json) (key : String) : Prop :=
  ∀ value, j.member? key = some value → ∀ element ∈ value.elements, ∃ text, element = .str text

/-- The members that are read without a check have the types they are read with. -/
structure UncheckedMembersTyped (j : Json) : Prop where
  schemaVersion : NumberIfAny j "schema_version"
  producer : ∀ p, j.member? "producer" = some p →
    TextIfAny p "id" ∧ TextIfAny p "version" ∧ TextIfAny p "git_commit"
  inputArtifactHashes : TextsIfAny j "input_artifact_hashes"
  creationTimestamp : TextIfAny j "creation_timestamp"
  coordinateFrame : TextIfAny j "coordinate_frame"
  unit : TextIfAny j "unit"
  fileSize : NumberIfAny j "file_size"
  mimeType : TextIfAny j "mime_type"
  validationStatus : TextIfAny j "validation_status"

/-- What a document needs for the decoder to keep to its exception: if there is
a text for the UUID, it is one; and if the other two required texts are there as
well, all members have their types. -/
def KeepsToManifestErrors (j : Json) : Prop :=
  ∀ uuid, j.member? "artifact_uuid" = some (.str uuid) →
    (∃ u, parseUuid uuid = .ok u) ∧
      (HasText j "content_hash" → HasText j "type" → UncheckedMembersTyped j)

namespace ArtifactManifest

theorem failsAsManifest_getRequiredString (j : Json) (key what : String) :
    FailsAsManifest (getRequiredString j key what) := by
  intro e h
  unfold getRequiredString at h
  split at h
  · cases h
  · cases h
    rfl

theorem getRequiredString_eq_ok {j : Json} {key what text : String} :
    getRequiredString j key what = .ok text ↔ j.member? key = some (.str text) := by
  constructor
  · intro h
    unfold getRequiredString at h
    split at h
    · cases h
      assumption
    · cases h
  · exact getRequiredString_text

/-- The errors of `ParseUuid` are validation errors. -/
theorem failsAsManifest_parseUuid (text : String) :
    FailsAsManifest ((parseUuid text).mapError .project) ↔ ∃ u, parseUuid text = .ok u := by
  -- every error of the scan has one code, and it is not the one of manifests
  have hstep : ∀ (scan : UuidScan) i c error, scan.step i c = .error error →
      error.code = .validationDomain := by
    intro scan i c error h
    unfold UuidScan.step at h
    split at h
    · split at h <;> cases h
      rfl
    · split at h
      · cases h
        rfl
      · split at h <;> cases h
        rfl
  have hrun : ∀ cs (scan : UuidScan) i error, scan.run i cs = .error error →
      error.code = .validationDomain := by
    intro cs
    -- induction on the characters that are left
    induction cs with
    | nil =>
      intro scan i error h
      cases h
    | cons c cs ih =>
      intro scan i error h
      unfold UuidScan.run at h
      cases hc : scan.step i c with
      | error e =>
        rw [hc] at h
        cases h
        exact hstep scan i c _ hc
      | ok next =>
        rw [hc] at h
        exact ih next (i + 1) error h
  cases hparse : parseUuid text with
  | ok u => exact iff_of_true (failsAsManifest_ok u) ⟨u, rfl⟩
  | error error =>
    suffices hnot : ¬ FailsAsManifest ((Except.error error : Except ProjectError Uuid).mapError .project) from
      iff_of_false hnot (by simp)
    have hcode : error.code = .validationDomain := by
      unfold parseUuid at hparse
      cases hscan : UuidScan.run {} 0 text.toList with
      | error e =>
        rw [hscan] at hparse
        cases hparse
        exact hrun _ _ _ _ hscan
      | ok scan =>
        rw [hscan] at hparse
        simp only [bind, Except.bind] at hparse
        split at hparse <;> cases hparse
        rfl
    intro h
    have hmanifest : error.code = .artifactManifest := failsAsManifest_error.mp h
    rw [hcode] at hmanifest
    cases hmanifest

/-- A type error of the library is no error of the platform. -/
theorem failsAsManifest_optional {α : Type} {get : Json → Except String α} {default : α} {j : Json}
    {key : String} :
    FailsAsManifest (optional get default j key) ↔
      ∀ value, j.member? key = some value → ∃ a, get value = .ok a := by
  unfold optional
  cases hmember : j.member? key with
  | none => exact iff_of_true (failsAsManifest_ok _) fun _ h => (nomatch h)
  | some value =>
    show FailsAsManifest ((get value).mapError .typeError) ↔ _
    cases hget : get value with
    | ok a =>
      refine iff_of_true (failsAsManifest_ok a) fun value' h => ?_
      cases h
      exact ⟨a, hget⟩
    | error what =>
      refine iff_of_false (fun h => failsAsManifest_error.mp h) fun h => ?_
      obtain ⟨a, ha⟩ := h value rfl
      rw [hget] at ha
      cases ha

theorem exists_optional_eq_ok {α : Type} {get : Json → Except String α} {default : α} {j : Json}
    {key : String} (h : FailsAsManifest (optional get default j key)) :
    ∃ a, optional get default j key = .ok a := by
  have hreads := failsAsManifest_optional.mp h
  unfold optional
  cases hmember : j.member? key with
  | none => exact ⟨default, rfl⟩
  | some value =>
    obtain ⟨a, ha⟩ := hreads value hmember
    exact ⟨a, congrArg (Except.mapError StoreException.typeError) ha⟩

/-- A member is read, and what comes next does not depend on it. -/
theorem failsAsManifest_bind_of_exists {α β : Type} {x : Except StoreException α}
    {f : α → Except StoreException β} {p : Prop} (hx : FailsAsManifest x → ∃ a, x = .ok a)
    (hf : ∀ a, FailsAsManifest (f a) ↔ p) : FailsAsManifest (x >>= f) ↔ FailsAsManifest x ∧ p := by
  rw [failsAsManifest_bind]
  apply and_congr_right
  intro h
  obtain ⟨a, ha⟩ := hx h
  exact ⟨fun hall => (hf a).mp (hall a ha), fun hp b _ => (hf b).mpr hp⟩

/-! ### Members that are read without a check -/

theorem failsAsManifest_text {default : String} {j : Json} {key : String} :
    FailsAsManifest (optional Json.getString default j key) ↔ TextIfAny j key := by
  rw [failsAsManifest_optional]
  apply forall₂_congr
  intro value _
  cases value with
  | str text => exact iff_of_true ⟨text, rfl⟩ ⟨text, rfl⟩
  | _ => exact iff_of_false (fun ⟨_, h⟩ => (nomatch h)) fun ⟨_, h⟩ => (nomatch h)

theorem failsAsManifest_number {default : Int64} {j : Json} {key : String} :
    FailsAsManifest (optional getInt64 default j key) ↔ NumberIfAny j key := by
  rw [failsAsManifest_optional]
  apply forall₂_congr
  intro value _
  cases value with
  | int n => exact iff_of_true ⟨_, rfl⟩ (.inl ⟨n, rfl⟩)
  | float x => exact iff_of_true ⟨_, rfl⟩ (.inr ⟨x, rfl⟩)
  | _ => exact iff_of_false (fun ⟨_, h⟩ => (nomatch h)) (by rintro (⟨_, h⟩ | ⟨_, h⟩) <;> cases h)

theorem failsAsManifest_texts {default : List String} {j : Json} {key : String} :
    FailsAsManifest (optional getStrings default j key) ↔ TextsIfAny j key := by
  rw [failsAsManifest_optional]
  apply forall₂_congr
  intro value _
  refine exists_mapM_ok_iff.trans (forall₂_congr fun element _ => ?_)
  cases element with
  | str text => exact iff_of_true ⟨text, rfl⟩ ⟨text, rfl⟩
  | _ => exact iff_of_false (fun ⟨_, h⟩ => (nomatch h)) fun ⟨_, h⟩ => (nomatch h)

section

variable {α : Type} {j : Json} {key : String} {p : Prop}

theorem failsAsManifest_text_bind {default : String} {f : String → Except StoreException α}
    (hf : ∀ text, FailsAsManifest (f text) ↔ p) :
    FailsAsManifest (optional Json.getString default j key >>= f) ↔ TextIfAny j key ∧ p :=
  (failsAsManifest_bind_of_exists exists_optional_eq_ok hf).trans (and_congr_left' failsAsManifest_text)

theorem failsAsManifest_number_bind {default : Int64} {f : Int64 → Except StoreException α}
    (hf : ∀ n, FailsAsManifest (f n) ↔ p) :
    FailsAsManifest (optional getInt64 default j key >>= f) ↔ NumberIfAny j key ∧ p :=
  (failsAsManifest_bind_of_exists exists_optional_eq_ok hf).trans (and_congr_left' failsAsManifest_number)

theorem failsAsManifest_texts_bind {default : List String} {f : List String → Except StoreException α}
    (hf : ∀ texts, FailsAsManifest (f texts) ↔ p) :
    FailsAsManifest (optional getStrings default j key >>= f) ↔ TextsIfAny j key ∧ p :=
  (failsAsManifest_bind_of_exists exists_optional_eq_ok hf).trans (and_congr_left' failsAsManifest_texts)

/-- The producer of a document, without its name in it. -/
theorem failsAsManifest_producer {f : ProducerInfo → Except StoreException α}
    (hf : ∀ producer, FailsAsManifest (f producer) ↔ p) :
    FailsAsManifest (producerOf j >>= f) ↔
      (∀ producer, j.member? "producer" = some producer →
        TextIfAny producer "id" ∧ TextIfAny producer "version" ∧ TextIfAny producer "git_commit") ∧ p := by
  unfold producerOf
  cases j.member? "producer" with
  | none => exact (hf {}).trans (and_iff_right fun _ h => (nomatch h)).symm
  | some producer =>
    simp only [Option.some.injEq, forall_eq', bind_assoc, pure_bind, and_assoc]
    exact failsAsManifest_text_bind fun id => failsAsManifest_text_bind fun version =>
      failsAsManifest_text_bind fun gitCommit => hf ⟨id, version, gitCommit⟩

end

/-- When `FromJsonString` keeps to its exception. -/
theorem failsAsManifest_fromJson (j : Json) : FailsAsManifest (fromJson j) ↔ KeepsToManifestErrors j := by
  -- the members that are not checked, in the order in which they are read
  have hunchecked : ∀ artifactUuid contentHash type,
      FailsAsManifest (do
        let schemaVersion ← optional getInt64 1 j "schema_version"
        let producer ← producerOf j
        let inputArtifactHashes ← optional getStrings [] j "input_artifact_hashes"
        let _ ← optional Json.getString "" j "creation_timestamp"
        let coordinateFrame ← optional Json.getString "" j "coordinate_frame"
        let unit ← optional Json.getString "meter" j "unit"
        let fileSize ← optional getInt64 0 j "file_size"
        let mimeType ← optional Json.getString "" j "mime_type"
        let validationStatus ← optional Json.getString "valid" j "validation_status"
        return {
          artifactUuid, contentHash, type, schemaVersion, producer, inputArtifactHashes,
          coordinateFrame, unit, fileSize, mimeType, validationStatus
          configurationHash := textOr "" j "configuration_hash"
          width := integerOr 0 j "width"
          height := integerOr 0 j "height"
          pixelFormat := textOr "" j "pixel_format" : ArtifactManifest }) ↔ UncheckedMembersTyped j := by
    intro artifactUuid contentHash type
    refine (failsAsManifest_number_bind fun _ => failsAsManifest_producer fun _ =>
      failsAsManifest_texts_bind fun _ => failsAsManifest_text_bind fun _ =>
        failsAsManifest_text_bind fun _ => failsAsManifest_text_bind fun _ =>
          failsAsManifest_number_bind fun _ => failsAsManifest_text_bind fun _ =>
            failsAsManifest_text_bind fun _ => iff_true_intro (failsAsManifest_ok _)).trans ?_
    exact ⟨fun ⟨h₁, h₂, h₃, h₄, h₅, h₆, h₇, h₈, h₉, _⟩ => ⟨h₁, h₂, h₃, h₄, h₅, h₆, h₇, h₈, h₉⟩,
      fun ⟨h₁, h₂, h₃, h₄, h₅, h₆, h₇, h₈, h₉⟩ => ⟨h₁, h₂, h₃, h₄, h₅, h₆, h₇, h₈, h₉, trivial⟩⟩
  unfold fromJson
  rw [failsAsManifest_bind, and_iff_right (failsAsManifest_getRequiredString _ _ _)]
  unfold KeepsToManifestErrors
  simp only [getRequiredString_eq_ok]
  apply forall₂_congr
  intro uuid _
  refine (failsAsManifest_bind_of_exists (fun h => ?_) fun artifactUuid => ?_).trans
    (and_congr_left' (failsAsManifest_parseUuid uuid))
  · obtain ⟨u, hu⟩ := (failsAsManifest_parseUuid uuid).mp h
    exact ⟨u, mapError_eq_ok_iff.mpr hu⟩
  · constructor
    · rintro h ⟨contentHash, hhash⟩ ⟨type, htype⟩
      have hrest := (failsAsManifest_bind.mp h).2 contentHash (getRequiredString_eq_ok.mpr hhash)
      have hmembers := (failsAsManifest_bind.mp hrest).2 type (getRequiredString_eq_ok.mpr htype)
      exact (hunchecked artifactUuid contentHash type).mp hmembers
    · intro h
      refine failsAsManifest_bind.mpr ⟨failsAsManifest_getRequiredString _ _ _, ?_⟩
      intro contentHash hhash
      refine failsAsManifest_bind.mpr ⟨failsAsManifest_getRequiredString _ _ _, ?_⟩
      intro type htype
      exact (hunchecked artifactUuid contentHash type).mpr
        (h ⟨contentHash, getRequiredString_eq_ok.mp hhash⟩ ⟨type, getRequiredString_eq_ok.mp htype⟩)

/-- What is left of a time when the manifest has been read. -/
theorem exists_time {m : ArtifactManifest} {j : Json} (h : fromJson j = .ok m) :
    ∃ time, optional Json.getString "" j "creation_timestamp" = .ok time := by
  unfold fromJson at h
  simp only [bind_eq_ok_iff] at h
  obtain ⟨_, _, _, _, _, _, _, _, _, _, _, _, _, _, time, htime, _⟩ := h
  exact ⟨time, htime⟩

end ArtifactManifest

namespace DatedManifest

/-- The time adds no exception. -/
theorem failsAsManifest_fromJson (j : Json) : FailsAsManifest (fromJson j) ↔ KeepsToManifestErrors j := by
  rw [← ArtifactManifest.failsAsManifest_fromJson, fromJson, failsAsManifest_bind, and_iff_left]
  intro m hm
  obtain ⟨time, htime⟩ := ArtifactManifest.exists_time hm
  rw [htime]
  exact failsAsManifest_ok _

/-- The texts that are read or rejected by an `ArtifactError`. -/
theorem failsAsManifest_fromJsonString (json : JsonLibrary) (text : String) :
    FailsAsManifest (fromJsonString json text) ↔
      ∀ j, json.parse text = .ok j → KeepsToManifestErrors j := by
  unfold fromJsonString
  cases json.parse text with
  | error e => exact iff_of_true (failsAsManifest_error.mpr rfl) fun _ h => (nomatch h)
  | ok j => exact (failsAsManifest_fromJson j).trans (by simp)

/-- A library that reads back what it prints reads every manifest back. -/
theorem fromJsonString_toJsonString {json : JsonLibrary} {m : DatedManifest}
    (hprinted : json.RoundTrips (some 2) (.object m.members)) :
    fromJsonString json (toJsonString json m) = .ok m := by
  have hparse : json.parse (toJsonString json m) = .ok (.object m.members) := hprinted
  rw [fromJsonString, hparse]
  exact fromJson_members fun _ _ => Json.member?_object m.members_nodup

end DatedManifest

/-! ## Garbage collection

The collector reads every manifest before it removes anything, in a loop over
directories. So what leaves the decoder leaves the collector, by induction over
the names of the directories. -/

namespace StoreHandle

variable (h : StoreHandle)

/-- Every file at the place of a manifest keeps the decoder to its exception. -/
def ManifestsKeep (json : JsonLibrary) (tree : FileTree) : Prop :=
  ∀ uuid loc bytes, tree.find (h.manifestPath uuid) = some (loc, bytes) →
    ∀ j, json.parse ((String.fromUTF8? ⟨bytes.toArray⟩).getD "") = .ok j → KeepsToManifestErrors j

/-- A malformed manifest, or a file system that does not do what it is asked for. -/
def ExpectedError (e : StoreException) : Prop :=
  e.IsManifestError ∨ ∃ error, e = .project error ∧ error.code = .storageIo

variable {tree : FileTree}

theorem keeps_tree_exists (path : Path) :
    Persist.Keeps (fun disk : StoreDisk => disk.tree = tree)
      ((Fs.exists path).mapError StoreException.project) :=
  (Persist.Keeps.read _).mapError

theorem keeps_tree_readFile (path : Path) :
    Persist.Keeps (fun disk : StoreDisk => disk.tree = tree)
      ((Fs.readFile path).mapError StoreException.project) := by
  apply Persist.Keeps.mapError
  constructor
  intro disk hdisk
  unfold Fs.readFile
  split <;> exact hdisk

theorem keeps_tree_readManifest (json : JsonLibrary) (uuid : Uuid) :
    Persist.Keeps (fun disk : StoreDisk => disk.tree = tree) (h.readManifest json uuid) := by
  refine (keeps_tree_exists _).bind fun present => Persist.Keeps.ite ?_ (.pure _)
  refine (keeps_tree_readFile _).bind fun bytes => ?_
  simp only
  split
  · exact .pure _
  · exact .fail _

/-- The bytes that are read are those of the tree. -/
theorem readFile_result {path : Path} {disk disk' : StoreDisk} {bytes : List UInt8}
    (h : (Fs.readFile path).mapError StoreException.project disk = (.ok bytes, disk')) :
    ∃ loc, disk.tree.find path = some (loc, bytes) := by
  unfold Persist.mapError Fs.readFile at h
  cases hfind : disk.tree.find path with
  | none =>
    rw [hfind] at h
    cases h
  | some found =>
    rw [hfind] at h
    cases h
    exact ⟨found.1, rfl⟩

theorem readFile_throws (path : Path) :
    Persist.Throws (fun disk : StoreDisk => disk.tree = tree) ExpectedError
      ((Fs.readFile path).mapError StoreException.project) := by
  have hcode : Persist.Throws (fun disk : StoreDisk => disk.tree = tree) (·.code = .storageIo)
      (Fs.readFile path) := by
    intro disk _ e he
    unfold Fs.readFile at he
    split at he <;> cases he
    rfl
  exact hcode.mapError fun e he => .inr ⟨e, rfl, he⟩

/-- What reading a manifest throws comes from the file system, or is the exception of the decoder. -/
theorem readManifest_throws {json : JsonLibrary} (hmanifests : h.ManifestsKeep json tree)
    (uuid : Uuid) :
    Persist.Throws (fun disk : StoreDisk => disk.tree = tree) ExpectedError (h.readManifest json uuid) := by
  have hexists : Persist.Throws (fun disk : StoreDisk => disk.tree = tree) ExpectedError
      ((Fs.exists (h.manifestPath uuid)).mapError StoreException.project) := fun _ _ _ he => (nomatch he)
  refine hexists.bind (keeps_tree_exists _) fun present => Persist.Throws.ite ?_ (.pure _)
  refine (readFile_throws _).bind_of_result (keeps_tree_readFile _)
    (C := fun bytes => ∃ loc, tree.find (h.manifestPath uuid) = some (loc, bytes)) ?_ ?_
  · rintro disk bytes disk' rfl hread
    exact readFile_result hread
  · rintro bytes ⟨loc, hfind⟩
    simp only
    split
    · exact .pure _
    next e hdecode =>
      apply Persist.Throws.fail
      left
      unfold ArtifactManifest.fromJsonString at hdecode
      split at hdecode
      · cases hdecode
        rfl
      next j hparse =>
        exact (ArtifactManifest.failsAsManifest_fromJson j).mpr (hmanifests uuid loc bytes hfind j hparse) e
          hdecode

theorem keeps_tree_dangling (json : JsonLibrary) (names : List String) :
    Persist.Keeps (fun disk : StoreDisk => disk.tree = tree) (h.dangling json names) := by
  induction names with
  | nil => exact .pure _
  | cons name names ih =>
    rw [dangling]
    refine Persist.Keeps.ite ih ?_
    split
    · exact ih
    · exact (h.keeps_tree_readManifest json _).bind fun _ => (Persist.Keeps.read _).bind fun _ =>
        ih.bind fun _ => .pure _

/-- The directories are looked at one after the other. -/
theorem dangling_throws {json : JsonLibrary} (hmanifests : h.ManifestsKeep json tree)
    (names : List String) :
    Persist.Throws (fun disk : StoreDisk => disk.tree = tree) ExpectedError (h.dangling json names) := by
  induction names with
  | nil => exact .pure _
  | cons name names ih =>
    rw [dangling]
    refine Persist.Throws.ite ih ?_
    split
    · exact ih
    · exact (h.readManifest_throws hmanifests _).bind (h.keeps_tree_readManifest json _) fun _ =>
        Persist.Throws.bind (.read _) (.read _) fun _ =>
          ih.bind (h.keeps_tree_dangling json names) fun _ => .pure _

/-- The second half of `GarbageCollect` reads no manifest. -/
theorem collect_throws (plan : GcPlan) :
    Persist.Throws (fun _ : StoreDisk => True) (·.code = .storageIo) (h.collect plan) := by
  have hkeeps : ∀ {α : Type} (x : StoreCall α), Persist.Keeps (fun _ : StoreDisk => True) x :=
    fun _ => ⟨fun _ _ => trivial⟩
  have hrename : ∀ source target : Path,
      Persist.Throws (fun _ : StoreDisk => True) (·.code = .storageIo) (Fs.rename source target) := by
    intro source target disk _ e he
    simp only [Fs.rename] at he
    split at he <;> cases he
    rfl
  have hremove : ∀ path : Path,
      Persist.Throws (fun _ : StoreDisk => True) (·.code = .storageIo) (Fs.removeAll path) := by
    intro path disk _ e he
    unfold Fs.removeAll at he
    split at he <;> cases he
  have hcreate : ∀ path : Path,
      Persist.Throws (fun _ : StoreDisk => True) (·.code = .storageIo) (Fs.createDirectories path) := by
    intro path disk _ e he
    simp only [Fs.createDirectories] at he
    split at he <;> cases he
    rfl
  have hsweep : ∀ hash, Persist.Throws (fun _ : StoreDisk => True) (·.code = .storageIo)
      (h.sweep hash) := fun hash =>
    Persist.Throws.bind (.read _) (hkeeps _) fun _ =>
      .ite ((hrename _ _).bind (hkeeps _) fun _ => hremove _) (.pure _)
  exact (hcreate _).bind (hkeeps _) fun _ => (Persist.Throws.each hsweep fun _ => hkeeps _).bind (hkeeps _)
    fun _ => Persist.Throws.each (fun _ => hremove _) fun _ => hkeeps _

/-- When every manifest keeps the decoder to its exception, `GarbageCollect`
throws nothing else but what the file system makes it throw. -/
theorem garbageCollect_throws {json : JsonLibrary} {disk : StoreDisk}
    (hmanifests : h.ManifestsKeep json disk.tree) (dryRun : Bool) {e : StoreException}
    (he : (h.garbageCollect json dryRun disk).1 = .error e) : ExpectedError e := by
  have hcollect : ∀ plan, Persist.Throws (fun d : StoreDisk => d.tree = disk.tree) ExpectedError
      ((h.collect plan).mapError StoreException.project >>= fun _ => pure plan) := by
    intro plan
    have hany : Persist.Throws (fun _ : StoreDisk => True) ExpectedError
        ((h.collect plan).mapError StoreException.project) :=
      (h.collect_throws plan).mapError fun e he => .inr ⟨e, rfl, he⟩
    exact (hany.bind ⟨fun _ _ => trivial⟩ fun _ => .pure plan).pre fun _ _ => trivial
  have hall : Persist.Throws (fun d : StoreDisk => d.tree = disk.tree) ExpectedError
      (h.garbageCollect json dryRun) := by
    unfold garbageCollect
    refine Persist.Throws.bind (.read _) (.read _) fun _ => ?_
    refine Persist.Throws.bind (.read _) (.read _) fun names => ?_
    refine (h.dangling_throws hmanifests names).bind (h.keeps_tree_dangling json names) fun _ => ?_
    exact Persist.Throws.ite (.pure _) (hcollect _)
  exact hall disk rfl e he

end StoreHandle

/-! ## The decoder

The round trip and the exceptions together. -/

namespace DatedManifest

/-- The round trip of a manifest, the exceptions for a text, and what they do to `GarbageCollect`. -/
structure DecoderLaw (json : JsonLibrary) (m : DatedManifest) (text : String) (h : StoreHandle)
    (disk : StoreDisk) (dryRun : Bool) : Prop where
  roundTrip : fromJsonString json (toJsonString json m) = .ok m
  total : FailsAsManifest (fromJsonString json text) ↔
    ∀ j, json.parse text = .ok j → KeepsToManifestErrors j
  collected : h.ManifestsKeep json disk.tree →
    ∀ e, (h.garbageCollect json dryRun disk).1 = .error e → StoreHandle.ExpectedError e

theorem decoderLaw (json : JsonLibrary) (m : DatedManifest) (text : String) (h : StoreHandle)
    (disk : StoreDisk) (dryRun : Bool) (hprinted : json.RoundTrips (some 2) (.object m.members)) :
    DecoderLaw json m text h disk dryRun where
  roundTrip := fromJsonString_toJsonString hprinted
  total := failsAsManifest_fromJsonString json text
  collected hmanifests _ he := h.garbageCollect_throws hmanifests dryRun he

/-- The text of a manifest without any data. -/
def plainText : String := "\x7b\n  \"artifact_uuid\": \"00000000-0000-0000-0000-000000000000\",\n" ++
  "  \"configuration_hash\": null,\n  \"content_hash\": \"\",\n  \"coordinate_frame\": \"\",\n" ++
  "  \"creation_timestamp\": \"\",\n  \"file_size\": 0,\n  \"height\": 0,\n" ++
  "  \"input_artifact_hashes\": [],\n  \"mime_type\": \"\",\n  \"pixel_format\": \"\",\n" ++
  "  \"producer\": \x7b\n    \"git_commit\": \"\",\n    \"id\": \"\",\n    \"version\": \"\"\n  \x7d,\n" ++
  "  \"schema_version\": 1,\n  \"type\": \"\",\n  \"unit\": \"meter\",\n" ++
  "  \"validation_status\": \"valid\",\n  \"width\": 0\n\x7d"

/-- A manifest whose unit is null, which the schema of manifests allows. -/
def nullUnitText : String := "\x7b\"artifact_uuid\":\"00000000-0000-0000-0000-000000000000\"," ++
  "\"content_hash\":\"ab\",\"type\":\"mesh\",\"unit\":null\x7d"

def nullUnit : Json := .object [
  ("artifact_uuid", .str "00000000-0000-0000-0000-000000000000"), ("content_hash", .str "ab"),
  ("type", .str "mesh"), ("unit", .null)]

/-- The library on the two texts. -/
def twoTexts : JsonLibrary where
  parse text :=
    if text = plainText then .ok (.object (members {}))
    else if text = nullUnitText then .ok nullUnit
    else .error (.parseError "syntax error")
  dump _ _ := plainText

theorem decoderLaw_plain :
    DecoderLaw twoTexts {} nullUnitText ⟨[], false⟩ { tree := ∅, tables := {} } true :=
  decoderLaw twoTexts {} nullUnitText ⟨[], false⟩ { tree := ∅, tables := {} } true (by
    simp only [JsonLibrary.RoundTrips, twoTexts, if_true])

/-- What leaves the decoder for a null unit is no `ArtifactError`. -/
theorem nullUnit_foreign :
    twoTexts.parse nullUnitText = .ok nullUnit ∧
      ¬ FailsAsManifest (fromJsonString twoTexts nullUnitText) := by
  have hother : nullUnitText ≠ plainText := by decide +kernel
  have hparse : twoTexts.parse nullUnitText = .ok nullUnit := by
    simp only [twoTexts, if_neg hother, if_true]
  refine ⟨hparse, fun hfails => ?_⟩
  have hmember : ∀ (key : String) (j : Json), (key, j) ∈ [
      ("artifact_uuid", Json.str "00000000-0000-0000-0000-000000000000"),
      ("content_hash", .str "ab"), ("type", .str "mesh"), ("unit", .null)] →
      nullUnit.member? key = some j := fun _ _ => Json.member?_object (by decide)
  obtain ⟨-, htyped⟩ := (failsAsManifest_fromJsonString twoTexts nullUnitText).mp hfails nullUnit
    hparse "00000000-0000-0000-0000-000000000000" (hmember "artifact_uuid" _ (by simp))
  have hunchecked := htyped ⟨"ab", hmember "content_hash" _ (by simp)⟩
    ⟨"mesh", hmember "type" _ (by simp)⟩
  obtain ⟨_, hunit⟩ := hunchecked.unit .null (hmember "unit" _ (by simp))
  cases hunit

end DatedManifest

end SpatialPlatform.Core
