import SpatialPlatform.Core.Reconstruction.DocumentShape
import SpatialPlatform.Lib.Binary64Value

/-!
# What a reader of reconstructions lets through

`ReconstructionFromJson` is said to fail closed. It checks the types of the
values, but not the numbers: `get` drops fractions, wraps what is out of range
and takes booleans for numbers of 32 bits, and nothing looks at
`schema_version`. `failsClosed_iff` says which documents it makes no difference
for.
-/

namespace SpatialPlatform.Core

open Lib

/-- The number that the document has. -/
def Json.value? : Json → Option ℚ
  | .int n => some n
  | .float x => Binary64.value? x
  | _ => none

/-- `is_boolean`. -/
def Json.isBoolean : Json → Bool
  | .bool _ => true
  | _ => false

/-- The values that a field of each type is converted from, by their types alone. -/
def typedNumbers : NumberRelation where
  uint8 j _ := j.number?.isSome
  int32 j _ := j.number?.isSome ∨ j.isBoolean
  uint32 j _ := j.number?.isSome ∨ j.isBoolean
  int64 j _ := j.number?.isSome
  uint64 j _ := j.number?.isSome
  double j _ := j.number?.isSome

/-- The field is the number of the document. -/
def denotedNumbers : NumberRelation where
  uint8 j v := j.value? = some (v.toNat : ℚ)
  int32 j v := j.value? = some (v.toInt : ℚ)
  uint32 j v := j.value? = some (v.toNat : ℚ)
  int64 j v := j.value? = some (v.toInt : ℚ)
  uint64 j v := j.value? = some (v.toNat : ℚ)
  double j v := ∃ q, j.value? = some q ∧ Binary64.value? v = some q

/-- The schema version of the document is the one that `ReconstructionToJson` writes. -/
def SupportedVersion (doc : Json) : Prop := Member doc "schema_version" (·.value? = some 2)

/-! ## Conversions

`get` converts any number, so whether it returns depends on the type of the
value alone, and what it returns is the number that was meant only if the field
can hold it. -/

section Conversions

variable {j : Json}

/-- A value that is converted is a number. -/
theorem getInt64_isSome : (∃ n, getInt64 j = .ok n) ↔ j.number?.isSome := by
  cases j with
  | int n => exact ⟨fun _ => rfl, fun _ => ⟨_, rfl⟩⟩
  | float x => exact ⟨fun _ => rfl, fun _ => ⟨_, rfl⟩⟩
  | _ => exact ⟨fun ⟨_, h⟩ => (nomatch h), fun h => (nomatch h)⟩

theorem getArithmetic_isSome :
    (∃ n, getArithmetic j = .ok n) ↔ j.number?.isSome ∨ j.isBoolean := by
  cases j with
  | int n => exact ⟨fun _ => .inl rfl, fun _ => ⟨n, rfl⟩⟩
  | float x => exact ⟨fun _ => .inl rfl, fun _ => ⟨_, rfl⟩⟩
  | bool b => exact ⟨fun _ => .inr rfl, fun _ => ⟨_, rfl⟩⟩
  | _ => exact ⟨fun ⟨_, h⟩ => (nomatch h), fun h => (nomatch h)⟩

theorem map_isSome {ε α β : Type} {x : Except ε α} {f : α → β} :
    (∃ b, x.map f = .ok b) ↔ ∃ a, x = .ok a := by
  cases x with
  | error e => exact ⟨fun ⟨_, h⟩ => (nomatch h), fun ⟨_, h⟩ => (nomatch h)⟩
  | ok a => exact ⟨fun _ => ⟨a, rfl⟩, fun _ => ⟨f a, rfl⟩⟩

theorem getUInt64_isSome : (∃ v, getUInt64 j = .ok v) ↔ j.number?.isSome := by
  cases j with
  | int n => exact ⟨fun _ => rfl, fun _ => ⟨_, rfl⟩⟩
  | float x => exact ⟨fun _ => rfl, fun _ => ⟨_, rfl⟩⟩
  | _ => exact ⟨fun ⟨_, h⟩ => (nomatch h), fun h => (nomatch h)⟩

theorem byte?_isSome : (∃ v, byte? j = some v) ↔ j.number?.isSome := by
  cases j with
  | int n => exact ⟨fun _ => rfl, fun _ => ⟨_, rfl⟩⟩
  | float x => exact ⟨fun _ => rfl, fun _ => ⟨_, rfl⟩⟩
  | _ => exact ⟨fun ⟨_, h⟩ => (nomatch h), fun h => (nomatch h)⟩

/-- Whether a value is converted depends on its type alone. -/
theorem readNumbers_meets_typedNumbers : readNumbers.Meets readNumbers typedNumbers where
  uint8 h _ := byte?_isSome.mp ⟨_, h⟩
  int32 h _ := getArithmetic_isSome.mp (map_isSome.mp ⟨_, h⟩)
  uint32 h _ := getArithmetic_isSome.mp (map_isSome.mp ⟨_, h⟩)
  int64 h _ := getInt64_isSome.mp ⟨_, h⟩
  uint64 h _ := getUInt64_isSome.mp ⟨_, h⟩
  double h _ := Option.isSome_iff_exists.mpr ⟨_, h⟩

theorem typedNumbers_yields_readNumbers : typedNumbers.Yields readNumbers where
  uint8 h := byte?_isSome.mpr h
  int32 h := map_isSome.mpr (getArithmetic_isSome.mpr h)
  uint32 h := map_isSome.mpr (getArithmetic_isSome.mpr h)
  int64 h := getInt64_isSome.mpr h
  uint64 h := getUInt64_isSome.mpr h
  double h := Option.isSome_iff_exists.mp h

/-! ### Numbers that the type has -/

/-- An integer of 64 bits is converted as it is, also when it is written as a floating-point number. -/
theorem getArithmetic_of_value {n : Int} (h : j.value? = some (n : ℚ))
    (hlow : Int64.minValue.toInt ≤ n) (hhigh : n ≤ Int64.maxValue.toInt) :
    getArithmetic j = .ok n := by
  cases j with
  | int m =>
      have hm : (m : ℚ) = n := Option.some.inj h
      exact congrArg Except.ok (by exact_mod_cast hm)
  | float x =>
      show Except.ok (Int64.ofIntClamp (x.toModel.unpack.toInt _ _)).toInt = _
      rw [Binary64.toInt_of_value h, Int64.toInt_ofIntClamp hlow hhigh]
  | _ => exact (nomatch h)

theorem getInt64_of_value {v : Int64} (h : j.value? = some (v.toInt : ℚ)) : getInt64 j = .ok v := by
  cases j with
  | int n =>
      have hn : (n : ℚ) = v.toInt := Option.some.inj h
      rw [show n = v.toInt from by exact_mod_cast hn]
      exact getInt64_toInt v
  | float x =>
      show Except.ok (Int64.ofIntClamp (x.toModel.unpack.toInt _ _)) = _
      rw [Binary64.toInt_of_value h]
      congr 1
      rw [← Int64.toInt_inj, Int64.toInt_ofIntClamp v.minValue_le_toInt v.toInt_le]
  | _ => exact (nomatch h)

theorem getInt32_of_value {v : Int32} (h : j.value? = some (v.toInt : ℚ)) : getInt32 j = .ok v := by
  have hlow := v.minValue_le_toInt
  have hhigh := v.toInt_le
  rw [Int32.toInt_minValue] at hlow
  rw [Int32.toInt_maxValue] at hhigh
  rw [← getInt32_toInt v, getInt32, getArithmetic_of_value h (by rw [Int64.toInt_minValue]; omega)
    (by rw [Int64.toInt_maxValue]; omega)]
  rfl

theorem getUInt32_of_value {v : UInt32} (h : j.value? = some (v.toNat : ℚ)) :
    getUInt32 j = .ok v := by
  have hlt := v.toNat_lt
  rw [← getUInt32_toNat v, getUInt32, getArithmetic_of_value (by exact_mod_cast h)
    (by rw [Int64.toInt_minValue]; omega) (by rw [Int64.toInt_maxValue]; omega)]
  rfl

theorem getUInt64_of_value {v : UInt64} (h : j.value? = some (v.toNat : ℚ)) :
    getUInt64 j = .ok v := by
  cases j with
  | int m =>
      have hm : (m : ℚ) = v.toNat := Option.some.inj h
      obtain rfl : m = v.toNat := by exact_mod_cast hm
      exact getUInt64_toNat v
  | float x =>
      show Except.ok (UInt64.ofNatClamp (x.toModel.unpack.toInt _ _).toNat) = _
      rw [Binary64.toInt_of_value (n := v.toNat) (by exact_mod_cast h), Int.toNat_natCast,
        UInt64.ofNatClamp_toNat]
  | _ => exact (nomatch h)

theorem byte?_of_value {v : UInt8} (h : j.value? = some (v.toNat : ℚ)) : byte? j = some v := by
  cases j with
  | int m =>
      have hm : (m : ℚ) = v.toNat := Option.some.inj h
      obtain rfl : m = v.toNat := by exact_mod_cast hm
      exact byte?_toNat v
  | float x =>
      show some (UInt8.ofNatClamp (x.toModel.unpack.toInt _ _).toNat) = _
      rw [Binary64.toInt_of_value (n := v.toNat) (by exact_mod_cast h), Int.toNat_natCast,
        UInt8.ofNatClamp_toNat]
  | _ => exact (nomatch h)

/-- A number that a `Float` has is converted to one with its value. -/
theorem number?_of_value {q : ℚ} {v w : Float} (hread : j.number? = some v)
    (hvalue : j.value? = some q) (hw : Binary64.value? w = some q) : Binary64.value? v = some q := by
  cases j with
  | int n =>
      obtain rfl : Float.ofInt n = v := Option.some.inj hread
      obtain rfl : (n : ℚ) = q := Option.some.inj hvalue
      exact Binary64.value?_ofInt hw
  | float x =>
      obtain rfl : x = v := Option.some.inj hread
      exact hvalue
  | _ => exact (nomatch hread)

/-- A number that the type of the field has is read as it is. -/
theorem readNumbers_meets_denotedNumbers : readNumbers.Meets denotedNumbers denotedNumbers where
  uint8 h hw := by rwa [Option.some.inj (h.symm.trans (byte?_of_value hw))]
  int32 h hw := by rwa [Except.ok.inj (h.symm.trans (getInt32_of_value hw))]
  uint32 h hw := by rwa [Except.ok.inj (h.symm.trans (getUInt32_of_value hw))]
  int64 h hw := by rwa [Except.ok.inj (h.symm.trans (getInt64_of_value hw))]
  uint64 h hw := by rwa [Except.ok.inj (h.symm.trans (getUInt64_of_value hw))]
  double := by
    rintro j v w h ⟨q, hvalue, hw⟩
    exact ⟨q, hvalue, number?_of_value h hvalue hw⟩

end Conversions

/-! ## Documents

Both readings of a document have one shape, so they differ in their numbers or
in the version, which the reader does not look at. -/

/-- Every member that the reader asks for is there, with a value of its type. -/
def WellTyped (doc : Json) : Prop := ∃ rec, DocumentOf typedNumbers doc rec

/-- Every member is there, with a number that its field can hold. -/
def Denotes (doc : Json) : Prop := ∃ rec, DocumentOf denotedNumbers doc rec

theorem DocumentOf.isObject {N : NumberRelation} {doc : Json} {rec : Reconstruction Float}
    (h : DocumentOf N doc rec) : doc.isObject = true := by
  obtain ⟨_, hmember, -⟩ := h.sceneId
  cases doc with
  | obj members => rfl
  | _ => cases hmember

theorem reconstructionFromJson_eq_ok {json : JsonLibrary} {text : String}
    {rec : Reconstruction Float} : reconstructionFromJson json text = .ok rec ↔
      ∃ doc, json.parse text = .ok doc ∧ DocumentOf readNumbers doc rec := by
  unfold reconstructionFromJson
  cases json.parse text with
  | error e => exact ⟨fun h => (nomatch h), fun ⟨_, h, _⟩ => (nomatch h)⟩
  | ok doc =>
      dsimp only
      constructor
      · intro h
        split at h
        · exact ⟨doc, rfl, documentFromJson_eq_ok.mp h⟩
        · cases h
      · rintro ⟨_, ⟨⟩, h⟩
        rw [if_pos h.isObject]
        exact documentFromJson_eq_ok.mpr h

/-- A text is taken if its document is well typed, and for no other reason. -/
theorem reconstructionFromJson_isOk {json : JsonLibrary} {text : String} :
    (∃ rec, reconstructionFromJson json text = .ok rec) ↔
      ∃ doc, json.parse text = .ok doc ∧ WellTyped doc := by
  simp only [reconstructionFromJson_eq_ok]
  constructor
  · rintro ⟨rec, doc, hdoc, h⟩
    exact ⟨doc, hdoc, rec, h.meet readNumbers_meets_typedNumbers h⟩
  · rintro ⟨doc, hdoc, rec, h⟩
    obtain ⟨read, hread⟩ := h.yield typedNumbers_yields_readNumbers
    exact ⟨read, doc, hdoc, hread⟩

/-- The text is rejected, or its document has the supported version and the numbers that are read. -/
def FailsClosed (json : JsonLibrary) (text : String) : Prop :=
  (∃ e, reconstructionFromJson json text = .error e) ∨
    ∃ doc rec, json.parse text = .ok doc ∧ reconstructionFromJson json text = .ok rec ∧
      SupportedVersion doc ∧ DocumentOf denotedNumbers doc rec

/-- The reader fails closed exactly on the documents that it rejects for a
missing member or a type, and on those of the supported version that have only
numbers their fields can hold. -/
theorem failsClosed_iff {json : JsonLibrary} {text : String} :
    FailsClosed json text ↔
      ∀ doc, json.parse text = .ok doc → WellTyped doc → SupportedVersion doc ∧ Denotes doc := by
  constructor
  · intro h doc hdoc htyped
    obtain ⟨rec, hrec⟩ := reconstructionFromJson_isOk.mpr ⟨doc, hdoc, htyped⟩
    obtain ⟨e, he⟩ | ⟨doc', rec', hdoc', -, hversion, hnumbers⟩ := h
    · rw [hrec] at he
      cases he
    · cases hdoc.symm.trans hdoc'
      exact ⟨hversion, rec', hnumbers⟩
  · intro h
    cases hread : reconstructionFromJson json text with
    | error e => exact .inl ⟨e, hread⟩
    | ok rec =>
        -- a reader that returns has met the shape, but conversions may have changed numbers
        obtain ⟨doc, hdoc, hshape⟩ := reconstructionFromJson_eq_ok.mp hread
        have htyped : WellTyped doc := ⟨rec, hshape.meet readNumbers_meets_typedNumbers hshape⟩
        obtain ⟨hversion, rec', hnumbers⟩ := h doc hdoc htyped
        exact .inr ⟨doc, rec, hdoc, hread, hversion,
          hshape.meet readNumbers_meets_denotedNumbers hnumbers⟩

/-- A document of version 1, with a negative id and a fraction for a colour. -/
def wrappedPoint : Json := .obj [
  ("cameras", .arr []),
  ("coordinate_frame", .str "world"),
  ("created_at_ns", .int 5),
  ("images", .arr []),
  ("points3D", .arr [.obj [
    ("color", .arr [.float 2.5, .int 0, .int 7]),
    ("error", .float 0.5),
    ("point3d_id", .int (-1)),
    ("track", .arr []),
    ("xyz", .arr [.float 1, .float 2, .float 3])]]),
  ("provenance", .obj [
    ("backend", .obj [("adapter_version", .str ""), ("name", .str ""), ("version", .str "")]),
    ("configuration_hash", .str ""),
    ("duration_ns", .int 0),
    ("engine_commit", .str ""),
    ("engine_version", .str ""),
    ("finished_at_ns", .int 0),
    ("git_commit", .str ""),
    ("input_artifact_hashes", .arr []),
    ("started_at_ns", .int 0)]),
  ("reconstruction_id", .str "r1"),
  ("scene_id", .str "s1"),
  ("schema_version", .int 1),
  ("session_ids", .arr [])]

/-- The text of it. -/
def wrappedPointText : String :=
  "\x7b\"cameras\":[],\"coordinate_frame\":\"world\",\"created_at_ns\":5,\"images\":[]," ++
  "\"points3D\":[\x7b\"color\":[2.5,0,7],\"error\":0.5,\"point3d_id\":-1,\"track\":[]," ++
  "\"xyz\":[1.0,2.0,3.0]\x7d]," ++
  "\"provenance\":\x7b\"backend\":\x7b\"adapter_version\":\"\",\"name\":\"\"," ++
  "\"version\":\"\"\x7d,\"configuration_hash\":\"\",\"duration_ns\":0," ++
  "\"engine_commit\":\"\",\"engine_version\":\"\",\"finished_at_ns\":0," ++
  "\"git_commit\":\"\",\"input_artifact_hashes\":[],\"started_at_ns\":0\x7d," ++
  "\"reconstruction_id\":\"r1\",\"scene_id\":\"s1\",\"schema_version\":1,\"session_ids\":[]\x7d"

/-- A library that knows this text. -/
def wrappedPointJson : JsonLibrary where
  parse := fun text =>
    if text = wrappedPointText then .ok wrappedPoint else .error (.parseError "syntax error")
  dump := fun _ _ => wrappedPointText

/-- The id has become 2^64 - 1, and the red is 2. -/
theorem wrappedPoint_read : documentFromJson wrappedPoint = .ok {
    reconstructionId := "r1", sceneId := "s1", sessionIds := [], coordinateFrame := "world",
    createdAtNs := 5, provenance := {}, cameras := [], images := [],
    points3D := [{
      point3dId := 0xffffffffffffffff, xyz := #v[1, 2, 3], color := #v[2, 0, 7], error := 0.5,
      track := [] }] } := by
  rfl

theorem wrapped_point_let_through : ¬FailsClosed wrappedPointJson wrappedPointText := by
  have hparse : wrappedPointJson.parse wrappedPointText = .ok wrappedPoint := by
    simp [wrappedPointJson]
  rintro (⟨e, he⟩ | ⟨doc, rec, hdoc, -, ⟨version, hversion, hvalue⟩, -⟩)
  · have hread := reconstructionFromJson_eq_ok.mpr
      ⟨wrappedPoint, hparse, documentFromJson_eq_ok.mp wrappedPoint_read⟩
    cases hread.symm.trans he
  · cases hparse.symm.trans hdoc
    cases hversion
    have hone : (1 : ℚ) = 2 := by exact_mod_cast Option.some.inj hvalue
    norm_num at hone

end SpatialPlatform.Core
