import Mathlib.Data.List.Sort
import Mathlib.Data.String.Basic
import SpatialPlatform.Core.Basic

/-!
# JSON values

The values of `nlohmann::json`, which the engine reads configurations from and
renders payloads with. The library that parses and prints them is not part of
the repository, so both come in as a `JsonLibrary`.
-/

namespace SpatialPlatform.Core

/-- `nlohmann::json`. An object keeps its members in the order of their keys. -/
inductive Json where
  | null
  | bool (value : Bool)
  | int (value : Int)
  | float (value : Float)
  | str (value : String)
  | arr (elements : List Json)
  | obj (members : List (String × Json))

namespace Json

/-- The order of the members of an object. -/
def KeyLE (m n : String × Json) : Prop := m.1 ≤ n.1

instance : DecidableRel KeyLE := fun m n => inferInstanceAs (Decidable (m.1 ≤ n.1))

/-- An object from an initializer list. -/
def object (members : List (String × Json)) : Json := .obj (members.insertionSort KeyLE)

/-- The member of an object, for `contains` and `operator[]`. -/
def member? (key : String) : Json → Option Json
  | .obj members => (members.find? (·.1 = key)).map (·.2)
  | _ => none

/-- `value`, of an object. -/
def value (j : Json) (key : String) (default : Json) : Json := (j.member? key).getD default

/-- `is_object`. -/
def isObject : Json → Bool
  | .obj _ => true
  | _ => false

/-- `get<double>`, of a value with `is_number`. -/
def number? : Json → Option Float
  | .int n => some (Float.ofInt n)
  | .float x => some x
  | _ => none

/-- `get<std::int64_t>`, of a value with `is_number_integer`. -/
def integer? : Json → Option Int64
  | .int n => some (Int64.ofInt n)
  | _ => none

/-- `type_name`. -/
def typeName : Json → String
  | .null => "null"
  | .bool _ => "boolean"
  | .int _ | .float _ => "number"
  | .str _ => "string"
  | .arr _ => "array"
  | .obj _ => "object"

/-- `get<std::string>`, with the text of its `type_error`. -/
def getString : Json → Except String String
  | .str text => .ok text
  | j => .error ("type must be string, but is " ++ j.typeName)

/-- What a range-based loop meets. -/
def elements : Json → List Json
  | .null => []
  | .arr elements => elements
  | .obj members => members.map (·.2)
  | j => [j]

end Json

/-- What `json::parse` throws: a `parse_error`, or `out_of_range` for a number too large. -/
inductive JsonException where
  | parseError (what : String)
  | outOfRange (what : String)
  deriving DecidableEq, Repr

/-- `JsonException::what`. -/
def JsonException.what : JsonException → String
  | parseError what | outOfRange what => what

/-- `json::parse` and `dump`, with the indentation of the latter. -/
structure JsonLibrary where
  parse : String → Except JsonException Json
  dump : Option Nat → Json → String

/-- The text printed for a value is read back as that value. -/
def JsonLibrary.RoundTrips (json : JsonLibrary) (indent : Option Nat) (j : Json) : Prop :=
  json.parse (json.dump indent j) = .ok j

theorem JsonLibrary.RoundTrips.eq {json : JsonLibrary} {indent : Option Nat} {j₁ j₂ : Json}
    (h₁ : json.RoundTrips indent j₁) (h₂ : json.RoundTrips indent j₂)
    (h : json.dump indent j₁ = json.dump indent j₂) : j₁ = j₂ := by
  have hread : Except.ok (ε := JsonException) j₁ = .ok j₂ := by rw [← h₁, ← h₂, h]
  exact Except.ok.inj hread

/-- A key that the initializer list has once gives the member of the object. -/
theorem Json.member?_object {members : List (String × Json)} (hkeys : (members.map (·.1)).Nodup)
    {key : String} {j : Json} (h : (key, j) ∈ members) :
    (Json.object members).member? key = some j := by
  have hperm := List.perm_insertionSort KeyLE members
  show ((members.insertionSort KeyLE).find? (·.1 = key)).map (·.2) = some j
  cases hfind : (members.insertionSort KeyLE).find? (·.1 = key) with
  | none => simpa using List.find?_eq_none.mp hfind (key, j) (hperm.mem_iff.mpr h)
  | some m =>
      have hm : m ∈ members := hperm.mem_iff.mp (List.mem_of_find?_eq_some hfind)
      have hkey : m.1 = key := by simpa using List.find?_some hfind
      rw [List.inj_on_of_nodup_map hkeys hm h hkey]
      rfl

theorem Json.member?_object_of_notMem {members : List (String × Json)} {key : String}
    (h : key ∉ members.map (·.1)) : (Json.object members).member? key = none := by
  show ((members.insertionSort KeyLE).find? (·.1 = key)).map (·.2) = none
  rw [Option.map_eq_none_iff, List.find?_eq_none]
  intro m hm hkey
  have hmem := (List.perm_insertionSort KeyLE members).mem_iff.mp hm
  exact h (List.mem_map.mpr ⟨m, hmem, by simpa using hkey⟩)

/-- Two objects with the same members agree on every key that the second has once. -/
theorem Json.object_inj (key : String) {members₁ members₂ : List (String × Json)} {j₁ j₂ : Json}
    (h : Json.object members₁ = Json.object members₂) (h₁ : (key, j₁) ∈ members₁)
    (h₂ : ∀ m ∈ members₂, m.1 = key → m.2 = j₂) : j₁ = j₂ := by
  have hsorted : members₁.insertionSort KeyLE = members₂.insertionSort KeyLE := Json.obj.inj h
  have hperm : members₁.Perm members₂ :=
    (List.perm_insertionSort KeyLE members₁).symm.trans
      (hsorted ▸ List.perm_insertionSort KeyLE members₂)
  exact h₂ _ (hperm.mem_iff.mp h₁) rfl

end SpatialPlatform.Core
