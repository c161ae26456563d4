import SpatialPlatform.Core.Json

/-!
# Reading JSON values

What `at`, `value` and `get` of the library do with the value they are called
on, and that they give back what was written.
-/

namespace SpatialPlatform.Core

/-! ## Types -/

/-- What `get` of an integer type of 32 bits is cast from; it takes booleans too. -/
def getArithmetic : Json → Except String Int
  | .bool b => .ok (if b then 1 else 0)
  | .int n => .ok n
  | .float x => .ok x.toModel.toInt64.toInt
  | j => .error ("type must be number, but is " ++ j.typeName)

/-- `get<std::uint32_t>`. -/
def getUInt32 (j : Json) : Except String UInt32 := (getArithmetic j).map UInt32.ofInt

/-- `get<std::int32_t>`. -/
def getInt32 (j : Json) : Except String Int32 := (getArithmetic j).map Int32.ofInt

/-- `get<std::int64_t>`, which cuts off fractions; an integer above the range wraps around. -/
def getInt64 : Json → Except String Int64
  | .int n => .ok (Int64.ofInt n)
  | .float x => .ok x.toModel.toInt64
  | j => .error ("type must be number, but is " ++ j.typeName)

/-- `get<std::uint64_t>`. -/
def getUInt64 : Json → Except String UInt64
  | .int n => .ok (UInt64.ofInt n)
  | .float x => .ok x.toUInt64
  | j => .error ("type must be number, but is " ++ j.typeName)

/-- `get<bool>`. -/
def getBool : Json → Except String Bool
  | .bool b => .ok b
  | j => .error ("type must be boolean, but is " ++ j.typeName)

/-- `get<double>`. -/
def getDouble (j : Json) : Except String Float :=
  j.number?.elim (.error ("type must be number, but is " ++ j.typeName)) .ok

/-- `get<std::vector<std::string>>`. -/
def getTexts : Json → Except String (List String)
  | .arr elements => elements.mapM Json.getString
  | j => .error ("type must be array, but is " ++ j.typeName)

/-! ## Members -/

/-- What a reader throws: an error of the platform, or one of the JSON library. -/
inductive ReadException where
  | project (error : ProjectError)
  | json (what : String)
  deriving DecidableEq, Repr

/-- `get`. -/
def Json.as {α : Type} (get : Json → Except String α) (j : Json) : Except ReadException α :=
  (get j).mapError .json

/-- `at`. -/
def Json.at (key : String) (j : Json) : Except ReadException Json :=
  if j.isObject then
    match j.member? key with
    | some value => .ok value
    | none => .error (.json ("key '" ++ key ++ "' not found"))
  else .error (.json ("cannot use at() with " ++ j.typeName))

/-- `value`, with the type of its default. -/
def Json.valueOr {α : Type} (get : Json → Except String α) (key : String) (default : α) (j : Json) :
    Except ReadException α :=
  if j.isObject then
    match j.member? key with
    | some value => value.as get
    | none => .ok default
  else .error (.json ("cannot use value() with " ++ j.typeName))

/-- `json::parse` where nothing catches what it throws. -/
def JsonLibrary.read (json : JsonLibrary) (text : String) : Except ReadException Json :=
  (json.parse text).mapError fun e => .json e.what

/-! ## Reading what was written

One equation for each type of member: what was put in comes out. Documents are
read with these. -/

section Values

/-- Elements that are read back one by one are read back as a list. -/
theorem mapM_map_of_forall {ε α β : Type} {get : β → Except ε α} {put : α → β} {l : List α}
    (h : ∀ a ∈ l, get (put a) = .ok a) : (l.map put).mapM get = .ok l := by
  induction l with
  | nil => rfl
  | cons a l ih =>
      rw [List.map_cons, List.mapM_cons, h a List.mem_cons_self,
        ih fun b hb => h b (List.mem_cons_of_mem a hb)]
      rfl

theorem ok_bind {ε α β : Type} (a : α) (f : α → Except ε β) : (Except.ok a >>= f) = f a := rfl

theorem getUInt32_toNat (n : UInt32) : getUInt32 (.int n.toNat) = .ok n := by
  show Except.ok (UInt32.ofInt n.toNat) = _
  have hn := n.toNat_lt
  congr 1
  apply UInt32.toNat_inj.mp
  simp [UInt32.ofInt]
  omega

theorem getUInt64_toNat (n : UInt64) : getUInt64 (.int n.toNat) = .ok n := by
  show Except.ok (UInt64.ofInt n.toNat) = _
  have hn := n.toNat_lt
  congr 1
  apply UInt64.toNat_inj.mp
  simp [UInt64.ofInt]
  omega

theorem getInt32_toInt (n : Int32) : getInt32 (.int n.toInt) = .ok n := by
  show Except.ok (Int32.ofInt n.toInt) = _
  rw [Int32.ofInt_toInt]

theorem getInt64_toInt (n : Int64) : getInt64 (.int n.toInt) = .ok n := by
  show Except.ok (Int64.ofInt n.toInt) = _
  rw [Int64.ofInt_toInt]

theorem getDouble_float (x : Float) : getDouble (.float x) = .ok x := rfl

theorem getBool_bool (b : Bool) : getBool (.bool b) = .ok b := rfl

theorem getString_str (text : String) : (Json.str text).getString = .ok text := rfl

theorem getTexts_arr (texts : List String) : getTexts (.arr (texts.map .str)) = .ok texts :=
  mapM_map_of_forall fun _ _ => rfl

theorem as_eq_ok_iff {α : Type} {get : Json → Except String α} {j : Json} {a : α} :
    j.as get = .ok a ↔ get j = .ok a :=
  Lib.mapError_eq_ok_iff

end Values

section Members

variable {members : List (String × Json)} (hkeys : (members.map (·.1)).Nodup) {key : String}
  {j : Json}

include hkeys

theorem at_object (h : (key, j) ∈ members) : (Json.object members).at key = .ok j := by
  rw [Json.at, Json.member?_object hkeys h]
  rfl

theorem valueOr_object {α : Type} {get : Json → Except String α} {a : α} (default : α)
    (h : (key, j) ∈ members) (hget : get j = .ok a) :
    (Json.object members).valueOr get key default = .ok a := by
  rw [Json.valueOr, Json.member?_object hkeys h]
  exact as_eq_ok_iff.mpr hget

end Members

theorem read_eq_ok {json : JsonLibrary} {text : String} {j : Json} (h : json.parse text = .ok j) :
    json.read text = .ok j := by
  rw [JsonLibrary.read, h]
  rfl

end SpatialPlatform.Core
