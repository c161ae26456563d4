import SpatialPlatform.Core.JsonAccess
import SpatialPlatform.Lib.Fallible

/-!
# What a printed value keeps

`dump` has no text for the infinities and NaN and writes `null` for them. All
else is there again when the text is parsed.
-/

namespace SpatialPlatform.Core

open SpatialPlatform.Lib

namespace Json

/-- The value that the text of a value is parsed as. -/
def printed : Json → Json
  | .null => .null
  | .bool b => .bool b
  | .int n => .int n
  | .float x => if x.isFinite then .float x else .null
  | .str text => .str text
  | .arr elements => .arr (elements.map printed)
  | .obj members => .obj (members.map fun m => (m.1, m.2.printed))
decreasing_by
  · decreasing_tactic
  · rename_i hm
    have hlt := List.sizeOf_lt_of_mem hm
    obtain ⟨key, j⟩ := m
    simp only [obj.sizeOf_spec, Prod.mk.sizeOf_spec] at hlt ⊢
    omega

@[simp] theorem printed_int (n : Int) : (int n).printed = .int n := by simp only [printed]

@[simp] theorem printed_str (text : String) : (str text).printed = .str text := by
  simp only [printed]

@[simp] theorem printed_bool (b : Bool) : (bool b).printed = .bool b := by simp only [printed]

@[simp] theorem printed_arr (elements : List Json) :
    (arr elements).printed = .arr (elements.map printed) := by
  simp only [printed]

/-- The members stay in order, since their keys do. -/
@[simp] theorem printed_object (members : List (String × Json)) :
    (object members).printed = object (members.map fun m => (m.1, m.2.printed)) := by
  simp only [object, printed]
  congr 1
  exact List.map_insertionSort KeyLE KeyLE _ members fun _ _ _ _ => Iff.rfl

theorem isObject_printed_object {members : List (String × Json)} :
    (object members).printed.isObject = true := by
  rw [printed_object]
  rfl

/-- The values in a value, itself included. -/
inductive Part : Json → Json → Prop
  | self (j : Json) : Part j j
  | element {j e : Json} {elements : List Json} : e ∈ elements → Part j e → Part j (.arr elements)
  | member {j : Json} {m : String × Json} {members : List (String × Json)} :
      m ∈ members → Part j m.2 → Part j (.obj members)

/-- All numbers are finite as `double`. -/
def FiniteNumbers (j : Json) : Prop :=
  ∀ part x, Part part j → part.number? = some x → x.isFinite = true

theorem finiteNumbers_obj {members : List (String × Json)} :
    (obj members).FiniteNumbers ↔ ∀ m ∈ members, m.2.FiniteNumbers := by
  constructor
  · exact fun h m hm part x hpart => h part x (.member hm hpart)
  · intro h part x hpart
    cases hpart with
    | self => exact fun hx => (nomatch hx)
    | member hm hpart => exact h _ hm part x hpart

theorem finiteNumbers_arr {elements : List Json} :
    (arr elements).FiniteNumbers ↔ ∀ e ∈ elements, e.FiniteNumbers := by
  constructor
  · exact fun h e he part x hpart => h part x (.element he hpart)
  · intro h part x hpart
    cases hpart with
    | self => exact fun hx => (nomatch hx)
    | element he hpart => exact h _ he part x hpart

theorem finiteNumbers_str (text : String) : (str text).FiniteNumbers := by
  intro part x hpart hx
  cases hpart
  cases hx

theorem finiteNumbers_int {n : Int} : (int n).FiniteNumbers ↔ (Float.ofInt n).isFinite = true := by
  constructor
  · exact fun h => h (.int n) _ (.self _) rfl
  · intro h part x hpart hx
    cases hpart
    cases hx
    exact h

theorem FiniteNumbers.member {j value : Json} {key : String} (h : j.FiniteNumbers)
    (hvalue : j.member? key = some value) : value.FiniteNumbers := by
  cases j with
  | obj members =>
      obtain ⟨m, hm, rfl⟩ := Option.map_eq_some_iff.mp hvalue
      exact fun part x hpart => h part x (.member (List.mem_of_find?_eq_some hm) hpart)
  | _ => cases hvalue

end Json

/-! ## Reading what was printed

A number that JSON has no text for is printed as `null`. What comes back of the
rest is the value. -/

/-- A number comes back exactly when `dump` has a text for it. -/
theorem getDouble_printed {x y : Float} :
    getDouble (Json.float x).printed = .ok y ↔ x.isFinite = true ∧ x = y := by
  rw [Json.printed]
  split
  · next hfinite => simp [getDouble, Json.number?, hfinite]
  · next hinfinite => simp [getDouble, Json.number?, hinfinite]

/-- A number that was read, or stood there by default. -/
theorem isFinite_of_valueOr {j : Json} (hfinite : j.FiniteNumbers) {key : String} {default x : Float}
    (hdefault : default.isFinite = true) (h : j.valueOr getDouble key default = .ok x) :
    x.isFinite = true := by
  unfold Json.valueOr at h
  split at h
  · split at h
    · next value hvalue =>
        have hget := as_eq_ok_iff.mp h
        unfold getDouble at hget
        cases hnumber : value.number? with
        | none =>
            rw [hnumber] at hget
            cases hget
        | some y =>
            rw [hnumber] at hget
            cases hget
            exact hfinite.member hvalue value x (.self value) hnumber
    · cases h
      exact hdefault
  · cases h

section Members

variable {members : List (String × Json)} (hkeys : (members.map (·.1)).Nodup) {key : String}
  {j : Json}

include hkeys

theorem member?_printed (h : (key, j) ∈ members) :
    (Json.object members).printed.member? key = some j.printed := by
  rw [Json.printed_object]
  refine Json.member?_object ?_ (List.mem_map.mpr ⟨(key, j), h, rfl⟩)
  rwa [List.map_map]

theorem valueOr_printed {α : Type} {get : Json → Except String α} {default a : α}
    (h : (key, j) ∈ members) :
    (Json.object members).printed.valueOr get key default = .ok a ↔ get j.printed = .ok a := by
  rw [Json.valueOr, if_pos Json.isObject_printed_object, member?_printed hkeys h]
  exact as_eq_ok_iff

end Members

/-- When the elements of a printed array come back. -/
theorem mapM_printed_eq_ok_iff {α : Type} {read : Json → Except ReadException α} {put : α → Json}
    {good : α → Prop} {f : α → α} (h : ∀ a b, read (put a).printed = .ok b ↔ good a ∧ f a = b)
    {l l' : List α} :
    ((l.map put).map Json.printed).mapM read = .ok l' ↔ (∀ a ∈ l, good a) ∧ l.map f = l' := by
  rw [List.map_map, mapM_eq_ok_iff, List.forall₂_map_left_iff]
  simp only [Function.comp_apply, h]
  rw [List.forall₂_and_left, ← List.forall₂_map_left_iff (R := Eq), List.forall₂_eq_eq_eq]

end SpatialPlatform.Core
