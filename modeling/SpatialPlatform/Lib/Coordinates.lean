/-!
# Vectors of a few numbers

Coordinates and tuples for vectors of a known length. That a place is in the
vector is an instance, so that what reads a coordinate carries no proof of its
own.
-/

/-- The vectors of a length have the place. -/
class HasPlace (i n : Nat) : Prop where
  lt : i < n

namespace HasPlace

instance zero_two : HasPlace 0 2 := ⟨by decide⟩
instance one_two : HasPlace 1 2 := ⟨by decide⟩
instance zero_three : HasPlace 0 3 := ⟨by decide⟩
instance one_three : HasPlace 1 3 := ⟨by decide⟩
instance two_three : HasPlace 2 3 := ⟨by decide⟩
instance zero_four : HasPlace 0 4 := ⟨by decide⟩
instance one_four : HasPlace 1 4 := ⟨by decide⟩
instance two_four : HasPlace 2 4 := ⟨by decide⟩
instance three_four : HasPlace 3 4 := ⟨by decide⟩

end HasPlace

namespace Vector

variable {α : Type} {n : Nat}

/-- `v[i]`. -/
abbrev coord (v : Vector α n) (i : Nat) [HasPlace i n] : α := getElem v i HasPlace.lt

/-- A coordinate of `v` is written as the value of a function, `v i`. -/
instance instCoeFun : CoeFun (Vector α n) fun _ => (i : Nat) → [HasPlace i n] → α := ⟨coord⟩

theorem get_val (v : Vector α n) (i : Fin n) : v.get i = getElem v i.val i.isLt := rfl

/-- `#v[x, y]`. -/
abbrev pair (x y : α) : Vector α 2 := #v[x, y]

/-- `#v[x, y, z]`. -/
abbrev triple (x y z : α) : Vector α 3 := #v[x, y, z]

/-- `#v[x, y, z, w]`. -/
abbrev quadruple (x y z w : α) : Vector α 4 := #v[x, y, z, w]

end Vector
