import Mathlib.Algebra.Order.Group.Nat
import Mathlib.Logic.Function.Iterate

/-!
# Loops of a limited number of rounds

A numerical loop goes from point to point until a test stops it, and gives up
after so many rounds. Then the last point is what it returns, tested or not.
Where it ends and what it sees on the way is said here with the iterates of the
step.
-/

namespace SpatialPlatform.Lib.Approach

variable {α : Type*} {stop : α → Prop} [DecidablePred stop] {next : α → α}

/-- Where a loop ends that tests a point before it leaves it. -/
def settle (stop : α → Prop) [DecidablePred stop] (next : α → α) : Nat → α → α
  | 0, x => x
  | rounds + 1, x => if stop x then x else settle stop next rounds (next x)

/-- The points that a loop of so many rounds sees. -/
def visited (stop : α → Prop) [DecidablePred stop] (next : α → α) : Nat → α → List α
  | 0, _ => []
  | rounds + 1, x => x :: if stop x then [] else visited stop next rounds (next x)

/-- The loop ends at a point that passes the test if one of the iterates does,
the one of the last round included. -/
theorem stop_settle_iff (stop : α → Prop) [DecidablePred stop] (next : α → α)
    (rounds : Nat) (x : α) :
    stop (settle stop next rounds x) ↔ ∃ n < rounds + 1, stop (next^[n] x) := by
  induction rounds generalizing x with
  | zero => simp [settle]
  | succ rounds ih =>
    rw [Nat.exists_lt_succ_left, settle]
    split
    next hstop => exact iff_of_true hstop (.inl hstop)
    next hgo => simp only [ih, Function.iterate_succ_apply, Function.iterate_zero, id_eq, hgo, false_or]

/-- The loop sees the iterates up to the first that passes the test. -/
theorem mem_visited_iff {rounds : Nat} {x y : α} :
    y ∈ visited stop next rounds x ↔
      ∃ n < rounds, next^[n] x = y ∧ ∀ m < n, ¬ stop (next^[m] x) := by
  induction rounds generalizing x with
  | zero => simp [visited]
  | succ rounds ih =>
    rw [Nat.exists_lt_succ_left, visited, List.mem_cons]
    simp only [Nat.forall_lt_succ_left, Function.iterate_succ_apply, Function.iterate_zero, id_eq]
    split
    next hstop => simp [hstop, eq_comm]
    next hgo => simp [hgo, ih, eq_comm]

end SpatialPlatform.Lib.Approach
