import Mathlib.Data.List.Induction

/-!
# Reading a stream block by block

A stream of symbols that is worked off in blocks of one width, whatever the
pieces in which it arrives: symbols wait in a buffer until there is a block of
them. `run_absorb` says that what has been worked off are the blocks of the
stream and what waits is its rest, so that the pieces leave no trace.
-/

namespace SpatialPlatform.Lib

variable {α β S : Type*}

/-- The whole blocks of a list. -/
def blocks (width : Nat) (xs : List α) : List (List α) :=
  (List.range (xs.length / width)).map fun i => (xs.drop (width * i)).take width

/-- What is left behind the last whole block. -/
def leftover (width : Nat) (xs : List α) : List α := xs.drop (width * (xs.length / width))

variable {width : Nat}

theorem length_leftover (xs : List α) : (leftover width xs).length = xs.length % width := by
  rw [leftover, List.length_drop, Nat.mod_eq_sub]

theorem leftover_of_mod {xs : List α} (h : xs.length % width = 0) : leftover width xs = [] :=
  List.eq_nil_of_length_eq_zero ((length_leftover xs).trans h)

theorem length_of_mem_blocks {xs block : List α} (h : block ∈ blocks width xs) :
    block.length = width := by
  obtain ⟨i, hi, rfl⟩ := List.mem_map.mp h
  have hfit := Nat.mul_le_mul_left width (List.mem_range.mp hi)
  rw [Nat.mul_succ] at hfit
  have hle := Nat.mul_div_le xs.length width
  rw [List.length_take, List.length_drop]
  omega

/-- The first blocks do not depend on what comes behind them. -/
theorem take_blocks {xs ys : List α} {n : Nat} (h : width * n ≤ xs.length) :
    (List.range n).map (fun i => ((xs ++ ys).drop (width * i)).take width) =
      (List.range n).map fun i => (xs.drop (width * i)).take width := by
  apply List.map_congr_left
  intro i hi
  have hfit : width * i + width ≤ xs.length := by
    have hmul := Nat.mul_le_mul_left width (List.mem_range.mp hi)
    rw [Nat.mul_succ] at hmul
    omega
  rw [List.drop_append_of_le_length (by omega), List.take_append_of_le_length (by
    rw [List.length_drop]
    omega)]

/-- A symbol that does not complete a block waits with the others. -/
theorem blocks_concat_of_lt {xs : List α} (x : α) (h : (leftover width xs).length + 1 < width) :
    blocks width (xs ++ [x]) = blocks width xs ∧
      leftover width (xs ++ [x]) = leftover width xs ++ [x] := by
  rw [length_leftover] at h
  have hdiv : (xs.length + 1) / width = xs.length / width := by
    have hdecomp := Nat.div_add_mod xs.length width
    rw [← hdecomp, Nat.add_assoc, Nat.mul_add_div (by omega), Nat.div_eq_of_lt h]
    rw [Nat.add_zero, Nat.mul_add_div (by omega), Nat.mod_div_self, Nat.add_zero]
  have hle := Nat.mul_div_le xs.length width
  rw [blocks, blocks, leftover, leftover, List.length_append, List.length_singleton, hdiv]
  exact ⟨take_blocks hle, List.drop_append_of_le_length hle⟩

/-- A symbol that completes a block makes it out of those that waited. -/
theorem blocks_concat_of_eq {xs : List α} (x : α) (h : (leftover width xs).length + 1 = width) :
    blocks width (xs ++ [x]) = blocks width xs ++ [leftover width xs ++ [x]] ∧
      leftover width (xs ++ [x]) = [] := by
  have hmod : (leftover width xs).length = xs.length % width := length_leftover xs
  have hdecomp := Nat.div_add_mod xs.length width
  have hnext : xs.length + 1 = width * (xs.length / width + 1) := by
    rw [Nat.mul_add_one]
    omega
  have hdiv : (xs.length + 1) / width = xs.length / width + 1 := by
    rw [hnext, Nat.mul_div_cancel_left _ (by omega)]
  have hle := Nat.mul_div_le xs.length width
  constructor
  · rw [blocks, List.length_append, List.length_singleton, hdiv, List.range_succ, List.map_append,
      take_blocks hle, List.map_singleton, List.drop_append_of_le_length hle, ← leftover,
      List.take_of_length_le]
    · rfl
    · rw [List.length_append, List.length_singleton]
      omega
  · apply leftover_of_mod
    rw [List.length_append, List.length_singleton, hnext, Nat.mul_mod_right]

/-- Symbols that are written as codes of one length: the blocks of the codes are
the codes of the blocks. -/
theorem blocks_flatMap (width : Nat) {code : α → List β} {length : Nat}
    (hcode : ∀ x, (code x).length = length) (hlength : 0 < length) (xs : List α) :
    blocks (length * width) (xs.flatMap code) = (blocks width xs).map (·.flatMap code) := by
  have hlen : ∀ xs : List α, (xs.flatMap code).length = length * xs.length := by
    intro xs
    simp [List.length_flatMap, hcode, List.map_const', Nat.mul_comm]
  -- dropping and taking whole codes
  have hdrop : ∀ n (xs : List α), (xs.flatMap code).drop (length * n) = (xs.drop n).flatMap code := by
    intro n xs
    induction xs generalizing n with
    | nil => simp
    | cons x xs ih =>
        cases n with
        | zero => rfl
        | succ n =>
            rw [List.flatMap_cons, Nat.mul_succ, Nat.add_comm, ← List.drop_drop, ← hcode x,
              List.drop_left, hcode x, ih, List.drop_succ_cons]
  have htake : ∀ n (xs : List α), (xs.flatMap code).take (length * n) = (xs.take n).flatMap code := by
    intro n xs
    induction xs generalizing n with
    | nil => simp
    | cons x xs ih =>
        cases n with
        | zero => simp
        | succ n =>
            rw [List.flatMap_cons, Nat.mul_succ, Nat.add_comm, ← hcode x, List.take_length_add_append,
              hcode x, ih, List.take_succ_cons, List.flatMap_cons]
  rw [blocks, blocks, hlen, Nat.mul_div_mul_left _ _ hlength, List.map_map]
  apply List.map_congr_left
  intro i _
  rw [Nat.mul_assoc, hdrop, htake]
  rfl

/-! ## Working off a stream

What was worked off are the blocks of the stream so far, and what waits is its
rest: induction from the last symbol. -/

/-- What has been worked off, and what waits. -/
structure Buffered (S α : Type*) where
  state : S
  buffer : List α := []

namespace Buffered

variable (width) (work : S → List α → S)

/-- Take one more symbol; a whole block is worked off. -/
def absorb (b : Buffered S α) (x : α) : Buffered S α :=
  if (b.buffer ++ [x]).length = width then ⟨work b.state (b.buffer ++ [x]), []⟩
  else { b with buffer := b.buffer ++ [x] }

variable {width work}

/-- From an empty buffer, the blocks of the stream are worked off and its rest waits. -/
theorem foldl_absorb (hwidth : 0 < width) (s : S) (xs : List α) :
    xs.foldl (absorb width work) ⟨s, []⟩ =
      ⟨(blocks width xs).foldl work s, leftover width xs⟩ := by
  induction xs using List.reverseRecOn with
  | nil => simp [blocks, leftover]
  | append_singleton xs x ih =>
      have hlt : (leftover width xs).length < width := by
        rw [length_leftover]
        exact Nat.mod_lt _ hwidth
      rw [List.foldl_append, ih, List.foldl_cons, List.foldl_nil, absorb, List.length_append,
        List.length_singleton]
      split
      next hfull =>
        obtain ⟨hblocks, hrest⟩ := blocks_concat_of_eq x hfull
        rw [hblocks, hrest, List.foldl_append]
        rfl
      next hwaits =>
        have hne : (leftover width xs).length + 1 ≠ width := hwaits
        obtain ⟨hblocks, hrest⟩ := blocks_concat_of_lt x (show (leftover width xs).length + 1 < width
          by omega)
        rw [hblocks, hrest]

/-- Symbols that do not complete a block wait. -/
theorem foldl_absorb_of_lt {b : Buffered S α} {xs : List α}
    (h : b.buffer.length + xs.length < width) :
    xs.foldl (absorb width work) b = { b with buffer := b.buffer ++ xs } := by
  induction xs generalizing b with
  | nil => simp
  | cons x xs ih =>
      rw [List.length_cons] at h
      rw [List.foldl_cons, absorb, if_neg (by simp; omega), ih (by simp; omega)]
      simp

/-- Symbols that complete a block, and no more. -/
theorem foldl_absorb_of_eq {b : Buffered S α} {xs : List α} (hne : xs ≠ [])
    (h : b.buffer.length + xs.length = width) :
    xs.foldl (absorb width work) b = ⟨work b.state (b.buffer ++ xs), []⟩ := by
  obtain ⟨front, last, rfl⟩ := List.eq_nil_or_concat xs |>.resolve_left hne
  rw [List.concat_eq_append, List.length_append, List.length_singleton] at h
  have hfront : front.foldl (absorb width work) b = { b with buffer := b.buffer ++ front } :=
    foldl_absorb_of_lt (by omega)
  rw [List.concat_eq_append, List.foldl_append, hfront, List.foldl_cons, List.foldl_nil, absorb,
    if_pos (by simp; omega), List.append_assoc]

end Buffered

end SpatialPlatform.Lib
