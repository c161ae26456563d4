import Mathlib.Data.Nat.NthRoot.Defs
import Mathlib.Data.Nat.Prime.Basic
import SpatialPlatform.Lib.Blocks
import SpatialPlatform.Lib.Numerals

/-!
# The secure hash standard

SHA-256 as FIPS 180-4 states it, over strings of bits: words are 32 bits, most
significant bit first, the constants are roots of primes, and the message
schedule is a recurrence. Section numbers are those of the standard.
-/

namespace SpatialPlatform.Lib.SecureHash

abbrev Word := BitVec 32

/-! ## Bit strings (3.1) -/

/-- The word that a string of 32 bits is. -/
def wordOf (bits : List Bool) : Word := BitVec.ofNat 32 (numeral 2 (bits.map Bool.toNat))

/-- The bits of a number of one width. -/
def bitsOf {width : Nat} (x : BitVec width) : List Bool := (List.range width).map x.getMsbD

@[simp] theorem length_bitsOf {width : Nat} (x : BitVec width) : (bitsOf x).length = width := by
  simp [bitsOf]

/-- The bits of a number of one width more begin with its highest bit. -/
theorem numeral_bitsOf {width : Nat} (x : BitVec width) :
    numeral 2 ((bitsOf x).map Bool.toNat) = x.toNat := by
  have hprefix : ∀ n ≤ width, numeral 2 (((List.range n).map x.getMsbD).map Bool.toNat) =
      x.toNat / 2 ^ (width - n) := by
    intro n hn
    induction n with
    | zero => simp [Nat.div_eq_of_lt x.isLt]
    | succ n ih =>
        have hbit : x.getMsbD n = x.toNat.testBit (width - (n + 1)) := by
          rw [BitVec.getMsbD, BitVec.getLsbD, decide_eq_true (show n < width by omega),
            Bool.true_and, Nat.sub_sub, Nat.add_comm 1]
        have hshift : width - n = width - (n + 1) + 1 := by omega
        rw [List.range_succ, List.map_append, List.map_append, List.map_singleton,
          List.map_singleton, numeral_concat, ih (by omega), hbit, hshift, Nat.pow_succ,
          ← Nat.div_div_eq_div_mul, Nat.testBit_eq_decide_div_mod_eq]
        generalize x.toNat / 2 ^ (width - (n + 1)) = y
        rcases Nat.mod_two_eq_zero_or_one y with h | h <;> simp [h] <;> omega
  have hall := hprefix width (Nat.le_refl width)
  rw [Nat.sub_self, Nat.pow_zero, Nat.div_one] at hall
  exact hall

theorem wordOf_bitsOf (x : Word) : wordOf (bitsOf x) = x := by
  rw [wordOf, numeral_bitsOf, BitVec.ofNat_toNat, BitVec.setWidth_eq]

/-! ## Functions (4.1.2) -/

def ch (x y z : Word) : Word := (x &&& y) ^^^ (~~~x &&& z)

def maj (x y z : Word) : Word := (x &&& y) ^^^ (x &&& z) ^^^ (y &&& z)

/-- `Σ₀` and `Σ₁`. -/
def bigSigma0 (x : Word) : Word := x.rotateRight 2 ^^^ x.rotateRight 13 ^^^ x.rotateRight 22

def bigSigma1 (x : Word) : Word := x.rotateRight 6 ^^^ x.rotateRight 11 ^^^ x.rotateRight 25

/-- `σ₀` and `σ₁`. -/
def smallSigma0 (x : Word) : Word := x.rotateRight 7 ^^^ x.rotateRight 18 ^^^ (x >>> 3)

def smallSigma1 (x : Word) : Word := x.rotateRight 17 ^^^ x.rotateRight 19 ^^^ (x >>> 10)

/-! ## Constants (4.2.2, 5.3.3) -/

/-- The first 32 bits of the fractional part of the `n`-th root of `p`. -/
def rootFraction (n p : Nat) : Word := BitVec.ofNat 32 (Nat.nthRoot n (p * 2 ^ (32 * n)))

/-- The first 64 primes. -/
def primes : List Nat := (List.range 312).filter fun p => p.Prime

/-- `K`: from the cube roots of the first 64 primes. -/
def constants : List Word := primes.map (rootFraction 3)

/-- The hash value after some blocks, or the working variables. -/
structure Hash where
  a : Word
  b : Word
  c : Word
  d : Word
  e : Word
  f : Word
  g : Word
  h : Word
  deriving DecidableEq, Repr

/-- The words of a hash value. -/
def Hash.words (v : Hash) : List Word := [v.a, v.b, v.c, v.d, v.e, v.f, v.g, v.h]

/-- `H⁽⁰⁾`: from the square roots of the first eight primes. -/
def initial : Hash where
  a := rootFraction 2 2
  b := rootFraction 2 3
  c := rootFraction 2 5
  d := rootFraction 2 7
  e := rootFraction 2 11
  f := rootFraction 2 13
  g := rootFraction 2 17
  h := rootFraction 2 19

/-! ## Padding (5.1.1) -/

/-- The number of zero bits behind the one bit. -/
def zeroBits (length : Nat) : Nat := (448 + 512 - (length + 1) % 512) % 512

/-- It is the least one that leaves room for the length in the last block. -/
theorem zeroBits_least (length : Nat) :
    (length + 1 + zeroBits length) % 512 = 448 ∧
      ∀ k, (length + 1 + k) % 512 = 448 → zeroBits length ≤ k := by
  unfold zeroBits
  constructor
  · omega
  · intro k hk
    omega

def pad (message : List Bool) : List Bool :=
  message ++ true :: (List.replicate (zeroBits message.length) false ++
    bitsOf (BitVec.ofNat 64 message.length))

/-! ## The hash computation (6.2.2) -/

/-- `W`, of a block of 512 bits. -/
def schedule (block : List Bool) (t : Nat) : Word :=
  if t < 16 then wordOf ((block.drop (32 * t)).take 32)
  else smallSigma1 (schedule block (t - 2)) + schedule block (t - 7) +
    smallSigma0 (schedule block (t - 15)) + schedule block (t - 16)

/-- Step `t` of the 64. -/
def step (w : Nat → Word) (v : Hash) (t : Nat) : Hash :=
  let t1 := v.h + bigSigma1 v.e + ch v.e v.f v.g + constants[t]! + w t
  let t2 := bigSigma0 v.a + maj v.a v.b v.c
  { a := t1 + t2, b := v.a, c := v.b, d := v.c, e := v.d + t1, f := v.e, g := v.f, h := v.g }

/-- The hash value after one more block. -/
def compress (value : Hash) (block : List Bool) : Hash :=
  let v := (List.range 64).foldl (step (schedule block)) value
  { a := v.a + value.a, b := v.b + value.b, c := v.c + value.c, d := v.d + value.d,
    e := v.e + value.e, f := v.f + value.f, g := v.g + value.g, h := v.h + value.h }

/-- The message digest, as a string of 256 bits. -/
def sha256 (message : List Bool) : List Bool :=
  ((blocks 512 (pad message)).foldl compress initial).words.flatMap bitsOf

end SpatialPlatform.Lib.SecureHash
