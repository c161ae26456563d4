import Mathlib.Data.List.Basic
import SpatialPlatform.Core.Basic

/-!
# SHA-256

`core/utils/sha256.{h,cpp}`: the incremental hasher and the hex digest by which
the content-addressed store, the task cache and the runners name bytes.
-/

namespace SpatialPlatform.Core

namespace Sha256

/-- `kK`. -/
def kK : Array UInt32 := #[
  0x428a2f98, 0x71374491, 0xb5c0fbcf, 0xe9b5dba5, 0x3956c25b, 0x59f111f1,
  0x923f82a4, 0xab1c5ed5, 0xd807aa98, 0x12835b01, 0x243185be, 0x550c7dc3,
  0x72be5d74, 0x80deb1fe, 0x9bdc06a7, 0xc19bf174, 0xe49b69c1, 0xefbe4786,
  0x0fc19dc6, 0x240ca1cc, 0x2de92c6f, 0x4a7484aa, 0x5cb0a9dc, 0x76f988da,
  0x983e5152, 0xa831c66d, 0xb00327c8, 0xbf597fc7, 0xc6e00bf3, 0xd5a79147,
  0x06ca6351, 0x14292967, 0x27b70a85, 0x2e1b2138, 0x4d2c6dfc, 0x53380d13,
  0x650a7354, 0x766a0abb, 0x81c2c92e, 0x92722c85, 0xa2bfe8a1, 0xa81a664b,
  0xc24b8b70, 0xc76c51a3, 0xd192e819, 0xd6990624, 0xf40e3585, 0x106aa070,
  0x19a4c116, 0x1e376c08, 0x2748774c, 0x34b0bcb5, 0x391c0cb3, 0x4ed8aa4a,
  0x5b9cca4f, 0x682e6ff3, 0x748f82ee, 0x78a5636f, 0x84c87814, 0x8cc70208,
  0x90befffa, 0xa4506ceb, 0xbef9a3f7, 0xc67178f2]

/-- `RotR`. -/
def rotR (x : UInt32) (n : UInt32) : UInt32 := (x >>> n) ||| (x <<< (32 - n))

/-- The eight words of `state_`; the default is `kInit`. -/
structure Words where
  a : UInt32 := 0x6a09e667
  b : UInt32 := 0xbb67ae85
  c : UInt32 := 0x3c6ef372
  d : UInt32 := 0xa54ff53a
  e : UInt32 := 0x510e527f
  f : UInt32 := 0x9b05688c
  g : UInt32 := 0x1f83d9ab
  h : UInt32 := 0x5be0cd19
  deriving DecidableEq, Repr

/-- The first sixteen words of the schedule, read big-endian from the block. -/
def blockWords : List UInt8 → List UInt32
  | b₀ :: b₁ :: b₂ :: b₃ :: rest =>
      ((b₀.toUInt32 <<< 24) ||| (b₁.toUInt32 <<< 16) ||| (b₂.toUInt32 <<< 8) ||| b₃.toUInt32) ::
        blockWords rest
  | _ => []

/-- The next word of the schedule, from those before it. -/
def scheduleWord (w : Array UInt32) : UInt32 :=
  let i := w.size
  let s0 := rotR w[i - 15]! 7 ^^^ rotR w[i - 15]! 18 ^^^ (w[i - 15]! >>> 3)
  let s1 := rotR w[i - 2]! 17 ^^^ rotR w[i - 2]! 19 ^^^ (w[i - 2]! >>> 10)
  w[i - 16]! + s0 + w[i - 7]! + s1

def schedule (block : List UInt8) : Array UInt32 :=
  (List.range 48).foldl (fun w _ => w.push (scheduleWord w)) (blockWords block).toArray

/-- One of the 64 rounds of `Transform`. -/
def round (w : Array UInt32) (s : Words) (i : Nat) : Words :=
  let s1 := rotR s.e 6 ^^^ rotR s.e 11 ^^^ rotR s.e 25
  let ch := (s.e &&& s.f) ^^^ (~~~s.e &&& s.g)
  let temp1 := s.h + s1 + ch + kK[i]! + w[i]!
  let s0 := rotR s.a 2 ^^^ rotR s.a 13 ^^^ rotR s.a 22
  let maj := (s.a &&& s.b) ^^^ (s.a &&& s.c) ^^^ (s.b &&& s.c)
  let temp2 := s0 + maj
  { a := temp1 + temp2, b := s.a, c := s.b, d := s.c, e := s.d + temp1, f := s.e, g := s.f,
    h := s.g }

/-- `Transform`. -/
def transform (state : Words) (block : List UInt8) : Words :=
  let s := (List.range 64).foldl (round (schedule block)) state
  { a := state.a + s.a, b := state.b + s.b, c := state.c + s.c, d := state.d + s.d,
    e := state.e + s.e, f := state.f + s.f, g := state.g + s.g, h := state.h + s.h }

end Sha256

/-- The members of the hasher; `buffer_len_` is the length of the buffer. -/
structure Sha256 where
  state : Sha256.Words := {}
  buffer : List UInt8 := []
  bitCount : UInt64 := 0
  deriving DecidableEq, Repr

namespace Sha256

/-- One byte of `Update`: a full buffer is transformed. -/
def absorb (hasher : Sha256) (byte : UInt8) : Sha256 :=
  let buffer := hasher.buffer ++ [byte]
  if buffer.length = 64 then
    { hasher with state := transform hasher.state buffer, buffer := [] }
  else { hasher with buffer := buffer }

/-- `Update`. -/
def update (hasher : Sha256) (data : List UInt8) : Sha256 :=
  data.foldl absorb { hasher with bitCount := hasher.bitCount + 8 * UInt64.ofNat data.length }

/-- The padding of `Final`: zeros until the buffer holds 56 bytes. -/
def padding (bufferLength : Nat) : List UInt8 :=
  List.replicate ((120 - bufferLength) % 64) 0

/-- The bytes of a word, highest first. -/
def wordBytes (word : UInt32) : List UInt8 :=
  [(word >>> 24).toUInt8, (word >>> 16).toUInt8, (word >>> 8).toUInt8, word.toUInt8]

/-- `Final`, of a hasher that is not finalized. -/
def final (hasher : Sha256) : List UInt8 :=
  let bitCount := hasher.bitCount
  let padded := hasher.update [0x80]
  let padded := padded.update (padding padded.buffer.length)
  let lenBytes :=
    wordBytes (bitCount >>> 32).toUInt32 ++ wordBytes bitCount.toUInt32
  let s := (padded.update lenBytes).state
  [s.a, s.b, s.c, s.d, s.e, s.f, s.g, s.h].flatMap wordBytes

end Sha256

/-- `Sha256Hex` of a byte vector. -/
def sha256Hex (data : List UInt8) : String :=
  String.ofList <| (Sha256.update {} data).final.flatMap fun byte =>
    [hexDigit (byte.toNat >>> 4), hexDigit (byte.toNat &&& 0x0f)]

/-- The bytes of a `std::string`. -/
def stringBytes (text : String) : List UInt8 := text.toUTF8.data.toList

/-- `Sha256Hex` of a string. -/
def sha256HexString (text : String) : String := sha256Hex (stringBytes text)

/-- A digest has hexadecimal digits only. -/
theorem mem_sha256Hex {data : List UInt8} {c : Char} (h : c ∈ (sha256Hex data).toList) :
    ∃ n < 16, c = hexDigit n := by
  rw [sha256Hex, String.toList_ofList, List.mem_flatMap] at h
  obtain ⟨byte, -, hdigit⟩ := h
  have hlow : byte.toNat &&& 0x0f < 16 := Nat.lt_of_le_of_lt Nat.and_le_right (by decide)
  have hhigh : byte.toNat >>> 4 < 16 := by
    rw [Nat.shiftRight_eq_div_pow]
    have := byte.toNat_lt
    omega
  rcases List.mem_pair.mp hdigit with rfl | rfl
  · exact ⟨_, hhigh, rfl⟩
  · exact ⟨_, hlow, rfl⟩

/-- A digest has 64 digits. -/
theorem length_sha256Hex (data : List UInt8) : (sha256Hex data).toList.length = 64 := by
  rw [sha256Hex, String.toList_ofList, List.length_flatMap]
  simp [Sha256.final, Sha256.wordBytes]

theorem newline_not_mem_sha256Hex (data : List UInt8) : '\n' ∉ (sha256Hex data).toList := by
  intro h
  obtain ⟨n, hn, hdigit⟩ := mem_sha256Hex h
  have hne : ∀ n < 16, '\n' ≠ hexDigit n := by decide
  exact hne n hn hdigit

example : sha256HexString "abc" =
    "ba7816bf8f01cfea414140de5dae2223b00361a396177a9cb410ff61f20015ad" := by decide +kernel

/-- Two short payloads that the digest tells apart. -/
theorem sha256Hex_zero_ne_empty : sha256Hex [0] ≠ sha256Hex [] := by decide +kernel

end SpatialPlatform.Core
