import SpatialPlatform.Core.Sha256

/-!
# UUIDs from names

SHA-1 and `GenerateUuidV5` of `core/utils/uuid.cpp`.
-/

namespace SpatialPlatform.Core

namespace Sha1

/-- `RotateLeft`. -/
def rotateLeft (x : UInt32) (n : UInt32) : UInt32 := (x <<< n) ||| (x >>> (32 - n))

/-- The five words of `state_`; the default is `kInit`. -/
structure Words where
  a : UInt32 := 0x67452301
  b : UInt32 := 0xefcdab89
  c : UInt32 := 0x98badcfe
  d : UInt32 := 0x10325476
  e : UInt32 := 0xc3d2e1f0
  deriving DecidableEq, Repr

/-- The next word of the schedule, from those before it, the newest first:
`w[i - 3]` is the third of them. -/
def scheduleWord (w : List UInt32) : UInt32 :=
  rotateLeft (w[2]! ^^^ w[7]! ^^^ w[13]! ^^^ w[15]!) 1

/-- The words `w`; a block is read as in SHA-256. -/
def schedule (block : List UInt8) : List UInt32 :=
  ((List.range 64).foldl (fun w _ => scheduleWord w :: w) (Sha256.blockWords block).reverse).reverse

/-- The function and the constant of a round. -/
def roundFunction (s : Words) (i : Nat) : UInt32 × UInt32 :=
  if i < 20 then ((s.b &&& s.c) ||| (~~~s.b &&& s.d), 0x5a827999)
  else if i < 40 then (s.b ^^^ s.c ^^^ s.d, 0x6ed9eba1)
  else if i < 60 then ((s.b &&& s.c) ||| (s.b &&& s.d) ||| (s.c &&& s.d), 0x8f1bbcdc)
  else (s.b ^^^ s.c ^^^ s.d, 0xca62c1d6)

/-- One of the 80 rounds of `Transform`, with its word and its number. -/
def round (s : Words) : UInt32 × Nat → Words
  | (word, i) =>
      let (f, k) := roundFunction s i
      let temp := rotateLeft s.a 5 + f + s.e + k + word
      { a := temp, b := s.a, c := rotateLeft s.b 30, d := s.c, e := s.d }

/-- `Transform`. -/
def transform (state : Words) (block : List UInt8) : Words :=
  let s := (schedule block).zipIdx.foldl round state
  { a := state.a + s.a, b := state.b + s.b, c := state.c + s.c, d := state.d + s.d,
    e := state.e + s.e }

end Sha1

/-- The members of the hasher; `buffer_len_` is the length of the buffer. -/
structure Sha1 where
  state : Sha1.Words := {}
  buffer : List UInt8 := []
  bitCount : UInt64 := 0
  deriving DecidableEq, Repr

namespace Sha1

/-- One byte of `Update`: a full buffer is transformed. -/
def absorb (hasher : Sha1) (byte : UInt8) : Sha1 :=
  let buffer := hasher.buffer ++ [byte]
  if buffer.length = 64 then
    { hasher with state := transform hasher.state buffer, buffer := [] }
  else { hasher with buffer := buffer }

/-- `Update`. -/
def update (hasher : Sha1) (data : List UInt8) : Sha1 :=
  data.foldl absorb { hasher with bitCount := hasher.bitCount + UInt64.ofNat data.length * 8 }

/-- `Final`, of a hasher that is not finalized. It pads as SHA-256 does. -/
def final (hasher : Sha1) : List UInt8 :=
  let bitCount := hasher.bitCount
  let padded := hasher.update [0x80]
  let padded := padded.update (Sha256.padding padded.buffer.length)
  let lenBytes :=
    Sha256.wordBytes (bitCount >>> 32).toUInt32 ++ Sha256.wordBytes bitCount.toUInt32
  let s := (padded.update lenBytes).state
  [s.a, s.b, s.c, s.d, s.e].flatMap Sha256.wordBytes

end Sha1

/-- The bytes of a UUID. -/
def Uuid.toBytes (u : Uuid) : List UInt8 := (List.range 16).map fun i => UInt8.ofNat (u.byte i)

/-- The UUID with the given bytes. -/
def Uuid.ofBytes (bytes : List UInt8) : Uuid :=
  ⟨BitVec.ofNat 128 (bytes.foldl (fun value byte => 256 * value + byte.toNat) 0)⟩

/-- `GenerateUuidV5`. -/
def generateUuidV5 (namespaceUuid : Uuid) (name : String) : Uuid :=
  let hasher := Sha1.update {} namespaceUuid.toBytes
  let digest := (hasher.update (stringBytes name)).final
  let out := digest.take 16
  let out := out.modify 6 fun byte => (byte &&& 0x0f) ||| 0x50  -- version 5
  let out := out.modify 8 fun byte => (byte &&& 0x3f) ||| 0x80  -- variant 10
  .ofBytes out

example : formatUuid (generateUuidV5 ⟨0x6ba7b8109dad11d180b400c04fd430c8⟩ "www.example.com") =
    "2ed6657d-e927-568b-95e1-2665a8aea6a2" := by decide +kernel

end SpatialPlatform.Core
