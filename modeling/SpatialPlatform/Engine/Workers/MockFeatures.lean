import SpatialPlatform.Engine.Workers.MockPipelineRunner
import SpatialPlatform.Lib.Binary64
import SpatialPlatform.Lib.XorLinear
import Mathlib.Data.Nat.ModEq

/-!
# What mock features show of their seed

Two payloads of the `feature_extract` stage are the same only if their images
give the same seed. The values of a descriptor row show the low 16 bits of the
generator, a step of which is linear over exclusive or; the first four values
determine the seed.
-/

namespace SpatialPlatform.Engine

open SpatialPlatform.Core SpatialPlatform.Lib

/-! ## The generator as a linear function

The generator shifts and adds without carry, so each bit of its states is a sum
of bits of the seed. The values of a row show enough of these bits to solve for
the seed. -/

/-- `xorshift` on the bits of the state. -/
def xorshiftBits (x : BitVec 64) : BitVec 64 :=
  let x := x ^^^ (x >>> 12)
  let x := x ^^^ (x <<< 25)
  x ^^^ (x >>> 27)

theorem toBitVec_xorshift (state : UInt64) :
    (xorshift state).toBitVec = xorshiftBits state.toBitVec := by
  simp [xorshift, xorshiftBits]

theorem linear_xorshiftBits : XorLinear xorshiftBits := by
  have hright (n : Nat) : XorLinear fun x : BitVec 64 => x ^^^ (x >>> n) :=
    XorLinear.identity.xor (XorLinear.shiftRight n)
  have hleft : XorLinear fun x : BitVec 64 => x ^^^ (x <<< 25) :=
    XorLinear.identity.xor (XorLinear.shiftLeft 25)
  exact (hright 27).comp (hleft.comp (hright 12))

/-- The low 16 bits of a state. -/
def lowHalf (x : BitVec 64) : BitVec 64 := x &&& 0xffff

/-- What the first four values of a row show of the seed; five outputs go to the keypoint. -/
def shownBits (x : BitVec 64) : BitVec 64 :=
  let x := xorshiftBits (xorshiftBits (xorshiftBits (xorshiftBits (xorshiftBits (xorshiftBits x)))))
  lowHalf x ^^^ (lowHalf (xorshiftBits x) <<< 16) ^^^
    (lowHalf (xorshiftBits (xorshiftBits x)) <<< 32) ^^^
    (lowHalf (xorshiftBits (xorshiftBits (xorshiftBits x))) <<< 48)

theorem linear_shownBits : XorLinear shownBits := by
  have hstep {f : BitVec 64 → BitVec 64} (hf : XorLinear f) :
      XorLinear fun x => xorshiftBits (f x) := linear_xorshiftBits.comp hf
  have hlow {f : BitVec 64 → BitVec 64} (hf : XorLinear f) (n : Nat) :
      XorLinear fun x => lowHalf (f x) <<< n :=
    (XorLinear.shiftLeft n).comp ((XorLinear.mask 0xffff).comp hf)
  have hsix := hstep (hstep (hstep (hstep (hstep (hstep XorLinear.identity)))))
  have hvalues := (((XorLinear.mask 0xffff).comp hsix).xor (hlow (hstep hsix) 16)).xor
    (hlow (hstep (hstep hsix)) 32) |>.xor (hlow (hstep (hstep (hstep hsix))) 48)
  exact hvalues

/-- The seed behind each bit that the four values show. -/
def seedTable : Array (BitVec 64) := #[
  0x25aaa2254e3b2e6e, 0x4ac0e9df7838a6fb, 0x74e87f0c02f6b0dc, 0x33d98979c7f198d0,
  0x1fc9699ec032f094, 0x9e2bb9923f99ca8e, 0x61583f6b0dd87af2, 0xff1c07f1a192382f,
  0x429083d64fa7e8e6, 0x3bb3433177d6fbd1, 0x35e8ce04899e4ded, 0xa57a68dd99be3c5f,
  0xa42d9a938fc28b93, 0x7ccab57bdf3bf7e3, 0xbea7cddd3370dbf0, 0x38047b268bc66b57,
  0xc4f9b611e4b9880a, 0xccfb03a1a06e9686, 0xb9be68dfc57dea6f, 0x3cc98a0a0840da12,
  0x834134923c6c529d, 0x163b1050181f50cc, 0xfeba54d503ee033f, 0x8a872ef9606160fb,
  0x88081e077a2974d0, 0x98b832d327a1dcd5, 0x4ee7618295408316, 0x03d3147bb007a778,
  0x822a4261f9421ea1, 0x93741e804eff9bc0, 0x987ef843a87ae94d, 0x7e7ff946f3da3123,
  0x2987ad42a00809a1, 0x7433295895aa0b31, 0xe986fdbaed7eb72d, 0x70e44492e6d0b513,
  0x5c55ec354f351e86, 0x670d0b1da996e4a7, 0xd98e122505336f6f, 0x5189e245b792a594,
  0xd05803b5182c14fb, 0xe77c4e5f620cdd43, 0xb47ea391e227be2d, 0xd0e15ec1581ffefb,
  0x2f8363370d9e8424, 0x0a1ab099598fe19b, 0xedfb2b63eb2bd588, 0xe2b2abc9e62fab13,
  0xa9edea918ae2a9b6, 0xade860a5133e2a9c, 0x93aa3345cc6b237b, 0x04b21cbf6768f207,
  0x459cbccdd817d54b, 0x4ce2a0196c92e614, 0x7b40337b28b19daa, 0x9afb24826ec136c0,
  0x108144e99427d6e1, 0x99f4fef0a6511b21, 0x70341566983695c6, 0x04b898788e88971f,
  0xd8c41815ef0099e9, 0x6c001f6c9c9b86c5, 0xdb7e1d8a775e6859, 0xfab9dfa6a3137b50]

theorem shownBits_injective : Function.Injective shownBits :=
  linear_shownBits.injective (fun i => seedTable[i]!) (by decide +kernel)

/-! ## What a row shows

A row shows the outputs through a multiplication and a cut, which leave the low
halves of the states recognizable. -/

theorem toNat_lowHalf (x : BitVec 64) : (lowHalf x).toNat = x.toNat % 65536 := by
  rw [lowHalf, BitVec.toNat_and]
  exact Nat.and_two_pow_sub_one_eq_mod x.toNat 16

/-- The multiplier of the output is odd, and so keeps the low halves apart. -/
theorem lowHalf_of_output {word word' : UInt64}
    (h : word * 0x2545F4914F6CDD1D % 65536 = word' * 0x2545F4914F6CDD1D % 65536) :
    lowHalf word.toBitVec = lowHalf word'.toBitVec := by
  have hmod : word.toNat * 0x2545F4914F6CDD1D % 2 ^ 64 % 65536 =
      word'.toNat * 0x2545F4914F6CDD1D % 2 ^ 64 % 65536 := by
    have hnat := congrArg UInt64.toNat h
    rwa [UInt64.toNat_mod, UInt64.toNat_mod, UInt64.toNat_mul, UInt64.toNat_mul] at hnat
  have hproducts :
      word.toNat * 0x2545F4914F6CDD1D ≡ word'.toNat * 0x2545F4914F6CDD1D [MOD 65536] := by
    rw [Nat.ModEq, ← Nat.mod_mod_of_dvd _ (show 65536 ∣ 2 ^ 64 by decide), hmod]
    exact Nat.mod_mod_of_dvd _ (by decide)
  have hwords : word.toNat ≡ word'.toNat [MOD 65536] :=
    hproducts.cancel_right_of_coprime (by decide)
  apply BitVec.eq_of_toNat_eq
  rw [toNat_lowHalf, toNat_lowHalf]
  exact hwords

/-- A row shows the low half of every state behind its values. -/
theorem lowHalf_of_mockRow {n : Nat} {state state' : UInt64}
    (h : (mockRow (n + 1) state).1 = (mockRow (n + 1) state').1) :
    lowHalf (xorshift state).toBitVec = lowHalf (xorshift state').toBitVec ∧
      (mockRow n (xorshift state)).1 = (mockRow n (xorshift state')).1 := by
  obtain ⟨hvalue, hrest⟩ := List.cons.inj h
  refine ⟨lowHalf_of_output ?_, hrest⟩
  have hsmall (word : UInt64) : (word % 65536).toNat < 2 ^ 53 := by
    rw [UInt64.toNat_mod]
    exact lt_of_lt_of_le (Nat.mod_lt _ (by decide)) (by decide)
  exact Binary64.toFloat_div_injective (show 16 ≤ 52 by decide) rfl (hsmall _) (hsmall _) hvalue

/-- A keypoint with its row shows the seed. -/
theorem mockRow_injective (side : UInt64) (spacing : Float) (i : UInt64) {seed seed' : UInt64}
    (h : (mockRow 16 (mockPoint side spacing i seed).2).1 =
      (mockRow 16 (mockPoint side spacing i seed').2).1) : seed = seed' := by
  obtain ⟨h₁, h⟩ := lowHalf_of_mockRow h
  obtain ⟨h₂, h⟩ := lowHalf_of_mockRow h
  obtain ⟨h₃, h⟩ := lowHalf_of_mockRow h
  obtain ⟨h₄, h⟩ := lowHalf_of_mockRow h
  have hshown : shownBits seed.toBitVec = shownBits seed'.toBitVec := by
    simp only [mockPoint, jitter, xorshiftNext, toBitVec_xorshift] at h₁ h₂ h₃ h₄
    simp only [shownBits, h₁, h₂, h₃, h₄]
  exact UInt64.toBitVec_inj.mp (shownBits_injective hshown)

theorem mockGrid_injective (side : UInt64) (spacing : Float) (n : Nat) (i : UInt64)
    {seed seed' : UInt64} (h : (mockGrid side spacing (n + 1) i seed).map (·.2) =
      (mockGrid side spacing (n + 1) i seed').map (·.2)) : seed = seed' :=
  mockRow_injective side spacing i (List.cons.inj h).1

/-- The descriptors of at least one keypoint show the seed. -/
theorem mockFeatures_injective {count : Nat} (hcount : 0 < count) {seed seed' : UInt64}
    (h : (mockFeatures count seed).map (·.2) = (mockFeatures count seed').map (·.2)) :
    seed = seed' := by
  obtain ⟨n, rfl⟩ : ∃ n, count = n + 1 := ⟨count - 1, by omega⟩
  exact mockGrid_injective _ _ n 0 h

/-- There is always a keypoint. -/
theorem mockCount_pos {jsonLib : JsonLibrary} {configJson : String} {count : Nat}
    (h : mockCount jsonLib configJson = .ok count) : 0 < count := by
  have hconfigured (cfg : Json) : 0 < configuredCount cfg := by
    unfold configuredCount
    split
    · split
      · next hrange =>
          simp only [Bool.and_eq_true, decide_eq_true_eq] at hrange
          omega
      · decide
    · decide
  unfold mockCount at h
  split at h
  · cases h
    decide
  · split at h
    · cases h
      exact hconfigured _
    · cases h
      decide
    · cases h

end SpatialPlatform.Engine
