import Mathlib

/-!
# Exact binary64 arithmetic

What the logical model of `Float` computes where no rounding happens: the
conversion of an integer below 2^53, and its division by a power of two.
Different integers have different quotients (`toFloat_div_injective`), so that a
program which prints such quotients shows the integers. A finite number is given
by its bits (`ofBits_toBits`).
-/

namespace SpatialPlatform.Lib.Binary64

open Float.Model Float.Model.UnpackedFloat

theorem log2_shiftLeft {n : Nat} (k : Nat) (h : n ≠ 0) : (n <<< k).log2 = n.log2 + k := by
  have hpos : n <<< k ≠ 0 := by simpa [Nat.shiftLeft_eq] using h
  obtain ⟨hlo, hhi⟩ := (Nat.log2_eq_iff h).mp rfl
  rw [Nat.log2_eq_iff hpos, Nat.shiftLeft_eq]
  constructor
  · rw [pow_add]
    exact Nat.mul_le_mul_right _ hlo
  · rw [show n.log2 + k + 1 = n.log2 + 1 + k by ring, pow_add]
    exact Nat.mul_lt_mul_of_pos_right hhi (Nat.two_pow_pos k)

theorem finite_congr {sign : Sign} {m m' : Nat} {e e' : Int} {hm : 0 < m} {hm' : 0 < m'}
    (hmantissa : m = m') (hexponent : e = e') :
    UnpackedFloat.finite sign m e hm = .finite sign m' e' hm' := by
  subst hmantissa hexponent
  rfl

/-- The sign bit is the highest one. -/
theorem ofBitVec_unpackSign {spec : Format} {sign exponent mantissa} :
    Sign.ofBitVec (unpackSign (packComponents spec sign exponent mantissa)) = sign := by
  have hbit : unpackSign (packComponents spec sign exponent mantissa) = sign.toBitVec := by
    apply BitVec.eq_of_getLsbD_eq
    intro i hi
    obtain rfl : i = 0 := by omega
    simp [unpackSign, packComponents, BitVec.getLsbD_append, BitVec.getElem_append]
  rw [hbit]
  cases sign <;> rfl

/-- The leading bit stands before the mantissa. -/
theorem toNat_implicitBit (m : BitVec 52) : (1#1 ++ m).toNat = 2 ^ 52 + m.toNat := by
  rw [BitVec.toNat_append, ← Nat.shiftLeft_add_eq_or_of_lt m.isLt]
  rfl

variable {sign : Sign} {m : Nat} {e : Int}

/-- A normal number is packed with its exponent biased and its leading bit left out. -/
theorem pack_normal (hm : 0 < m) (hlog : m.log2 = 52) (he : -1074 ≤ e) (he' : e ≤ 971) :
    UnpackedFloat.pack Format.binary64 (.finite sign m e hm) =
      packComponents Format.binary64 sign (BitVec.ofNat 11 (e + 1075).toNat)
        (BitVec.ofNat 52 m) := by
  have hbias :
      (e + (Format.binary64.exponentBias : Int) + (52 : Nat)).toNat = (e + 1075).toNat := by
    rw [show (Format.binary64.exponentBias : Int) = 1023 from rfl]
    congr 1
    omega
  simp only [UnpackedFloat.pack, hlog, hbias]
  rw [if_neg (by omega), if_pos (show 52 + 1 = Format.binary64.mantissaBits from rfl)]

theorem unpack_pack_normal (hm : 0 < m) (hlog : m.log2 = 52) (he : -1074 ≤ e) (he' : e ≤ 971) :
    (Float.Model.pack (.finite sign m e hm)).unpack = .finite sign m e hm := by
  obtain ⟨hlo, hhi⟩ := (Nat.log2_eq_iff (by omega)).mp hlog
  have hbiased : (BitVec.ofNat 11 (e + 1075).toNat).toNat = (e + 1075).toNat := by
    rw [BitVec.toNat_ofNat]
    omega
  have hmax : BitVec.ofNat 11 (e + 1075).toNat ≠ -1#11 := by
    intro h
    have htop := congrArg BitVec.toNat h
    rw [hbiased] at htop
    simp at htop
    omega
  have hzero : BitVec.ofNat 11 (e + 1075).toNat ≠ 0#11 := by
    intro h
    have hbottom := congrArg BitVec.toNat h
    rw [hbiased] at hbottom
    simp at hbottom
    omega
  have hmantissa : (1#1 ++ BitVec.ofNat 52 m).toNat = m := by
    rw [toNat_implicitBit, BitVec.toNat_ofNat]
    omega
  show UnpackedFloat.unpack Format.binary64 (UnpackedFloat.pack Format.binary64 _) = _
  rw [pack_normal hm hlog he he']
  simp only [UnpackedFloat.unpack, unpackMantissa_packComponents, unpackExponent_packComponents,
    ofBitVec_unpackSign]
  rw [if_neg hmax, if_neg hzero]
  apply finite_congr hmantissa
  rw [hbiased]
  show ((e + 1075).toNat : Int) - (1023 + 52) = e
  omega

/-- A mantissa of full length is its own rounding. -/
theorem shiftToTargetExponent_exact (hlog : m.log2 = 52) (he : -1074 ≤ e) :
    shiftToTargetExponent Format.binary64 m e .exact = (⟨m, false, false⟩, e) := by
  have htarget : Format.binary64.targetExponent (totalExponent m e) = e := by
    simp [Format.targetExponent, totalExponent, hlog, Format.mantissaBits, Format.minExponent]
    omega
  simp [shiftToTargetExponent, htarget, shiftToExponent, HShiftRight.hShiftRight, Nat.repeat,
    ExtendedMantissa.ofMantissaAndAccuracy]

/-- Shifting to the right what was shifted to the left leaves no residue. -/
theorem shiftRight_exact (m k j : Nat) :
    (⟨m <<< (k + j), false, false⟩ : ExtendedMantissa) >>> k = ⟨m <<< j, false, false⟩ := by
  induction k generalizing j with
  | zero =>
      rw [Nat.zero_add]
      rfl
  | succ k ih =>
      have hstep : (⟨m <<< (k + 1 + j), false, false⟩ : ExtendedMantissa) >>> (k + 1) =
          ((⟨m <<< (k + (j + 1)), false, false⟩ : ExtendedMantissa) >>> k).shiftRightOne := by
        rw [Nat.add_right_comm k 1 j]
        rfl
      rw [hstep, ih]
      have htwo : m <<< (j + 1) = m <<< j * 2 := by rw [Nat.shiftLeft_succ, Nat.mul_comm]
      simp [ExtendedMantissa.shiftRightOne, htwo]

theorem roundWithAccuracy_shift (hm : 0 < m) (hlog : m.log2 = 52) (k : Nat)
    (he : -1074 ≤ e + k) :
    roundWithAccuracy Format.binary64 sign (m <<< k) e .exact = .finite sign m (e + k) hm := by
  have hlog' : (m <<< k).log2 = 52 + k := by rw [log2_shiftLeft k (by omega), hlog]
  have htarget : Format.binary64.targetExponent (totalExponent (m <<< k) e) = e + k := by
    simp [Format.targetExponent, totalExponent, hlog', Format.mantissaBits, Format.minExponent]
    omega
  have hshift : shiftToTargetExponent Format.binary64 (m <<< k) e .exact =
      (⟨m, false, false⟩, e + k) := by
    have hamount : (e + (k : Int) - e).toNat = k := by omega
    simp only [shiftToTargetExponent, htarget, shiftToExponent, hamount,
      ExtendedMantissa.ofMantissaAndAccuracy]
    rw [show m <<< k = m <<< (k + 0) from rfl, shiftRight_exact, Nat.shiftLeft_zero]
  have hrounded : (ExtendedMantissa.mk m false false).roundedMantissa = m := rfl
  simp only [roundWithAccuracy, hshift, hrounded, shiftToTargetExponent_exact hlog he]
  rw [dif_neg (by omega)]

theorem roundWithAccuracy_exact (hm : 0 < m) (hlog : m.log2 = 52) (he : -1074 ≤ e) :
    roundWithAccuracy Format.binary64 sign m e .exact = .finite sign m e hm := by
  simpa using roundWithAccuracy_shift hm hlog 0 (by simpa using he)

/-- A mantissa with one bit too many, the last of them zero. -/
theorem roundWithAccuracy_double (hm : 0 < m) (hlog : m.log2 = 52) (he : -1074 ≤ e) :
    roundWithAccuracy Format.binary64 sign (2 * m) (e - 1) .exact = .finite sign m e hm := by
  have hdouble : 2 * m = m <<< 1 := by rw [Nat.shiftLeft_succ, Nat.shiftLeft_zero]
  have hexponent : e - 1 + (1 : Nat) = e := by omega
  rw [hdouble, roundWithAccuracy_shift hm hlog 1 (by omega), hexponent]

/-! ## Fractions over a power of two

An integer below 2^53 is converted without rounding, and a division by a power
of two is none of the mantissa. -/

/-- The conversion of an integer below 2^53 is exact. -/
theorem unpack_toFloat {n : Nat} {word : UInt64} (hn : 0 < n) (hlt : n < 2 ^ 53)
    (hword : word.toNat = n) :
    word.toFloat.toModel.unpack =
      .finite .positive (n <<< (52 - n.log2)) (n.log2 - 52) (Nat.shiftLeft_pos_iff.mpr hn) := by
  have hbits : n.log2 < 53 := (Nat.log2_lt (by omega)).mpr hlt
  have hlog : (n <<< (52 - n.log2)).log2 = 52 := by
    rw [log2_shiftLeft _ (by omega)]
    omega
  have htarget : Format.binary64.targetExponent (totalExponent n 0) = n.log2 - 52 := by
    simp [Format.targetExponent, totalExponent, Format.mantissaBits, Format.minExponent]
    omega
  have hround : round Format.binary64 .positive n 0 =
      .finite .positive (n <<< (52 - n.log2)) (n.log2 - 52) (Nat.shiftLeft_pos_iff.mpr hn) := by
    have hshift : (0 - ((n.log2 : Int) - 52)).toNat = 52 - n.log2 := by omega
    have hexponent : (0 : Int) - (52 - n.log2 : Nat) = n.log2 - 52 := by omega
    simp only [UnpackedFloat.round, htarget, decreaseExponent, hshift, hexponent]
    exact roundWithAccuracy_exact _ hlog (by omega)
  show (Float.Model.pack
    (UnpackedFloat.normalize Format.binary64 (word.toNat : Int) 0 _)).unpack = _
  rw [hword, UnpackedFloat.normalize, Int.compare_eq_gt.mpr (by omega)]
  simp only [Int.toNat_natCast, hround]
  exact unpack_pack_normal _ hlog (by omega) (by omega)

/-- Dividing by 2^k only lowers the exponent. -/
theorem unpack_div {x d : Float} {m : Nat} {e : Int} {k : Nat} {hm : 0 < m}
    (hx : x.toModel.unpack = .finite .positive m e hm) (hlog : m.log2 = 52) (he : -52 ≤ e)
    (he' : e ≤ 0) (hk : k ≤ 52)
    (hd : d.toModel.unpack = .finite .positive (2 ^ 52) (k - 52) (by decide)) :
    (x / d).toModel.unpack = .finite .positive m (e - k) hm := by
  have htarget : Format.binary64.targetExponent
      (totalExponent m e - totalExponent (2 ^ 52) ((k : Int) - 52)) = e - k - 1 := by
    have htwo : (2 ^ 52 : Nat).log2 = 52 := Nat.log2_two_pow
    simp only [Format.targetExponent, totalExponent, hlog, htwo]
    show max (((52 : Nat) + 1 + e : Int) - ((52 : Nat) + 1 + (k - 52)) - (53 : Nat)) (-1074) = _
    omega
  have hdiv :
      divCore Format.binary64 m e (2 ^ 52) ((k : Int) - 52) = (2 * m, e - k - 1, .exact) := by
    have hmin : min (e - ((k : Int) - 52)) (e - k - 1) = e - k - 1 := by omega
    have hshift : (e - ((k : Int) - 52) - (e - k - 1)).toNat = 53 := by omega
    have hproduct : m <<< 53 = 2 * m * 2 ^ 52 := by
      rw [Nat.shiftLeft_eq]
      ring
    simp only [divCore, htarget, hmin, hshift, hproduct]
    rw [Nat.mul_div_cancel _ (by decide), Nat.mul_mod_left]
    rfl
  show (Float.Model.pack
    (UnpackedFloat.div Format.binary64 x.toModel.unpack d.toModel.unpack)).unpack = _
  rw [hx, hd]
  simp only [UnpackedFloat.div, hdiv]
  rw [show Sign.positive / Sign.positive = Sign.positive from rfl,
    roundWithAccuracy_double hm hlog (by omega)]
  exact unpack_pack_normal _ hlog (by omega) (by omega)

/-- The fraction of a positive integer below 2^53 over 2^k. -/
theorem unpack_fraction {word : UInt64} {d : Float} {k : Nat} (hk : k ≤ 52)
    (hd : d.toModel.unpack = .finite .positive (2 ^ 52) (k - 52) (by decide))
    (hn : 0 < word.toNat) (hlt : word.toNat < 2 ^ 53) :
    (word.toFloat / d).toModel.unpack =
      .finite .positive (word.toNat <<< (52 - word.toNat.log2)) (word.toNat.log2 - 52 - k)
        (Nat.shiftLeft_pos_iff.mpr hn) := by
  have hbits : word.toNat.log2 < 53 := (Nat.log2_lt (by omega)).mpr hlt
  apply unpack_div (unpack_toFloat hn hlt rfl) _ (by omega) (by omega) hk hd
  rw [log2_shiftLeft _ (by omega)]
  omega

theorem unpack_fraction_zero {d : Float} {k : Nat}
    (hd : d.toModel.unpack = .finite .positive (2 ^ 52) (k - 52) (by decide)) :
    ((0 : UInt64).toFloat / d).toModel.unpack = .zero .positive := by
  have hzero : (0 : UInt64).toFloat.toModel.unpack = .zero .positive := rfl
  show (Float.Model.pack (UnpackedFloat.div Format.binary64 _ d.toModel.unpack)).unpack = _
  rw [hzero, hd]
  simp only [UnpackedFloat.div]
  rfl

/-- Integers below 2^53 have distinct fractions over 2^k. -/
theorem toFloat_div_injective {a b : UInt64} {d : Float} {k : Nat} (hk : k ≤ 52)
    (hd : d.toModel.unpack = .finite .positive (2 ^ 52) (k - 52) (by decide))
    (ha : a.toNat < 2 ^ 53) (hb : b.toNat < 2 ^ 53) (h : a.toFloat / d = b.toFloat / d) :
    a = b := by
  have hunpack : (a.toFloat / d).toModel.unpack = (b.toFloat / d).toModel.unpack := by rw [h]
  rcases Nat.eq_zero_or_pos a.toNat with ha0 | ha0 <;>
    rcases Nat.eq_zero_or_pos b.toNat with hb0 | hb0
  · exact UInt64.toNat_inj.mp (ha0.trans hb0.symm)
  · obtain rfl : a = 0 := UInt64.toNat_inj.mp ha0
    rw [unpack_fraction_zero hd, unpack_fraction hk hd hb0 hb] at hunpack
    cases hunpack
  · obtain rfl : b = 0 := UInt64.toNat_inj.mp hb0
    rw [unpack_fraction_zero hd, unpack_fraction hk hd ha0 ha] at hunpack
    cases hunpack
  · rw [unpack_fraction hk hd ha0 ha, unpack_fraction hk hd hb0 hb] at hunpack
    injection hunpack with _ hmantissa hexponent
    have hlog : a.toNat.log2 = b.toNat.log2 := by omega
    rw [hlog, Nat.shiftLeft_eq, Nat.shiftLeft_eq] at hmantissa
    exact UInt64.toNat_inj.mp (Nat.eq_of_mul_eq_mul_right (Nat.two_pow_pos _) hmantissa)

/-! ## Bits

Taking a word apart and putting it together. -/

/-- A word is its sign, exponent and mantissa. -/
theorem packComponents_unpack (b : BitVec Format.binary64.numBits) :
    packComponents Format.binary64 (Sign.ofBitVec (unpackSign b)) (unpackExponent b)
      (unpackMantissa b) = b := by
  have hsign : (Sign.ofBitVec (unpackSign b)).toBitVec = unpackSign b := by
    generalize unpackSign b = s
    revert s
    decide
  unfold packComponents
  rw [hsign]
  apply BitVec.eq_of_getLsbD_eq
  intro i hi
  have hi : i < 64 := hi
  simp only [unpackSign, unpackExponent, unpackMantissa, Format.binary64]
  simp
  grind

/-- A word that is neither infinite nor a NaN is packed as it was. -/
theorem pack_unpack {b : BitVec Format.binary64.numBits} (h : unpackExponent b ≠ -1#11) :
    UnpackedFloat.pack Format.binary64 (UnpackedFloat.unpack Format.binary64 b) = b := by
  have hparts := packComponents_unpack b
  have hexp : (unpackExponent b).toNat ≤ 2046 := by
    have hlt : (unpackExponent b).toNat < 2 ^ 11 := (unpackExponent b).isLt
    have hne : (unpackExponent b).toNat ≠ 2047 := fun heq => h (BitVec.eq_of_toNat_eq heq)
    omega
  simp only [UnpackedFloat.unpack]
  rw [if_neg h]
  split
  · next hzero =>
      split
      · next hmantissa =>
          rw [hzero, hmantissa] at hparts
          exact hparts
      · next hmantissa =>
          -- subnormal: the mantissa is shorter than that of a normal number
          have hlt : (unpackMantissa b).toNat < 2 ^ 52 := (unpackMantissa b).isLt
          have hpos : (unpackMantissa b).toNat ≠ 0 := fun heq =>
            hmantissa (BitVec.eq_of_toNat_eq heq)
          have hlog : (unpackMantissa b).toNat.log2 < 52 := (Nat.log2_lt hpos).mpr hlt
          simp only [UnpackedFloat.pack]
          rw [hzero]
          rw [if_neg (by decide), if_neg (by show _ + 1 ≠ 53; omega), BitVec.ofNat_toNat]
          rw [hzero] at hparts
          simpa using hparts
  · next hzero =>
      have hpos : 1 ≤ (unpackExponent b).toNat := by
        have hne : (unpackExponent b).toNat ≠ 0 := fun heq => hzero (BitVec.eq_of_toNat_eq heq)
        omega
      have hmantissa : (1#1 ++ unpackMantissa b).toNat = 2 ^ 52 + (unpackMantissa b).toNat :=
        toNat_implicitBit (unpackMantissa b)
      have hlt : (unpackMantissa b).toNat < 2 ^ 52 := (unpackMantissa b).isLt
      have hlog : (1#1 ++ unpackMantissa b).toNat.log2 = 52 := by
        rw [hmantissa, Nat.log2_eq_iff (by omega)]
        omega
      have hbias : (Format.binary64.exponentBias : Int) +
          (Format.binary64.mantissaBitsWithoutImplicit : Int) = 1075 := rfl
      rw [pack_normal _ hlog (by rw [hbias]; omega) (by rw [hbias]; omega)]
      have hexponent : BitVec.ofNat 11
          (((unpackExponent b).toNat : Int) - (Format.binary64.exponentBias +
            Format.binary64.mantissaBitsWithoutImplicit) + 1075).toNat = unpackExponent b := by
        rw [hbias, Int.sub_add_cancel, Int.toNat_natCast, BitVec.ofNat_toNat]
        simp
      have hrest : BitVec.ofNat 52 (1#1 ++ unpackMantissa b).toNat = unpackMantissa b := by
        apply BitVec.eq_of_toNat_eq
        rw [BitVec.toNat_ofNat, hmantissa]
        omega
      rw [hexponent, hrest]
      exact hparts

/-- The bits of a finite number. -/
theorem ofBits_toBits {v : Float} (h : v.isFinite = true) : Float.ofBits v.toBits = v := by
  obtain ⟨⟨bits, hvalid⟩⟩ := v
  let word : BitVec Format.binary64.numBits := bits.toBitVec
  have hexponent : unpackExponent word ≠ -1#11 := by
    intro heq
    change UnpackedFloat.isFinite (UnpackedFloat.unpack Format.binary64 word) = true at h
    simp only [UnpackedFloat.unpack] at h
    rw [if_pos heq] at h
    split at h <;> cases h
  show Float.ofModel (Float.Model.mk _ _) = _
  congr 2
  exact UInt64.toBitVec_inj.mp (pack_unpack hexponent)

end SpatialPlatform.Lib.Binary64
