import Mathlib.Algebra.Order.Ring.Rat
import Mathlib.Tactic.FieldSimp
import Mathlib.Tactic.Linarith
import Mathlib.Tactic.Positivity
import SpatialPlatform.Lib.Binary64

/-!
# The values of binary64 numbers

The rational number that a finite `Float` stands for. Between integers and the
`Float`s with their values the two conversions are exact (`value?_ofInt`,
`toInt_of_value`), whatever they do with other numbers.
-/

namespace SpatialPlatform.Lib.Binary64

open Float.Model Float.Model.UnpackedFloat

variable {sign : Sign} {m : Nat} {e : Int}

/-- The number that a finite `Float` stands for. -/
def value? (x : Float) : Option ℚ :=
  match x.toModel.unpack with
  | .finite sign m e _ => some ((sign.apply m : ℤ) * 2 ^ e)
  | .zero _ => some 0
  | _ => none

/-- A number is normal, or smaller than all normal ones. -/
theorem unpack_shape {x : Float} {hm : 0 < m} (h : x.toModel.unpack = .finite sign m e hm) :
    m.log2 = 52 ∧ -1074 ≤ e ∧ e ≤ 971 ∨ m < 2 ^ 52 ∧ e = -1074 := by
  obtain ⟨⟨bits, hvalid⟩⟩ := x
  let word : BitVec Format.binary64.numBits := bits.toBitVec
  change UnpackedFloat.unpack Format.binary64 word = .finite sign m e hm at h
  have hexponent : (unpackExponent word).toNat < 2 ^ 11 := (unpackExponent word).isLt
  have hmantissa : (unpackMantissa word).toNat < 2 ^ 52 := (unpackMantissa word).isLt
  have hbias : (Format.binary64.exponentBias : Int) +
      (Format.binary64.mantissaBitsWithoutImplicit : Int) = 1075 := rfl
  simp only [UnpackedFloat.unpack, hbias] at h
  split at h
  · split at h <;> cases h
  next hmax =>
  split at h
  · next hzero =>
      split at h
      · cases h
      · injection h with _ h₁ h₂
        rw [hzero] at h₂
        exact .inr ⟨h₁ ▸ hmantissa, h₂.symm⟩
  · next hzero =>
      injection h with _ h₁ h₂
      have hlow : (unpackExponent word).toNat ≠ 0 := fun heq => hzero (BitVec.eq_of_toNat_eq heq)
      have hhigh : (unpackExponent word).toNat ≠ 2047 := fun heq => hmax (BitVec.eq_of_toNat_eq heq)
      have hvalue : (1#1 ++ unpackMantissa word).toNat = 2 ^ 52 + (unpackMantissa word).toNat :=
        toNat_implicitBit (unpackMantissa word)
      refine .inl ⟨?_, by omega, by omega⟩
      rw [← h₁, hvalue, Nat.log2_eq_iff (by omega)]
      omega

theorem value?_of_finite {x : Float} {hm : 0 < m} (h : x.toModel.unpack = .finite sign m e hm) :
    value? x = some (((sign.apply m : ℤ) : ℚ) * 2 ^ e) := by
  unfold value?
  rw [h]

/-- Every integer below 2^53 is converted as it is. -/
theorem unpack_ofNat_of_lt {n : Nat} (hn : 0 < n) (hlt : n < 2 ^ 53) :
    (Float.ofNat n).toModel.unpack =
      .finite .positive (n <<< (52 - n.log2)) (n.log2 - 52) (Nat.shiftLeft_pos_iff.mpr hn) := by
  have hbits : n.log2 < 53 := (Nat.log2_lt (by omega)).mpr hlt
  have hlog : (n <<< (52 - n.log2)).log2 = 52 := by
    rw [log2_shiftLeft _ (by omega)]
    omega
  have hword : n.toUInt64.toNat = n := by
    rw [Nat.toUInt64, UInt64.toNat_ofNat']
    exact Nat.mod_eq_of_lt (by omega)
  have hone : (Float.ofBits 0x3FF0000000000000).toModel.unpack =
      .finite .positive (1 <<< 52) (-52) (by decide) := by rfl
  have hproduct : Float.ofNat n = n.toUInt64.toFloat * Float.ofBits 0x3FF0000000000000 := by
    show Float.ofScientific n false 0 = _
    rw [Float.ofScientific, dif_pos ⟨hlt, by decide⟩]
    rfl
  rw [hproduct]
  show (Float.Model.pack (UnpackedFloat.mul Format.binary64 n.toUInt64.toFloat.toModel.unpack
    (Float.ofBits 0x3FF0000000000000).toModel.unpack)).unpack = _
  rw [unpack_toFloat hn hlt hword, hone]
  have hshift : (n <<< (52 - n.log2)) * (1 <<< 52) = (n <<< (52 - n.log2)) <<< 52 := by
    rw [Nat.one_shiftLeft, Nat.shiftLeft_eq (n <<< (52 - n.log2)) 52]
  have hexponent : (n.log2 : Int) - 52 + -52 + (52 : Nat) = n.log2 - 52 := by omega
  simp only [UnpackedFloat.mul, hshift]
  rw [show Sign.positive * Sign.positive = Sign.positive from rfl,
    roundWithAccuracy_shift (Nat.shiftLeft_pos_iff.mpr hn) hlog 52 (by omega), hexponent]
  exact unpack_pack_normal _ hlog (by omega) (by omega)

/-- Every larger integer that a `Float` has is converted as it is. -/
theorem unpack_ofNat_shift {j : Nat} (hm : 0 < m) (hlog : m.log2 = 52) (hj : j ≤ 971)
    (hle : 2 ^ 53 ≤ m <<< j) :
    (Float.ofNat (m <<< j)).toModel.unpack = .finite .positive m j hm := by
  have hscientific : Float.ofNat (m <<< j) =
      Float.ofModel (Float.Model.ofScientific (m <<< j) 0) := by
    show Float.ofScientific (m <<< j) false 0 = _
    rw [Float.ofScientific, dif_neg (by omega)]
    rfl
  have hpos : m <<< j ≠ 0 := by omega
  have hshift : (m <<< j) <<< Format.binary64.mantissaBits * 10 ^ Int.toNat 0 = m <<< (j + 53) := by
    rw [show (10 : Nat) ^ Int.toNat 0 = 1 from rfl, Nat.mul_one, Nat.shiftLeft_add]
    rfl
  have hexponent : -(Format.binary64.mantissaBits : Int) + 0 + ((j + 53 : Nat) : Int) = j := by
    rw [show (Format.binary64.mantissaBits : Int) = 53 from rfl]
    omega
  have hround : UnpackedFloat.ofScientific Format.binary64 (m <<< j) 0 = .finite .positive m j hm := by
    have hbound : (0 : Int) ≤ 2 ^ Format.binary64.exponentBits := by decide
    rw [UnpackedFloat.ofScientific, dif_neg hpos, if_neg (by decide), if_neg (by omega),
      if_pos (le_refl 0)]
    simp only [UnpackedFloat.mul, hshift]
    rw [show Sign.positive * Sign.positive = Sign.positive from rfl,
      roundWithAccuracy_shift hm hlog (j + 53) (by
        rw [hexponent]
        omega), hexponent]
  rw [hscientific]
  show (Float.Model.pack (UnpackedFloat.ofScientific Format.binary64 (m <<< j) 0)).unpack = _
  rw [hround]
  exact unpack_pack_normal hm hlog (by omega) (by omega)

theorem toModel_neg_unpack {x : Float} {hm : 0 < m} (hlog : m.log2 = 52) (he : -1074 ≤ e)
    (he' : e ≤ 971) (h : x.toModel.unpack = .finite sign m e hm) :
    (Float.neg x).toModel.unpack = .finite (-sign) m e hm := by
  show (Float.Model.pack x.toModel.unpack.neg).unpack = _
  rw [h]
  exact unpack_pack_normal hm hlog he he'

/-- A positive integer that is the value of a `Float` is converted to one with that value. -/
theorem unpack_ofNat {x : Float} {n : Nat} (hn : 0 < n) {q : ℚ} (hq : q = n ∨ q = -n)
    (h : value? x = some q) :
    ∃ m e, ∃ hm : 0 < m, (Float.ofNat n).toModel.unpack = .finite .positive m e hm ∧
      m.log2 = 52 ∧ -1074 ≤ e ∧ e ≤ 971 ∧ (m : ℚ) * 2 ^ e = n := by
  by_cases hlt : n < 2 ^ 53
  · -- every natural number of 53 bits is exact
    have hbits : n.log2 < 53 := (Nat.log2_lt (by omega)).mpr hlt
    refine ⟨_, _, _, unpack_ofNat_of_lt hn hlt, ?_, by omega, by omega, ?_⟩
    · rw [log2_shiftLeft _ (by omega)]
      omega
    · have hexponent : (n.log2 : Int) - 52 = -((52 - n.log2 : Nat) : Int) := by omega
      rw [hexponent, zpow_neg, zpow_natCast, Nat.shiftLeft_eq]
      push_cast
      field_simp
  · unfold value? at h
    split at h
    · next sign m e hm hx =>
        have habs : (m : ℚ) * 2 ^ e = n := by
          have hpow : (0 : ℚ) < 2 ^ e := zpow_pos (by norm_num) e
          have hvalue := congrArg (fun r : ℚ => |r|) (Option.some.inj h)
          rw [abs_mul, abs_of_pos hpow] at hvalue
          have hsign : |((sign.apply m : ℤ) : ℚ)| = m := by cases sign <;> simp [Sign.apply]
          have hnumber : |q| = n := by rcases hq with rfl | rfl <;> simp
          rw [hsign, hnumber] at hvalue
          exact hvalue
        -- a larger one is the value of `x`, so its last bits are zero
        have hlarge : (2 : ℚ) ^ 53 ≤ m * 2 ^ e := by
          rw [habs]
          exact_mod_cast Nat.le_of_not_lt hlt
        have hsmall : e ≤ 0 → (m : ℚ) * 2 ^ e ≤ m := by
          intro he
          have hpow : (2 : ℚ) ^ e ≤ 1 := zpow_le_one_of_nonpos₀ (by norm_num) he
          exact mul_le_of_le_one_right (Nat.cast_nonneg m) hpow
        have hbound : (m : ℚ) < 2 ^ 53 := by
          have hnat : m < 2 ^ 53 := by
            obtain ⟨hlog, -⟩ | ⟨hsub, -⟩ := unpack_shape hx
            · exact (Nat.log2_lt (by omega)).mp (by omega)
            · omega
          exact_mod_cast hnat
        have hpos : 0 < e := by
          by_contra hneg
          linarith [hsmall (by omega)]
        obtain ⟨hlog, hlow, hhigh⟩ | ⟨-, he⟩ := unpack_shape hx
        · obtain ⟨j, rfl⟩ := Int.eq_ofNat_of_zero_le hpos.le
          have hn' : n = m <<< j := by
            rw [Nat.shiftLeft_eq]
            exact_mod_cast habs.symm
          subst hn'
          exact ⟨m, j, hm, unpack_ofNat_shift hm hlog (by omega) (Nat.le_of_not_lt hlt), hlog, hlow,
            hhigh, habs⟩
        · omega
    · have hzero : q = 0 := (Option.some.inj h).symm
      have hpos : (0 : ℚ) < n := by exact_mod_cast hn
      rcases hq with rfl | rfl <;> linarith
    · cases h

/-- An integer that is the value of a `Float` is converted to one with that value. -/
theorem value?_ofInt {x : Float} {n : Int} (h : value? x = some (n : ℚ)) :
    value? (Float.ofInt n) = some (n : ℚ) := by
  rcases n with n | n
  · show value? (Float.ofNat n) = _
    rcases Nat.eq_zero_or_pos n with rfl | hn
    · rfl
    · obtain ⟨m, e, hm, hunpack, -, -, -, hvalue⟩ :=
        unpack_ofNat hn (.inl (by simp)) h
      rw [value?_of_finite hunpack]
      simpa [Sign.apply] using hvalue
  · show value? (Float.neg (Float.ofNat (n + 1))) = _
    obtain ⟨m, e, hm, hunpack, hlog, hlow, hhigh, hvalue⟩ :=
      unpack_ofNat (Nat.succ_pos n) (.inr (Int.cast_negSucc n)) h
    rw [value?_of_finite (toModel_neg_unpack hlog hlow hhigh hunpack), Int.cast_negSucc, ← hvalue,
      show -Sign.positive = Sign.negative from rfl]
    simp [Sign.apply]

theorem mantissa_shiftRight (em : ExtendedMantissa) (k : Nat) :
    (em >>> k).mantissa = em.mantissa / 2 ^ k := by
  induction k with
  | zero =>
      rw [Nat.pow_zero, Nat.div_one]
      rfl
  | succ k ih =>
      show (em >>> k).mantissa / 2 = _
      rw [ih, Nat.div_div_eq_div_mul, Nat.pow_succ]

theorem roundToInt_eq : roundToInt sign m e =
    sign.apply (m <<< e.toNat / 2 ^ (-e).toNat : Nat) := by
  have hleft : (e - 0).toNat = e.toNat := by rw [Int.sub_zero]
  have hright : (0 - (e - (e.toNat : Int))).toNat = (-e).toNat := by omega
  simp only [roundToInt, decreaseExponent, shiftToExponent, hleft, hright, mantissa_shiftRight,
    ExtendedMantissa.ofMantissaAndAccuracy]

/-- A `Float` with the value of an integer is converted to that integer. -/
theorem toInt_of_value {x : Float} {n : Int} (h : value? x = some (n : ℚ)) (low high : Int) :
    x.toModel.unpack.toInt low high = n := by
  unfold value? at h
  split at h
  · next sign m e hm hx =>
      have hvalue : ((sign.apply m : ℤ) : ℚ) * 2 ^ e = n := Option.some.inj h
      rw [hx, UnpackedFloat.toInt, roundToInt_eq]
      rcases Int.le_total 0 e with hpos | hneg
      · obtain ⟨k, rfl⟩ := Int.eq_ofNat_of_zero_le hpos
        have hexact : sign.apply m * 2 ^ k = n := by
          rw [zpow_natCast] at hvalue
          exact_mod_cast hvalue
        have hzero : (-(k : Int)).toNat = 0 := by omega
        rw [hzero, Int.toNat_natCast, Nat.pow_zero, Nat.div_one, Nat.shiftLeft_eq, ← hexact]
        cases sign <;> simp [Sign.apply]
      · -- the value is an integer, so nothing is cut by the shift
        obtain ⟨k, hk⟩ := Int.eq_ofNat_of_zero_le (Int.neg_nonneg_of_nonpos hneg)
        obtain rfl : e = -(k : Int) := by omega
        have hexact : sign.apply m = n * 2 ^ k := by
          rw [zpow_neg, zpow_natCast, mul_inv_eq_iff_eq_mul₀ (by positivity)] at hvalue
          exact_mod_cast hvalue
        have hzero : (-(k : Int)).toNat = 0 := by omega
        have hshift : (-(-(k : Int))).toNat = k := by omega
        rw [hzero, hshift, Nat.shiftLeft_zero]
        cases sign with
        | positive =>
            have hm' : (m : Int) = n * 2 ^ k := hexact
            show ((m / 2 ^ k : Nat) : Int) = n
            push_cast
            rw [hm', Int.mul_ediv_cancel _ (by positivity)]
        | negative =>
            have hm' : (m : Int) = -n * 2 ^ k := by
              have hneg' : -(m : Int) = n * 2 ^ k := hexact
              rw [Int.neg_mul, ← hneg', Int.neg_neg]
            show -((m / 2 ^ k : Nat) : Int) = n
            push_cast
            rw [hm', Int.mul_ediv_cancel _ (by positivity), Int.neg_neg]
  · next sign hx =>
      rw [hx, UnpackedFloat.toInt]
      exact_mod_cast Option.some.inj h
  · cases h

end SpatialPlatform.Lib.Binary64
