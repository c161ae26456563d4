import SpatialPlatform.Importers.Trajectory.TumFormat
import SpatialPlatform.Lib.Numerals
import Mathlib.Data.List.TakeDrop
import Mathlib.Data.List.TakeWhile
import Mathlib.Data.Rat.Cast.Defs
import Mathlib.Tactic.FieldSimp
import Mathlib.Tactic.Linarith
import Mathlib.Tactic.NormNum

/-!
# Timestamps of a TUM trajectory

Which texts `ParseTimestampNs` accepts and for which time: a decimal number of
seconds, with an exponent, that is a whole number of nanoseconds.
-/

namespace SpatialPlatform.Importers

open SpatialPlatform.Core SpatialPlatform.Lib

/-! ## Texts of times -/

def Digits (run : List Char) : Prop := ∀ c ∈ run, isDigit c = true

/-- The number that digits write. -/
def decimal (run : List Char) : Nat := numeral 10 (run.map digitValue)

/-- `digits [. digits]`: its digits, and how many of them stand behind the point. -/
inductive Mantissa : List Char → List Char → Nat → Prop
  | whole {run : List Char} : Digits run → run ≠ [] → Mantissa run run 0
  | point {whole fraction : List Char} : Digits whole → whole ≠ [] → Digits fraction →
      fraction ≠ [] → Mantissa (whole ++ '.' :: fraction) (whole ++ fraction) fraction.length

/-- As `Mantissa`, but one side of the point may be without digits. -/
inductive OpenMantissa : List Char → List Char → Nat → Prop
  | whole {run : List Char} : Digits run → run ≠ [] → OpenMantissa run run 0
  | point {whole fraction : List Char} : Digits whole → Digits fraction → whole ++ fraction ≠ [] →
      OpenMantissa (whole ++ '.' :: fraction) (whole ++ fraction) fraction.length

/-- `[(e|E) [+|-] digits]`, and its value. -/
inductive Exponent : List Char → Int → Prop
  | none : Exponent [] 0
  | positive {e : Char} {sign run : List Char} : e = 'e' ∨ e = 'E' → sign = [] ∨ sign = ['+'] →
      Digits run → run ≠ [] → Exponent (e :: (sign ++ run)) (decimal run)
  | negative {e : Char} {run : List Char} : e = 'e' ∨ e = 'E' → Digits run → run ≠ [] →
      Exponent (e :: '-' :: run) (-(decimal run : Int))

/-- The text is a decimal number of seconds, `[+] mantissa exponent`. -/
def Seconds (mantissa : List Char → List Char → Nat → Prop) (text : List Char) (seconds : ℚ) : Prop :=
  text.length ≤ 128 ∧ ∃ sign number digits places exponent shift,
    text = sign ++ (number ++ exponent) ∧ (sign = [] ∨ sign = ['+']) ∧
      mantissa number digits places ∧ Exponent exponent shift ∧ |shift| ≤ 1000 ∧
        seconds = decimal digits * (10 : ℚ) ^ (shift - places)

/-- The text is a number of seconds that is a whole number of nanoseconds, and 63 bits hold it. -/
def Nanoseconds (mantissa : List Char → List Char → Nat → Prop) (text : List Char) (ns : Int64) :
    Prop :=
  ∃ seconds, Seconds mantissa text seconds ∧
    ∃ n : Nat, n < 2 ^ 63 ∧ seconds * 10 ^ 9 = n ∧ ns = Int64.ofNat n

/-! ## Digits

A run of digits stands for a number; leading zeros do not count, trailing ones
multiply by ten. -/

theorem Digits.append {run run' : List Char} (h : Digits run) (h' : Digits run') :
    Digits (run ++ run') :=
  List.forall_mem_append.mpr ⟨h, h'⟩

theorem digitValue_lt {c : Char} (h : isDigit c = true) : digitValue c < 10 := by
  rw [isDigit, Bool.and_eq_true, decide_eq_true_eq, decide_eq_true_eq] at h
  have hle : c.toNat ≤ '9'.toNat := h.2
  rw [digitValue]
  exact Nat.sub_lt_left_of_lt_add h.1 (Nat.lt_succ_of_le hle)

theorem digitValue_eq_zero {c : Char} (h : isDigit c = true) (hzero : digitValue c = 0) :
    c = '0' := by
  rw [isDigit, Bool.and_eq_true, decide_eq_true_eq] at h
  have hle : '0'.toNat ≤ c.toNat := h.1
  rw [digitValue] at hzero
  exact Char.toNat_inj.mp (by omega)

theorem Digits.values_lt {run : List Char} (h : Digits run) : ∀ d ∈ run.map digitValue, d < 10 := by
  intro d hd
  obtain ⟨c, hc, rfl⟩ := List.mem_map.mp hd
  exact digitValue_lt (h c hc)

theorem Digits.decimal_lt {run : List Char} (h : Digits run) : decimal run < 10 ^ run.length := by
  have hlt := numeral_lt (by decide) h.values_lt
  rwa [List.length_map] at hlt

theorem decimal_append (run run' : List Char) :
    decimal (run ++ run') = 10 ^ run'.length * decimal run + decimal run' := by
  rw [decimal, List.map_append, numeral_append, List.length_map]
  rfl

theorem decimal_cons (c : Char) (run : List Char) :
    decimal (c :: run) = 10 ^ run.length * digitValue c + decimal run := by
  rw [← List.singleton_append, decimal_append]
  congr 2
  exact Nat.zero_add _

theorem decimal_zeros {run : List Char} (h : ∀ c ∈ run, c = '0') : decimal run = 0 := by
  induction run with
  | nil => rfl
  | cons c run ih =>
      obtain ⟨rfl, hrun⟩ := List.forall_mem_cons.mp h
      rw [decimal_cons, ih hrun]
      rfl

theorem Digits.decimal_eq_zero_iff {run : List Char} (h : Digits run) :
    decimal run = 0 ↔ ∀ c ∈ run, c = '0' := by
  refine ⟨fun hzero => ?_, decimal_zeros⟩
  induction run with
  | nil => exact fun _ hc => absurd hc List.not_mem_nil
  | cons c run ih =>
      obtain ⟨hc, hrun⟩ := List.forall_mem_cons.mp h
      rw [decimal_cons, Nat.add_eq_zero_iff, Nat.mul_eq_zero] at hzero
      obtain ⟨hpow | hvalue, hrest⟩ := hzero
      · exact absurd hpow (Nat.ne_of_gt (Nat.pow_pos (by decide)))
      · exact List.forall_mem_cons.mpr ⟨digitValue_eq_zero hc hvalue, ih hrun hrest⟩

/-- Leading zeros do not count. -/
theorem decimal_dropWhile (run : List Char) : decimal (run.dropWhile (· = '0')) = decimal run := by
  induction run with
  | nil => rfl
  | cons c run ih =>
      rw [List.dropWhile_cons]
      split
      next hzero =>
        cases of_decide_eq_true hzero
        rw [ih, decimal_cons]
        exact (Nat.zero_add _).symm
      next => rfl

theorem Digits.le_decimal {c : Char} {run : List Char} (h : Digits (c :: run)) (hc : c ≠ '0') :
    10 ^ run.length ≤ decimal (c :: run) := by
  have hpos : digitValue c ≠ 0 := fun hzero => hc (digitValue_eq_zero (h c List.mem_cons_self) hzero)
  rw [decimal_cons]
  exact Nat.le_add_right_of_le (Nat.le_mul_of_pos_right _ (Nat.pos_of_ne_zero hpos))

theorem decimal_replicate (run : List Char) (count : Nat) :
    decimal (run ++ List.replicate count '0') = decimal run * 10 ^ count := by
  rw [decimal_append, decimal_zeros fun c hc => (List.mem_replicate.mp hc).2, List.length_replicate,
    Nat.add_zero, Nat.mul_comm]

/-! ## Scaling

Digits and exponent of ten make a whole number of nanoseconds or none. To cut
digits off is allowed where they are zeros, and to append zeros as long as 63
bits hold the number. -/

section Scaling

variable {c : Char} {run : List Char} {n : Nat}

/-- A number is cut behind its last digit but `count` where it is a multiple of that power of ten. -/
theorem nanosecondDigits_removed (h : Digits (c :: run)) (hc : c ≠ '0') {count : Nat}
    (hcount : 0 < count) :
    (∃ out, nanosecondDigits (c :: run) (-(count : Int)) = some out ∧ decimal out = n) ↔
      decimal (c :: run) = n * 10 ^ count := by
  have hlow := h.le_decimal hc
  have hhigh := h.decimal_lt
  have hremove : (- -(count : Int)).toNat = count := by omega
  have hneg : -(count : Int) < 0 := by omega
  rw [nanosecondDigits, if_pos hneg]
  simp only [hremove]
  split
  next hshort =>
    have hlt : decimal (c :: run) < 10 ^ count :=
      Nat.lt_of_lt_of_le hhigh (Nat.pow_le_pow_right (by decide) hshort)
    refine ⟨fun ⟨out, hout, _⟩ => (nomatch hout), fun heq => ?_⟩
    obtain rfl | hn := Nat.eq_zero_or_pos n
    · rw [Nat.zero_mul] at heq
      exact absurd heq (Nat.ne_of_gt (Nat.lt_of_lt_of_le (Nat.pow_pos (by decide)) hlow))
    · exact absurd (Nat.le_mul_of_pos_left (10 ^ count) hn) (by omega)
  next hlong =>
    generalize hdigits : c :: run = digits at h hlong
    obtain ⟨front, back, hsplit, hback⟩ : ∃ front back, digits = front ++ back ∧ back.length = count :=
      ⟨_, _, (List.take_append_drop (digits.length - count) digits).symm, by
        rw [List.length_drop]
        omega⟩
    subst hsplit
    have hlength : (front ++ back).length - count = front.length := by
      rw [List.length_append, hback, Nat.add_sub_cancel]
    rw [hlength, List.take_left, List.drop_left, decimal_append, hback]
    have hbackDigits : Digits back := fun c hc => h c (List.mem_append_right _ hc)
    have hlt := hbackDigits.decimal_lt
    rw [hback] at hlt
    split
    next hany =>
      refine ⟨fun ⟨out, hout, _⟩ => (nomatch hout), fun heq => ?_⟩
      have hzero : decimal back = 0 := by
        have hmod := congrArg (· % 10 ^ count) heq
        rwa [Nat.mul_add_mod, Nat.mul_mod_left, Nat.mod_eq_of_lt hlt] at hmod
      obtain ⟨c, hc, hne⟩ := List.any_eq_true.mp hany
      exact absurd (hbackDigits.decimal_eq_zero_iff.mp hzero c hc) (of_decide_eq_true hne)
    next hall =>
      have hzero : decimal back = 0 := by
        refine decimal_zeros fun c hc => ?_
        by_contra hne
        exact hall (List.any_eq_true.mpr ⟨c, hc, decide_eq_true hne⟩)
      rw [hzero, Nat.add_zero, Nat.mul_comm, Nat.mul_left_inj (Nat.ne_of_gt (Nat.pow_pos (by decide)))]
      exact ⟨fun ⟨out, hout, hn⟩ => by cases hout; exact hn, fun hn => ⟨front, rfl, hn⟩⟩

/-- Zeros are put behind a number while 19 digits hold it, which is more than 63 bits do. -/
theorem nanosecondDigits_appended (h : Digits (c :: run)) (hc : c ≠ '0') (count : Nat)
    (hn : n < 2 ^ 63) :
    (∃ out, nanosecondDigits (c :: run) (count : Int) = some out ∧ decimal out = n) ↔
      decimal (c :: run) * 10 ^ count = n := by
  have hlow := h.le_decimal hc
  have hnonneg : ¬ (count : Int) < 0 := by omega
  rw [nanosecondDigits, if_neg hnonneg, Int.toNat_natCast]
  split
  next hlong =>
    refine ⟨fun ⟨out, hout, _⟩ => (nomatch hout), fun heq => ?_⟩
    have hdigits : 19 ≤ run.length + count := by
      rw [List.length_cons] at hlong
      omega
    have hle : 10 ^ 19 ≤ n := by
      calc 10 ^ 19 ≤ 10 ^ (run.length + count) := Nat.pow_le_pow_right (by decide) hdigits
        _ = 10 ^ run.length * 10 ^ count := Nat.pow_add _ _ _
        _ ≤ decimal (c :: run) * 10 ^ count := Nat.mul_le_mul_right _ hlow
        _ = n := heq
    omega
  next =>
    rw [← decimal_replicate]
    exact ⟨fun ⟨out, hout, hn⟩ => by cases hout; exact hn, fun hn => ⟨_, rfl, hn⟩⟩

theorem nanosecondDigits_iff (h : Digits (c :: run)) (hc : c ≠ '0') (power : Int)
    (hn : n < 2 ^ 63) :
    (∃ out, nanosecondDigits (c :: run) power = some out ∧ decimal out = n) ↔
      (decimal (c :: run) : ℚ) * (10 : ℚ) ^ power = n := by
  rcases Int.lt_or_le power 0 with hneg | hnonneg
  · obtain ⟨count, rfl⟩ := Int.exists_eq_neg_ofNat (Int.le_of_lt hneg)
    have hpow : ((10 : ℚ) ^ count) ≠ 0 := by positivity
    rw [nanosecondDigits_removed h hc (by omega), zpow_neg, zpow_natCast, ← div_eq_mul_inv,
      div_eq_iff hpow]
    exact_mod_cast Iff.rfl
  · obtain ⟨count, rfl⟩ := Int.eq_ofNat_of_zero_le hnonneg
    rw [nanosecondDigits_appended h hc count hn, zpow_natCast]
    exact_mod_cast Iff.rfl

/-- What `ParseTimestampNs` does once it has the digits and the power of ten. -/
def scaled (digits : List Char) (power : Int) : Option Int64 :=
  let digits := digits.dropWhile (· = '0')
  if digits.isEmpty then some 0
  else do
    let digits ← nanosecondDigits digits power
    let value := digits.foldl (fun value c => value * 10 + digitValue c) 0
    if 2 ^ 63 ≤ value then none else return Int64.ofNat value

theorem foldl_digitValue (digits : List Char) :
    digits.foldl (fun value c => value * 10 + digitValue c) 0 = decimal digits := by
  rw [decimal, numeral, List.foldl_map]
  simp only [Nat.mul_comm 10]

/-- Dropping stops in front of a character to keep. -/
theorem head_dropWhile (p : Char → Bool) (text : List Char) :
    ∀ c ∈ (text.dropWhile p).head?, p c = false := by
  intro c hc
  have hnot := List.head?_dropWhile_not p text
  rwa [Option.mem_def.mp hc] at hnot

theorem scaled_iff {digits : List Char} (h : Digits digits) (power : Int) (ns : Int64) :
    scaled digits power = some ns ↔
      ∃ n : Nat, n < 2 ^ 63 ∧ (decimal digits : ℚ) * (10 : ℚ) ^ power = n ∧ ns = Int64.ofNat n := by
  rw [← decimal_dropWhile digits, scaled]
  have hdrop : Digits (digits.dropWhile (· = '0')) := fun c hc =>
    h c ((List.dropWhile_suffix _).subset hc)
  have hhead : ∀ c ∈ (digits.dropWhile (· = '0')).head?, c ≠ '0' := fun c hc =>
    of_decide_eq_false (head_dropWhile _ digits c hc)
  -- leading zeros are gone, so the digits are those of the number
  generalize digits.dropWhile (· = '0') = digits at hdrop hhead
  cases digits with
  -- nothing but zeros
  | nil =>
      constructor
      · intro hns
        cases hns
        exact ⟨0, by decide, by rw [decimal, List.map_nil, numeral_nil, Nat.cast_zero, zero_mul], rfl⟩
      · rintro ⟨n, _, hzero, rfl⟩
        rw [decimal, List.map_nil, numeral_nil, Nat.cast_zero, zero_mul] at hzero
        have hn : n = 0 := by exact_mod_cast hzero.symm
        rw [hn]
        rfl
  | cons c run =>
      have hc := hhead c rfl
      rw [if_neg (by simp)]
      simp only [foldl_digitValue]
      constructor
      · intro hns
        obtain ⟨out, hout, hns⟩ := Option.bind_eq_some_iff.mp hns
        split at hns
        · cases hns
        next hlt =>
          cases hns
          exact ⟨decimal out, by omega,
            (nanosecondDigits_iff hdrop hc power (by omega)).mp ⟨out, hout, rfl⟩, rfl⟩
      · rintro ⟨n, hn, heq, rfl⟩
        obtain ⟨out, hout, rfl⟩ := (nanosecondDigits_iff hdrop hc power hn).mpr heq
        refine Option.bind_eq_some_iff.mpr ⟨out, hout, ?_⟩
        rw [if_neg (by omega)]
        rfl

end Scaling

/-! ## Scanning

The scanner is run on a text that falls into sign, digits, point, digits and
exponent. -/

/-- A run of digits is read up to the first character that is none. -/
theorem span_digits {run rest : List Char} (hrun : Digits run)
    (hrest : ∀ c ∈ rest.head?, isDigit c = false) : (run ++ rest).span isDigit = (run, rest) := by
  rw [List.span_eq_takeWhile_dropWhile, List.takeWhile_append_of_pos hrun,
    List.dropWhile_append_of_pos hrun]
  cases rest with
  | nil => simp
  | cons c rest =>
      have hc := hrest c rfl
      simp [hc]

theorem exists_digits (text : List Char) : ∃ run rest, text = run ++ rest ∧ Digits run ∧
    ∀ c ∈ rest.head?, isDigit c = false := by
  refine ⟨text.takeWhile isDigit, text.dropWhile isDigit, List.takeWhile_append_dropWhile.symm,
    fun c hc => List.mem_takeWhile_imp hc, head_dropWhile isDigit text⟩

theorem exponentDigits_eq (exponent : Nat) (run : List Char) :
    exponentDigits exponent run =
      if 10 ^ run.length * exponent + decimal run ≤ 1000 then
        some (10 ^ run.length * exponent + decimal run)
      else none := by
  induction run generalizing exponent with
  | nil =>
      rw [exponentDigits, List.length_nil, Nat.pow_zero, Nat.one_mul]
      simp only [show decimal [] = 0 from rfl, Nat.add_zero]
      split <;> split <;> first | rfl | omega
  | cons c run ih =>
      have hvalue : 10 ^ run.length * (exponent * 10 + digitValue c) + decimal run =
          10 ^ (c :: run).length * exponent + decimal (c :: run) := by
        rw [decimal_cons, List.length_cons, Nat.pow_succ]
        ring
      rw [exponentDigits, ih, hvalue]
      split
      next hlarge =>
        have hle : exponent ≤ 10 ^ (c :: run).length * exponent :=
          Nat.le_mul_of_pos_left _ (Nat.pow_pos (by decide))
        rw [if_neg (by omega)]
      next => rfl

/-- The sign that a text begins with, if the scanner takes it for one. -/
theorem exists_sign (text : List Char) : ∃ sign rest, text = sign ++ rest ∧
    (sign = ['+'] ∨ sign = ['-'] ∨ sign = [] ∧ rest.head? ≠ some '+' ∧ rest.head? ≠ some '-') := by
  by_cases hplus : text.head? = some '+'
  · obtain ⟨rest, rfl⟩ := List.head?_eq_some_iff.mp hplus
    exact ⟨['+'], rest, rfl, .inl rfl⟩
  · by_cases hminus : text.head? = some '-'
    · obtain ⟨rest, rfl⟩ := List.head?_eq_some_iff.mp hminus
      exact ⟨['-'], rest, rfl, .inr (.inl rfl)⟩
    · exact ⟨[], text, rfl, .inr (.inr ⟨rfl, hplus, hminus⟩)⟩

theorem parseExponent_of_parts {e : Char} {sign run rest : List Char} (he : e = 'e' ∨ e = 'E')
    (hsign : sign = ['+'] ∨ sign = ['-'] ∨
      sign = [] ∧ (run ++ rest).head? ≠ some '+' ∧ (run ++ rest).head? ≠ some '-')
    (hrun : Digits run) (hrest : ∀ c ∈ rest.head?, isDigit c = false) :
    parseExponent (e :: (sign ++ (run ++ rest))) =
      if run = [] ∨ 1000 < decimal run then none
      else some (if sign = ['-'] then -(decimal run : Int) else decimal run, rest) := by
  have hspan := span_digits hrun hrest
  obtain ⟨hminus, htail⟩ : ((sign ++ (run ++ rest)).head? = some '-' ↔ sign = ['-']) ∧
      (if (sign ++ (run ++ rest)).head? = some '+' ∨ (sign ++ (run ++ rest)).head? = some '-' then
        (sign ++ (run ++ rest)).tail else sign ++ (run ++ rest)) = run ++ rest := by
    rcases hsign with rfl | rfl | ⟨rfl, hplus, hminus⟩
    · simp
    · simp
    · simp only [List.nil_append, if_neg (not_or.mpr ⟨hplus, hminus⟩), and_true]
      exact ⟨fun h => absurd h hminus, fun h => (nomatch h)⟩
  rw [parseExponent, if_pos he]
  simp only [htail, hspan, exponentDigits_eq, Nat.mul_zero, Nat.zero_add]
  simp only [hminus]
  cases run with
  | nil => rfl
  | cons c run =>
      by_cases hfit : decimal (c :: run) ≤ 1000
      · simp [hfit, Nat.not_lt.mpr hfit]
      · simp [hfit, Nat.lt_of_not_le hfit]

theorem parseExponent_iff (text : List Char) (shift : Int) :
    parseExponent text = some (shift, []) ↔ Exponent text shift ∧ |shift| ≤ 1000 := by
  constructor
  · intro hparse
    cases text with
    | nil =>
        cases hparse
        exact ⟨.none, by decide⟩
    | cons e text =>
        by_cases he : e = 'e' ∨ e = 'E'
        -- behind the letter: a sign or none, digits, and what is left
        · obtain ⟨sign, body, rfl, hsign⟩ := exists_sign text
          obtain ⟨run, rest, rfl, hrun, hrest⟩ := exists_digits body
          rw [parseExponent_of_parts he hsign hrun hrest] at hparse
          split at hparse
          · cases hparse
          next hfit =>
            obtain ⟨hne, hle⟩ := not_or.mp hfit
            cases hparse
            rw [List.append_nil]
            rcases hsign with rfl | rfl | ⟨rfl, -, -⟩
            · rw [if_neg (by decide), abs_of_nonneg (by omega)]
              exact ⟨.positive he (.inr rfl) hrun hne, by omega⟩
            · rw [if_pos rfl, abs_neg, abs_of_nonneg (by omega)]
              exact ⟨.negative he hrun hne, by omega⟩
            · rw [if_neg (by decide), abs_of_nonneg (by omega)]
              exact ⟨.positive he (.inl rfl) hrun hne, by omega⟩
        · rw [parseExponent, if_neg he] at hparse
          cases hparse
  · rintro ⟨hexponent, hle⟩
    -- nothing follows the digits, so they are read to the end
    have hnone : ∀ c ∈ ([] : List Char).head?, isDigit c = false := fun c hc => (nomatch hc)
    cases hexponent with
    | none => rfl
    | @positive e sign run he hsign hrun hne =>
        rw [abs_of_nonneg (by omega)] at hle
        have hhead : (run ++ []).head? ≠ some '+' ∧ (run ++ []).head? ≠ some '-' := by
          rw [List.append_nil]
          exact ⟨fun h => absurd (hrun _ (List.mem_of_head? h)) (by decide),
            fun h => absurd (hrun _ (List.mem_of_head? h)) (by decide)⟩
        have hparse := parseExponent_of_parts he
          (hsign.elim (fun h => .inr (.inr ⟨h, hhead⟩)) .inl) hrun hnone
        have hminus : sign ≠ ['-'] := by rcases hsign with rfl | rfl <;> decide
        rw [if_neg (by rw [not_or]; exact ⟨hne, by omega⟩), if_neg hminus, List.append_nil] at hparse
        exact hparse
    | @negative e run he hrun hne =>
        rw [abs_neg, abs_of_nonneg (by omega)] at hle
        have hparse := parseExponent_of_parts he (.inr (.inl rfl)) hrun hnone
        rw [if_neg (by rw [not_or]; exact ⟨hne, by omega⟩), if_pos rfl, List.append_nil] at hparse
        exact hparse

/-- `ParseTimestampNs` on a text that falls into these parts. -/
theorem timestampNs_of_parts {text sign body whole point fraction rest : List Char}
    (htext : text = sign ++ body) (hbody : body = whole ++ (point ++ (fraction ++ rest)))
    (hlen : text.length ≤ 128) (hsign : sign = ['+'] ∨ sign = [] ∧ body.head? ≠ some '+')
    (hwhole : Digits whole) (hfraction : Digits fraction)
    (hpoint : point = ['.'] ∨ point = [] ∧ fraction = [] ∧ rest.head? ≠ some '.')
    (hrest : ∀ c ∈ rest.head?, isDigit c = false) :
    timestampNs text =
      if whole ++ fraction = [] then none
      else (parseExponent rest).bind fun parsed =>
        if parsed.2 = [] then scaled (whole ++ fraction) (9 + parsed.1 - fraction.length)
        else none := by
  have hbodyOf : (if text.head? = some '+' then text.tail else text) = body := by
    rcases hsign with rfl | ⟨rfl, hplus⟩
    · rw [htext]
      rfl
    · rw [htext, List.nil_append, if_neg hplus]
  have hspanWhole : body.span isDigit = (whole, point ++ (fraction ++ rest)) := by
    rw [hbody]
    refine span_digits hwhole ?_
    rcases hpoint with rfl | ⟨rfl, rfl, -⟩
    · intro c hc
      cases hc
      rfl
    · exact hrest
  have hspanFraction : (if (point ++ (fraction ++ rest)).head? = some '.' then
      (point ++ (fraction ++ rest)).tail.span isDigit else ([], point ++ (fraction ++ rest))) =
      (fraction, rest) := by
    rcases hpoint with rfl | ⟨rfl, rfl, hhead⟩
    · exact span_digits hfraction hrest
    · rw [List.nil_append, List.nil_append, if_neg hhead]
  rw [timestampNs]
  simp only [hbodyOf, hspanWhole, hspanFraction]
  -- the code asks for a digit last, the text is split by its parts first
  by_cases hnone : whole ++ fraction = []
  · rw [hnone, if_pos rfl, List.isEmpty_nil, if_pos rfl, ite_self, ite_self]
  · obtain ⟨hne, hminus⟩ : body ≠ [] ∧ body.head? ≠ some '-' := by
      rw [hbody]
      cases whole with
      | cons c whole =>
          refine ⟨List.cons_ne_nil _ _, fun h => ?_⟩
          cases h
          exact absurd (hwhole '-' List.mem_cons_self) (by decide)
      | nil =>
          rcases hpoint with rfl | ⟨-, rfl, -⟩
          · exact ⟨List.cons_ne_nil _ _, by simp⟩
          · exact absurd rfl hnone
    have htextNe : text ≠ [] := by
      rw [htext]
      exact List.append_ne_nil_of_right_ne_nil _ hne
    have hfirst : ¬ (text.isEmpty || decide (128 < text.length)) = true := by
      rw [Bool.or_eq_true, List.isEmpty_iff, decide_eq_true_eq]
      exact not_or.mpr ⟨htextNe, by omega⟩
    have hsecond : ¬ (body.isEmpty || decide (body.head? = some '-')) = true := by
      rw [Bool.or_eq_true, List.isEmpty_iff, decide_eq_true_eq]
      exact not_or.mpr ⟨hne, hminus⟩
    have hthird : ¬ (whole ++ fraction).isEmpty = true := by rwa [List.isEmpty_iff]
    rw [if_neg hfirst, if_neg hsecond, if_neg hthird, if_neg hnone]
    congr 1
    funext parsed
    obtain ⟨shift, rest⟩ := parsed
    cases rest with
    | nil => rfl
    | cons c rest => rfl

/-! ## The timestamps that are accepted

Every accepted text falls into these parts, and such a text is accepted if its
number is one. -/

theorem openMantissa_iff {number digits : List Char} {places : Nat} :
    OpenMantissa number digits places ↔ ∃ whole point fraction, number = whole ++ (point ++ fraction) ∧
      digits = whole ++ fraction ∧ places = fraction.length ∧ Digits whole ∧ Digits fraction ∧
        (point = ['.'] ∨ point = [] ∧ fraction = []) ∧ digits ≠ [] := by
  constructor
  · rintro (⟨hrun, hne⟩ | @⟨whole, fraction, hwhole, hfraction, hne⟩)
    · exact ⟨number, [], [], by simp, by simp, rfl, hrun, fun c hc => (nomatch hc),
        .inr ⟨rfl, rfl⟩, hne⟩
    · exact ⟨whole, ['.'], fraction, rfl, rfl, rfl, hwhole, hfraction, .inl rfl, hne⟩
  · rintro ⟨whole, point, fraction, rfl, rfl, rfl, hwhole, hfraction, rfl | ⟨rfl, rfl⟩, hne⟩
    · exact .point hwhole hfraction hne
    · rw [List.append_nil] at hne
      rw [List.append_nil, List.append_nil]
      exact .whole hwhole hne

/-- The first character behind a mantissa is no digit and no point. -/
theorem Exponent.head {text : List Char} {shift : Int} (h : Exponent text shift) :
    ∀ c ∈ text.head?, isDigit c = false ∧ c ≠ '.' := by
  intro c hc
  cases h with
  | none => cases hc
  | positive he _ _ _ =>
      cases hc
      rcases he with rfl | rfl <;> decide
  | negative he _ _ =>
      cases hc
      rcases he with rfl | rfl <;> decide

theorem exists_parts (text : List Char) : ∃ sign whole point fraction rest,
    text = sign ++ (whole ++ (point ++ (fraction ++ rest))) ∧
      (sign = ['+'] ∨ sign = [] ∧ (whole ++ (point ++ (fraction ++ rest))).head? ≠ some '+') ∧
      Digits whole ∧ Digits fraction ∧
      (point = ['.'] ∨ point = [] ∧ fraction = [] ∧ rest.head? ≠ some '.') ∧
      ∀ c ∈ rest.head?, isDigit c = false := by
  obtain ⟨sign, body, rfl, hsign⟩ : ∃ sign body, text = sign ++ body ∧
      (sign = ['+'] ∨ sign = [] ∧ body.head? ≠ some '+') := by
    by_cases hplus : text.head? = some '+'
    · obtain ⟨body, rfl⟩ := List.head?_eq_some_iff.mp hplus
      exact ⟨['+'], body, rfl, .inl rfl⟩
    · exact ⟨[], text, rfl, .inr ⟨rfl, hplus⟩⟩
  obtain ⟨whole, tail, rfl, hwhole, htail⟩ := exists_digits body
  by_cases hpoint : tail.head? = some '.'
  · obtain ⟨tail, rfl⟩ := List.head?_eq_some_iff.mp hpoint
    obtain ⟨fraction, rest, rfl, hfraction, hrest⟩ := exists_digits tail
    exact ⟨sign, whole, ['.'], fraction, rest, rfl, hsign, hwhole, hfraction, .inl rfl, hrest⟩
  · exact ⟨sign, whole, [], [], tail, rfl, hsign, hwhole, fun c hc => (nomatch hc),
      .inr ⟨rfl, rfl, hpoint⟩, htail⟩

/-- Seconds are nanoseconds with nine places more. -/
theorem seconds_mul (digits : ℚ) (shift places : Int) :
    digits * (10 : ℚ) ^ (shift - places) * 10 ^ 9 = digits * (10 : ℚ) ^ (9 + shift - places) := by
  have hpow : (10 : ℚ) ^ (9 : Nat) = (10 : ℚ) ^ (9 : Int) := rfl
  rw [hpow, mul_assoc, ← zpow_add₀ (by norm_num)]
  congr 2
  ring

theorem timestampNs_iff (text : List Char) (ns : Int64) :
    timestampNs text = some ns ↔ Nanoseconds OpenMantissa text ns := by
  constructor
  · intro hparse
    have hlen : text.length ≤ 128 := by
      by_contra hlong
      rw [timestampNs, if_pos (by simp; omega)] at hparse
      cases hparse
    -- any text has the parts, and the parser reads them one by one
    obtain ⟨sign, whole, point, fraction, rest, htext, hsign, hwhole, hfraction, hpoint, hrest⟩ :=
      exists_parts text
    rw [timestampNs_of_parts htext rfl hlen hsign hwhole hfraction hpoint hrest] at hparse
    split at hparse
    · cases hparse
    next hne =>
      obtain ⟨⟨shift, rest'⟩, hshift, hparse⟩ := Option.bind_eq_some_iff.mp hparse
      split at hparse
      next hend =>
        cases hend
        obtain ⟨hexponent, hfit⟩ := (parseExponent_iff rest shift).mp hshift
        obtain ⟨n, hn, hvalue, rfl⟩ := (scaled_iff (hwhole.append hfraction) _ ns).mp hparse
        refine ⟨_, ⟨hlen, sign, whole ++ (point ++ fraction), whole ++ fraction, fraction.length, rest,
          shift, by rw [htext]; simp only [List.append_assoc], ?_, ?_, hexponent, hfit, rfl⟩, n, hn,
          (seconds_mul _ _ _).trans hvalue, rfl⟩
        · exact hsign.symm.imp_left (·.1)
        · exact openMantissa_iff.mpr ⟨whole, point, fraction, rfl, rfl, rfl, hwhole, hfraction,
            hpoint.imp_right fun h => ⟨h.1, h.2.1⟩, hne⟩
      next => cases hparse
  · rintro ⟨seconds, ⟨hlen, sign, number, digits, places, exponent, shift, htext, hsign, hnumber,
      hexponent, hshift, rfl⟩, n, hn, hvalue, rfl⟩
    obtain ⟨whole, point, fraction, rfl, rfl, rfl, hwhole, hfraction, hpoint, hne⟩ :=
      openMantissa_iff.mp hnumber
    have hplus : (whole ++ (point ++ (fraction ++ exponent))).head? ≠ some '+' := by
      cases whole with
      | cons c whole =>
          intro h
          cases h
          exact absurd (hwhole '+' List.mem_cons_self) (by decide)
      | nil =>
          rcases hpoint with rfl | ⟨-, rfl⟩
          · simp
          · exact absurd rfl hne
    have hhead := hexponent.head
    have hbody : whole ++ (point ++ fraction) ++ exponent =
        whole ++ (point ++ (fraction ++ exponent)) := by simp only [List.append_assoc]
    rw [← hbody] at hplus
    rw [timestampNs_of_parts htext hbody hlen (hsign.symm.imp_right fun h => ⟨h, hplus⟩) hwhole
      hfraction (hpoint.imp_right fun h => ⟨h.1, h.2, fun hdot => (hhead '.' hdot).2 rfl⟩)
      fun c hc => (hhead c hc).1]
    rw [if_neg hne, (parseExponent_iff exponent shift).mpr ⟨hexponent, hshift⟩, Option.bind_some,
      if_pos rfl]
    exact (scaled_iff (hwhole.append hfraction) _ _).mpr
      ⟨n, hn, (seconds_mul _ _ _).symm.trans hvalue, rfl⟩

/-- A timestamp is accepted exactly when it is a decimal number of seconds, with
digits on one side of the point at least, that is a whole number of nanoseconds;
it is then read as that number. -/
theorem parseTimestampNs_iff (text : List Char) (line : Nat) (ns : Int64) :
    parseTimestampNs text line = .ok ns ↔ Nanoseconds OpenMantissa text ns := by
  rw [← timestampNs_iff, parseTimestampNs]
  cases timestampNs text with
  | none => exact ⟨fun h => (nomatch h), fun h => (nomatch h)⟩
  | some value => rw [Except.ok.injEq, Option.some.injEq]

theorem Mantissa.head {number digits : List Char} {places : Nat} (h : Mantissa number digits places) :
    ∃ c rest, number = c :: rest ∧ isDigit c = true := by
  cases h with
  | whole hrun hne =>
      obtain ⟨c, rest, rfl⟩ := List.exists_cons_of_ne_nil hne
      exact ⟨c, rest, rfl, hrun c List.mem_cons_self⟩
  | point hwhole hne _ _ =>
      obtain ⟨c, rest, rfl⟩ := List.exists_cons_of_ne_nil hne
      exact ⟨c, _, rfl, hwhole c List.mem_cons_self⟩

/-- `.5` is half a second, and has no digit before the point. -/
theorem open_mantissa_accepted : ¬ ∀ (text : List Char) (line : Nat) (ns : Int64),
    parseTimestampNs text line = .ok ns ↔ Nanoseconds Mantissa text ns := by
  intro h
  obtain ⟨seconds, ⟨-, sign, number, digits, places, exponent, shift, htext, hsign, hnumber, -⟩, -⟩ :=
    (h ['.', '5'] 1 500000000).mp (by decide)
  obtain ⟨c, rest, rfl, hc⟩ := hnumber.head
  rcases hsign with rfl | rfl
  · rw [← (List.cons.inj htext).1] at hc
    exact absurd hc (by decide)
  · exact absurd (List.cons.inj htext).1 (by decide)

end SpatialPlatform.Importers
