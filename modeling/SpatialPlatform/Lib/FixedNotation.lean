import Mathlib.Algebra.Group.Nat.Defs
import Mathlib.Data.List.TakeWhile
import SpatialPlatform.Lib.PrefixCode

/-!
# Numbers with six decimals

The text that `printf` makes of a `double` for `%f`: the exact value, rounded to
six decimals, ties to even. Such a text ends by itself, also when an integer has
been written right before it; how many of the digits belong to the integer can
no longer be seen.
-/

namespace SpatialPlatform.Lib

open Float.Model Float.Model.UnpackedFloat

/-! ## Printing -/

/-- The nearest integer to a fraction; of two, the even one. -/
def roundHalfEven (n d : Nat) : Nat :=
  if d < 2 * (n % d) ∨ 2 * (n % d) = d ∧ n / d % 2 = 1 then n / d + 1 else n / d

/-- How many millionths a binary fraction has. -/
def millionths (m : Nat) : Int → Nat
  | .ofNat k => m * 2 ^ k * 10 ^ 6
  | .negSucc k => roundHalfEven (m * 10 ^ 6) (2 ^ (k + 1))

def sixDigits (n : Nat) : List Char :=
  [100000, 10000, 1000, 100, 10, 1].map fun unit => Nat.digitChar (n / unit % 10)

/-- So many millionths. -/
def decimalText (n : Nat) : List Char :=
  Nat.toDigits 10 (n / 10 ^ 6) ++ '.' :: sixDigits (n % 10 ^ 6)

def signText : Sign → List Char
  | .positive => []
  | .negative => ['-']

/-- `std::to_string` of a `double`; a NaN has no sign here. -/
def fixedText (x : Float) : List Char :=
  match x.toModel.unpack with
  | .infinity sign => signText sign ++ ['i', 'n', 'f']
  | .notANumber => ['n', 'a', 'n']
  | .zero sign => signText sign ++ decimalText 0
  | .finite sign m e _ => signText sign ++ decimalText (millionths m e)

/-- `std::to_string` of an integer. -/
def integerText (n : Int) : List Char := (toString n).toList

example : fixedText (Float.ofBits 0xBFF8000000000000) = "-1.500000".toList := by decide +kernel

/-! ## Where such a text ends

Numbers that stand in a row without a blank. Each ends behind its decimals or
its word, so no number is the beginning of another one. -/

/-- A sign or a digit. -/
def isSignOrDigit (c : Char) : Bool := c == '-' || c.isDigit

/-- What ends a number: its decimals, or a word. -/
def IsTail (tail : List Char) : Prop :=
  tail = ['i', 'n', 'f'] ∨ tail = ['n', 'a', 'n'] ∨ ∃ six, six.length = 6 ∧ tail = '.' :: six

/-- Signs and digits, of one number or of more, and the end of the last one. -/
def IsRun (text : List Char) : Prop :=
  ∃ head tail, text = head ++ tail ∧ (∀ c ∈ head, isSignOrDigit c = true) ∧ IsTail tail

/-- The end of a number begins with its point or its word. -/
theorem IsTail.exists_cons {tail : List Char} (h : IsTail tail) :
    ∃ c rest, tail = c :: rest ∧ isSignOrDigit c = false := by
  obtain rfl | rfl | ⟨six, -, rfl⟩ := h
  · exact ⟨_, _, rfl, by decide⟩
  · exact ⟨_, _, rfl, by decide⟩
  · exact ⟨_, _, rfl, by decide⟩

/-- Where the signs and digits end. -/
theorem takeWhile_run {head tail rest : List Char} (hhead : ∀ c ∈ head, isSignOrDigit c = true)
    (htail : IsTail tail) : (head ++ tail ++ rest).takeWhile isSignOrDigit = head := by
  obtain ⟨c, more, rfl, hc⟩ := htail.exists_cons
  rw [List.append_assoc, List.takeWhile_append_of_pos hhead, List.cons_append,
    List.takeWhile_cons_of_neg (by simp [hc]), List.append_nil]

theorem prefixFree_isTail : PrefixFree IsTail := by
  rintro a b ha hb ⟨rest, hrest⟩
  have hlength : a.length = b.length := by
    obtain rfl | rfl | ⟨six, hsix, rfl⟩ := ha
    all_goals obtain rfl | rfl | ⟨six', hsix', rfl⟩ := hb
    all_goals simp_all
  exact (List.append_inj (hrest.trans (List.append_nil b).symm) hlength).1

/-- The numbers themselves end at their tails. -/
theorem prefixFree_isRun : PrefixFree IsRun := by
  rintro _ _ ⟨head, tail, rfl, hhead, htail⟩ ⟨head', tail', rfl, hhead', htail'⟩ ⟨rest, hrest⟩
  have hheads : head = head' := by
    have hsame := congrArg (List.takeWhile isSignOrDigit) hrest
    rw [takeWhile_run hhead htail, ← List.append_nil (head' ++ tail'), takeWhile_run hhead' htail']
      at hsame
    exact hsame
  subst hheads
  rw [List.append_assoc] at hrest
  rw [prefixFree_isTail tail tail' htail htail' ⟨rest, List.append_cancel_left hrest⟩]

/-- An integer before a number becomes part of it. -/
theorem IsRun.append {head text : List Char} (hhead : ∀ c ∈ head, isSignOrDigit c = true)
    (h : IsRun text) : IsRun (head ++ text) := by
  obtain ⟨head', tail, rfl, hhead', htail⟩ := h
  refine ⟨head ++ head', tail, (List.append_assoc ..).symm, ?_, htail⟩
  rw [List.forall_mem_append]
  exact ⟨hhead, hhead'⟩

theorem isSignOrDigit_of_mem_integerText {n : Int} {c : Char} (h : c ∈ integerText n) :
    isSignOrDigit c = true := by
  have hdigits : ∀ m : Nat, ∀ d ∈ (Nat.repr m).toList, isSignOrDigit d = true := by
    intro m d hd
    rw [Nat.repr, String.toList_ofList] at hd
    simp [isSignOrDigit, Nat.isDigit_of_mem_toDigits (by decide) (by decide) hd]
  unfold integerText at h
  cases n with
  | ofNat m => exact hdigits m c h
  | negSucc m =>
    rw [show toString (Int.negSucc m) = "-" ++ Nat.repr (m + 1) from rfl, String.toList_append,
      List.mem_append] at h
    obtain h | h := h
    · rw [show "-".toList = ['-'] from rfl, List.mem_singleton] at h
      rw [h]
      rfl
    · exact hdigits _ c h

theorem integerText_ne_nil (n : Int) : integerText n ≠ [] := by
  unfold integerText
  cases n with
  | ofNat m =>
    rw [show toString (Int.ofNat m) = Nat.repr m from rfl, Nat.repr, String.toList_ofList]
    exact Nat.toDigits_ne_nil
  | negSucc m =>
    rw [show toString (Int.negSucc m) = "-" ++ Nat.repr (m + 1) from rfl, String.toList_append]
    exact List.append_ne_nil_of_left_ne_nil (by decide) _

theorem isSignOrDigit_of_mem_toDigits {n : Nat} :
    ∀ c ∈ Nat.toDigits 10 n, isSignOrDigit c = true := by
  intro c hc
  simp [isSignOrDigit, Nat.isDigit_of_mem_toDigits (by decide) (by decide) hc]

theorem isRun_decimalText (n : Nat) : IsRun (decimalText n) :=
  ⟨_, _, rfl, isSignOrDigit_of_mem_toDigits, .inr (.inr ⟨_, rfl, rfl⟩)⟩

theorem isSignOrDigit_of_mem_signText {sign : Sign} {c : Char} (h : c ∈ signText sign) :
    isSignOrDigit c = true := by
  cases sign with
  | positive => cases h
  | negative =>
    rw [List.mem_singleton.mp h]
    rfl

theorem isRun_fixedText (x : Float) : IsRun (fixedText x) := by
  unfold fixedText
  split
  · exact ⟨_, _, rfl, fun c hc => isSignOrDigit_of_mem_signText hc, .inl rfl⟩
  · exact ⟨[], _, rfl, by simp, .inr (.inl rfl)⟩
  · exact (isRun_decimalText 0).append fun c hc => isSignOrDigit_of_mem_signText hc
  · exact (isRun_decimalText _).append fun c hc => isSignOrDigit_of_mem_signText hc

/-! ## What such a text tells

Two numbers leave the same text if they have the same sign and round to as many
millionths. The text is taken apart where its digits end: the digits before the
point by `Nat.ofDigitChars`, the six behind it one by one. -/

/-- What is printed of a `double`. -/
inductive SixDecimals where
  | infinity (sign : Sign)
  | notANumber
  | decimal (sign : Sign) (millionths : Nat)

def SixDecimals.text : SixDecimals → List Char
  | .infinity sign => signText sign ++ ['i', 'n', 'f']
  | .notANumber => ['n', 'a', 'n']
  | .decimal sign millionths => signText sign ++ decimalText millionths

/-- A number, rounded to six decimals. -/
def sixDecimals (x : Float) : SixDecimals :=
  match x.toModel.unpack with
  | .infinity sign => .infinity sign
  | .notANumber => .notANumber
  | .zero sign => .decimal sign 0
  | .finite sign m e _ => .decimal sign (millionths m e)

theorem fixedText_eq_text (x : Float) : fixedText x = (sixDecimals x).text := by
  unfold fixedText sixDecimals
  split <;> rfl

theorem toDigits_injective : Function.Injective (Nat.toDigits 10) := by
  intro m n h
  rw [← @Nat.ofDigitChars_ten_toDigits m, h, Nat.ofDigitChars_ten_toDigits]

theorem digitChar_inj {m n : Nat} (hm : m < 10) (hn : n < 10) (h : Nat.digitChar m = Nat.digitChar n) :
    m = n := by
  have hall : ∀ i < 10, ∀ j < 10, Nat.digitChar i = Nat.digitChar j → i = j := by decide
  exact hall m hm n hn h

theorem sixDigits_inj {m n : Nat} (hm : m < 10 ^ 6) (hn : n < 10 ^ 6) (h : sixDigits m = sixDigits n) :
    m = n := by
  have hdigit : ∀ unit ∈ [100000, 10000, 1000, 100, 10, 1], m / unit % 10 = n / unit % 10 := by
    intro unit hunit
    refine digitChar_inj (Nat.mod_lt _ (by decide)) (Nat.mod_lt _ (by decide)) ?_
    exact List.map_inj_left.mp h unit hunit
  simp only [List.forall_mem_cons, List.not_mem_nil, false_implies, implies_true, and_true] at hdigit
  omega

theorem decimalText_injective : Function.Injective decimalText := by
  intro m n h
  have hwhole : Nat.toDigits 10 (m / 10 ^ 6) = Nat.toDigits 10 (n / 10 ^ 6) := by
    have htexts := congrArg (List.takeWhile isSignOrDigit) h
    unfold decimalText at htexts
    rw [← List.append_nil (_ ++ _), takeWhile_run (isSignOrDigit_of_mem_toDigits) (.inr (.inr ⟨_, rfl, rfl⟩)),
      ← List.append_nil (_ ++ _), takeWhile_run (isSignOrDigit_of_mem_toDigits) (.inr (.inr ⟨_, rfl, rfl⟩))]
      at htexts
    exact htexts
  have hsix : sixDigits (m % 10 ^ 6) = sixDigits (n % 10 ^ 6) := by
    unfold decimalText at h
    rw [hwhole] at h
    exact (List.cons.inj (List.append_cancel_left h)).2
  have hhigh := toDigits_injective hwhole
  have hlow := sixDigits_inj (Nat.mod_lt _ (by decide)) (Nat.mod_lt _ (by decide)) hsix
  rw [← Nat.div_add_mod m (10 ^ 6), ← Nat.div_add_mod n (10 ^ 6), hhigh, hlow]

theorem decimalText_ne_minus {n : Nat} {rest : List Char} : decimalText n ≠ '-' :: rest := by
  intro h
  have hne := @Nat.toDigits_ne_nil (n / 10 ^ 6) 10
  cases hdigits : Nat.toDigits 10 (n / 10 ^ 6) with
  | nil => exact hne hdigits
  | cons d ds =>
    unfold decimalText at h
    rw [hdigits] at h
    obtain ⟨rfl, -⟩ := List.cons.inj h
    have hdigit := Nat.isDigit_of_mem_toDigits (b := 10) (by decide) (by decide)
      (hdigits ▸ List.mem_cons_self)
    cases hdigit

theorem signText_append_inj {s s' : Sign} {m n : Nat}
    (h : signText s ++ decimalText m = signText s' ++ decimalText n) : s = s' ∧ m = n := by
  cases s with
  | positive =>
    cases s' with
    | positive => exact ⟨rfl, decimalText_injective h⟩
    | negative => exact absurd h decimalText_ne_minus
  | negative =>
    cases s' with
    | positive => exact absurd h.symm decimalText_ne_minus
    | negative => exact ⟨rfl, decimalText_injective (List.cons.inj h).2⟩

/-- Only a number has a point. -/
theorem point_mem_text {d : SixDecimals} : '.' ∈ d.text ↔ ∃ s n, d = .decimal s n := by
  cases d with
  | infinity s => cases s <;> simp [SixDecimals.text, signText]
  | notANumber => simp [SixDecimals.text]
  | decimal s n => simp [SixDecimals.text, decimalText]

theorem text_injective : Function.Injective SixDecimals.text := by
  intro d d' h
  have hpoint : (∃ s n, d = .decimal s n) ↔ ∃ s n, d' = .decimal s n := by
    rw [← point_mem_text, ← point_mem_text, h]
  cases d with
  | decimal s n =>
    obtain ⟨s', n', rfl⟩ := hpoint.mp ⟨s, n, rfl⟩
    obtain ⟨rfl, rfl⟩ := signText_append_inj h
    rfl
  | infinity s =>
    cases d' with
    | decimal s' n' => simp at hpoint
    | infinity s' => cases s <;> cases s' <;> first | rfl | cases h
    | notANumber => cases s <;> cases h
  | notANumber =>
    cases d' with
    | decimal s' n' => simp at hpoint
    | infinity s' => cases s' <;> cases h
    | notANumber => rfl

end SpatialPlatform.Lib
