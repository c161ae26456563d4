import Mathlib.Data.List.Basic
import Mathlib.Tactic.Tauto
import SpatialPlatform.Core.Basic
import SpatialPlatform.Lib.Numerals

/-!
# Reading UUIDs

`ParseUuid` of `core/utils/uuid.cpp`. It goes through the text once and takes
hyphens only in the places 8, 13, 18 and 23, each no earlier than the one before
it; hexadecimal digits are taken in both cases. A text that is not ASCII is
refused at its first other character, which the bytes before it place as in the
source.

* `parseUuid_formatUuid` — the canonical text of a UUID is read back as that
  UUID.
* `parseUuid_accepts_iff` — the texts that are accepted: 32 digits, with the
  hyphens of the canonical form up to some place and none behind it.
-/

namespace SpatialPlatform.Core

open SpatialPlatform.Lib

/-- `HexValue`; `none` for a character that is no digit. -/
def hexValue (c : Char) : Option Nat :=
  if '0' ≤ c ∧ c ≤ '9' then some (c.toNat - '0'.toNat)
  else if 'a' ≤ c ∧ c ≤ 'f' then some (c.toNat - 'a'.toNat + 10)
  else if 'A' ≤ c ∧ c ≤ 'F' then some (c.toNat - 'A'.toNat + 10)
  else none

/-- What `ParseUuid` has seen of the text: the digits, whether there was a
hyphen, and where the next one may stand. -/
structure UuidScan where
  digits : List Nat := []
  seenHyphen : Bool := false
  expectHyphenAt : Nat := 8
  deriving DecidableEq, Repr

namespace UuidScan

/-- The character at position `i`. -/
def step (scan : UuidScan) (i : Nat) (c : Char) : Except ProjectError UuidScan :=
  if c = '-' then
    if i ≠ scan.expectHyphenAt then
      .error ⟨.validationDomain, "malformed UUID: bad hyphen position"⟩
    else
      .ok { scan with
        seenHyphen := true
        expectHyphenAt :=
          if scan.expectHyphenAt = 8 then 13
          else if scan.expectHyphenAt = 13 then 18
          else if scan.expectHyphenAt = 18 then 23
          else scan.expectHyphenAt }
  else match hexValue c with
    | none => .error ⟨.validationDomain, "malformed UUID: non-hex character"⟩
    | some v =>
        if scan.digits.length ≥ 32 then
          .error ⟨.validationDomain, "malformed UUID: too many characters"⟩
        else .ok { scan with digits := scan.digits ++ [v] }

/-- The rest of the text, from position `i` on. -/
def run (scan : UuidScan) (i : Nat) : List Char → Except ProjectError UuidScan
  | [] => .ok scan
  | c :: cs => do (← scan.step i c).run (i + 1) cs

end UuidScan

/-- `ParseUuid`. -/
def parseUuid (s : String) : Except ProjectError Uuid := do
  let scan ← UuidScan.run {} 0 s.toList
  if scan.digits.length ≠ 32 ∨ !scan.seenHyphen then
    throw ⟨.validationDomain, "malformed UUID: length or structure"⟩
  return ⟨BitVec.ofNat 128 (scan.digits.foldl (fun value digit => 16 * value + digit) 0)⟩

/-! ## Digits

Letters count in both cases when they are read; they are written in lower case. -/

theorem hexValue_hexDigit {n : Nat} (h : n < 16) : hexValue (hexDigit n) = some n := by
  have hall : ∀ n < 16, hexValue (hexDigit n) = some n := by decide
  exact hall n h

/-- The value of a digit is below 16, and its digit is the lower-case one. -/
theorem hexValue_eq_some {c : Char} {v : Nat} (h : hexValue c = some v) :
    v < 16 ∧ c ≠ '-' ∧ hexDigit v = c.toLower := by
  have hall : ∀ n < 128, ∀ v, hexValue (Char.ofNat n) = some v →
      v < 16 ∧ Char.ofNat n ≠ '-' ∧ hexDigit v = (Char.ofNat n).toLower := by
    have : ∀ n < 128, ∀ v ∈ hexValue (Char.ofNat n),
      v < 16 ∧ Char.ofNat n ≠ '-' ∧ hexDigit v = (Char.ofNat n).toLower := by decide
    exact this
  have hascii : c.toNat < 128 := by
    have hle : ∀ d : Char, c ≤ d → c.toNat ≤ d.toNat := fun _ h => h
    unfold hexValue at h
    split at h
    · next hc => exact Nat.lt_of_le_of_lt (hle _ hc.2) (by decide)
    · split at h
      · next hc => exact Nat.lt_of_le_of_lt (hle _ hc.2) (by decide)
      · split at h
        · next hc => exact Nat.lt_of_le_of_lt (hle _ hc.2) (by decide)
        · cases h
  have hc := hall c.toNat hascii
  rw [Char.ofNat_toNat] at hc
  exact hc v h

/-- The values of the digits of a text. -/
def hexValues (text : List Char) : List Nat := text.filterMap hexValue

theorem length_hexValues {text : List Char} (h : ∀ c ∈ text, (hexValue c).isSome) :
    (hexValues text).length = text.length :=
  List.filterMap_length_eq_length.mpr h

theorem hexValues_lt {text : List Char} {v : Nat} (h : v ∈ hexValues text) : v < 16 := by
  obtain ⟨c, -, hc⟩ := List.mem_filterMap.mp h
  exact (hexValue_eq_some hc).1

theorem hexValues_append (text text' : List Char) :
    hexValues (text ++ text') = hexValues text ++ hexValues text' :=
  List.filterMap_append

theorem map_hexDigit_hexValues {text : List Char} (h : ∀ c ∈ text, (hexValue c).isSome) :
    (hexValues text).map hexDigit = text.map Char.toLower := by
  induction text with
  | nil => rfl
  | cons c cs ih =>
      obtain ⟨hc, hcs⟩ := List.forall_mem_cons.mp h
      obtain ⟨v, hv⟩ := Option.isSome_iff_exists.mp hc
      rw [hexValues, List.filterMap_cons_some hv, List.map_cons, List.map_cons,
        (hexValue_eq_some hv).2.2]
      exact congrArg _ (ih hcs)

/-! ## The scan

The scan looks at one character after the other. By induction over the text it
reads groups of digits, each ended where a hyphen is expected, and by induction
over the groups it reads all that are so. -/

namespace UuidScan

/-- Where a hyphen may stand after one at `expected`. -/
def nextHyphen (expected : Nat) : Nat :=
  if expected = 8 then 13 else if expected = 13 then 18 else if expected = 18 then 23 else expected

/-- Every group but the last, read from position `i` on, ends where a hyphen is expected. -/
def EndsInPlace (expected i : Nat) : List (List Char) → Prop
  | [] => False
  | [_] => True
  | group :: rest =>
      i + group.length = expected ∧ EndsInPlace (nextHyphen expected) (expected + 1) rest

/-- What is read without an error is made of groups of digits, each ended where
a hyphen is expected. -/
theorem groups_of_run {scan final : UuidScan} {i : Nat} {text : List Char}
    (h : scan.run i text = .ok final) :
    ∃ groups, text = ['-'].intercalate groups ∧
      (∀ group ∈ groups, ∀ c ∈ group, (hexValue c).isSome) ∧
      EndsInPlace scan.expectHyphenAt i groups ∧
      final.digits = scan.digits ++ hexValues groups.flatten ∧
      final.seenHyphen = (scan.seenHyphen || decide (2 ≤ groups.length)) := by
  induction text generalizing scan i with
  | nil =>
      cases h
      exact ⟨[[]], rfl, by simp, trivial, by simp [hexValues], by simp⟩
  | cons c cs ih =>
      obtain ⟨next, hnext, hrest⟩ := bind_eq_ok h
      obtain ⟨groups, htext, hhex, hends, hdigits, hseen⟩ := ih hrest
      unfold step at hnext
      split at hnext
      next hhyphen =>
        split at hnext
        · cases hnext
        next hplace =>
          cases hnext
          have hi := not_not.mp hplace
          -- a hyphen ends the group in front of it
          refine ⟨[] :: groups, ?_, List.forall_mem_cons.mpr ⟨by simp, hhex⟩, ?_, hdigits, ?_⟩
          · cases groups with
            | nil => exact hends.elim
            | cons group rest => rw [htext, hhyphen]; rfl
          · cases groups with
            | nil => exact hends.elim
            | cons group rest => exact ⟨hi, hi ▸ hends⟩
          · cases groups with
            | nil => exact hends.elim
            | cons group rest => simp [hseen]
      next hhyphen =>
        split at hnext
        · cases hnext
        next v hv =>
          split at hnext
          · cases hnext
          cases hnext
          cases groups with
          | nil => exact hends.elim
          | cons group rest =>
              obtain ⟨hgroup, hother⟩ := List.forall_mem_cons.mp hhex
              have hc : (hexValue c).isSome := by rw [hv]; rfl
              -- a digit belongs to the first group of the rest
              refine ⟨(c :: group) :: rest, ?_, List.forall_mem_cons.mpr
                ⟨List.forall_mem_cons.mpr ⟨hc, hgroup⟩, hother⟩, ?_, ?_, hseen⟩
              · rw [htext]
                cases rest <;> rfl
              · cases rest with
                | nil => trivial
                | cons _ _ =>
                    refine ⟨?_, hends.2⟩
                    have hend : i + 1 + group.length = scan.expectHyphenAt := hends.1
                    rw [List.length_cons]
                    omega
              · rw [hdigits, List.flatten_cons, List.flatten_cons, List.cons_append, hexValues,
                  hexValues, List.filterMap_cons_some hv, List.append_assoc]
                rfl

theorem run_hyphen {scan : UuidScan} {i : Nat} (h : i = scan.expectHyphenAt)
    (rest : List Char) :
    scan.run i ('-' :: rest) = UuidScan.run { scan with
      seenHyphen := true
      expectHyphenAt :=
        if scan.expectHyphenAt = 8 then 13
        else if scan.expectHyphenAt = 13 then 18
        else if scan.expectHyphenAt = 18 then 23
        else scan.expectHyphenAt } (i + 1) rest := by
  rw [run, step, if_pos rfl, if_neg (not_not_intro h)]
  rfl

/-- Digits that fit are taken over one after the other. -/
theorem run_hex {scan : UuidScan} {group : List Char}
    (h : ∀ c ∈ group, (hexValue c).isSome)
    (hfit : scan.digits.length + (hexValues group).length ≤ 32) (i : Nat) (rest : List Char) :
    scan.run i (group ++ rest) =
      UuidScan.run { scan with digits := scan.digits ++ hexValues group } (i + group.length)
        rest := by
  induction group generalizing scan i with
  | nil => simp [hexValues]
  | cons c group ih =>
      obtain ⟨hc, hgroup⟩ := List.forall_mem_cons.mp h
      obtain ⟨v, hv⟩ := Option.isSome_iff_exists.mp hc
      have hvalues : hexValues (c :: group) = v :: hexValues group :=
        List.filterMap_cons_some hv
      have hroom : ¬ scan.digits.length ≥ 32 := by
        rw [hvalues, List.length_cons] at hfit
        omega
      have hstep : scan.step i c = .ok { scan with digits := scan.digits ++ [v] } := by
        rw [step, if_neg (hexValue_eq_some hv).2.1, hv]
        exact if_neg hroom
      rw [List.cons_append, run, hstep]
      show UuidScan.run { scan with digits := scan.digits ++ [v] } (i + 1) _ = _
      rw [ih hgroup]
      · rw [hvalues, List.append_assoc, List.singleton_append, List.length_cons, Nat.add_assoc,
          Nat.add_comm 1]
      · rw [List.length_append, List.length_singleton]
        rw [hvalues, List.length_cons] at hfit
        omega

/-- Groups that end in their places, and fit, are read. -/
theorem run_groups {groups : List (List Char)} {scan : UuidScan} {i : Nat}
    (hhex : ∀ group ∈ groups, ∀ c ∈ group, (hexValue c).isSome)
    (hends : EndsInPlace scan.expectHyphenAt i groups)
    (hfit : scan.digits.length + groups.flatten.length ≤ 32) :
    ∃ final, scan.run i (['-'].intercalate groups) = .ok final ∧
      final.digits = scan.digits ++ hexValues groups.flatten ∧
      final.seenHyphen = (scan.seenHyphen || decide (2 ≤ groups.length)) := by
  induction groups generalizing scan i with
  | nil => exact hends.elim
  | cons group rest ih =>
      obtain ⟨hgroup, hrest⟩ := List.forall_mem_cons.mp hhex
      rw [List.flatten_cons, List.length_append] at hfit
      have hroom : scan.digits.length + (hexValues group).length ≤ 32 := by
        rw [length_hexValues hgroup]
        omega
      have hread := run_hex hgroup hroom i
      -- the last group ends the text; behind any other one a hyphen is expected
      cases rest with
      | nil =>
          have hlast := hread []
          rw [List.append_nil] at hlast
          rw [List.intercalate_singleton, hlast, List.flatten_singleton]
          exact ⟨_, rfl, rfl, by simp⟩
      | cons next rest =>
          have hplace : i + group.length = scan.expectHyphenAt := hends.1
          let scan' : UuidScan := { scan with digits := scan.digits ++ hexValues group }
          obtain ⟨final, hfinal, hdigits, hseen⟩ := @ih
            { scan' with seenHyphen := true, expectHyphenAt := nextHyphen scan.expectHyphenAt }
            (i + group.length + 1) hrest (hplace ▸ hends.2)
            (by rw [List.length_append, length_hexValues hgroup]; omega)
          refine ⟨final, ?_, ?_, ?_⟩
          · show scan.run i (group ++ '-' :: ['-'].intercalate (next :: rest)) = .ok final
            rw [hread]
            exact (run_hyphen (show i + group.length = scan'.expectHyphenAt from hplace) _).trans
              hfinal
          · rw [hdigits, @List.flatten_cons _ group, hexValues_append, ← List.append_assoc]
          · simp [hseen]

end UuidScan

/-- The UUID of 32 digits. -/
def Uuid.ofDigits (digits : List Nat) : Uuid := ⟨BitVec.ofNat 128 (numeral 16 digits)⟩

/-- `ParseUuid` takes 32 digits in groups that end in their places, and at least two of them. -/
theorem parseUuid_eq_ok {s : String} {u : Uuid} :
    parseUuid s = .ok u ↔ ∃ groups : List (List Char), s.toList = ['-'].intercalate groups ∧
      (∀ group ∈ groups, ∀ c ∈ group, (hexValue c).isSome) ∧
      UuidScan.EndsInPlace 8 0 groups ∧ 2 ≤ groups.length ∧ groups.flatten.length = 32 ∧
      u = Uuid.ofDigits (hexValues groups.flatten) := by
  have hflat : ∀ {groups : List (List Char)},
      (∀ group ∈ groups, ∀ c ∈ group, (hexValue c).isSome) →
      ∀ c ∈ groups.flatten, (hexValue c).isSome := by
    intro groups hhex c hc
    obtain ⟨group, hgroup, hmem⟩ := List.mem_flatten.mp hc
    exact hhex group hgroup c hmem
  -- what `ParseUuid` does with the result of the scan
  have hparse : ∀ {scan : UuidScan}, UuidScan.run {} 0 s.toList = .ok scan → parseUuid s =
      if scan.digits.length ≠ 32 ∨ !scan.seenHyphen then
        .error ⟨.validationDomain, "malformed UUID: length or structure"⟩
      else .ok (Uuid.ofDigits scan.digits) := by
    intro scan hscan
    unfold parseUuid
    rw [hscan]
    simp only [bind, Except.bind]
    split <;> rfl
  constructor
  · intro h
    obtain ⟨scan, hscan, -⟩ := bind_eq_ok h
    obtain ⟨groups, htext, hhex, hends, hdigits, hseen⟩ := UuidScan.groups_of_run hscan
    rw [hparse hscan] at h
    split at h
    · cases h
    next hwhole =>
      cases h
      obtain ⟨hlength, hsome⟩ := not_or.mp hwhole
      have hlength := not_not.mp hlength
      refine ⟨groups, htext, hhex, hends, ?_, ?_, ?_⟩
      · have hmany : ¬ groups.length < 2 := by simpa [hseen] using hsome
        exact Nat.not_lt.mp hmany
      · rw [← length_hexValues (hflat hhex), ← hlength, hdigits]
        rfl
      · rw [hdigits]
        rfl
  -- such groups are scanned to their end
  · rintro ⟨groups, htext, hhex, hends, htwo, htotal, rfl⟩
    obtain ⟨scan, hscan, hdigits, hseen⟩ :=
      @UuidScan.run_groups groups {} 0 hhex hends (by simp [htotal])
    rw [← htext] at hscan
    have hlength : scan.digits.length = 32 := by
      rw [hdigits, List.nil_append, length_hexValues (hflat hhex), htotal]
    have hsome : scan.seenHyphen = true := by
      rw [hseen]
      simp [htwo]
    rw [hparse hscan, if_neg (by simp [hlength, hsome]), hdigits, List.nil_append]

/-! ## Canonical texts

The text of a UUID in groups, and its digits. A number is its digits, by
induction over their count. -/

namespace Uuid

/-- The digits of `count` bytes from `start` on. -/
def nibbles (u : Uuid) (start count : Nat) : List Nat :=
  (List.range' start count).flatMap fun i => [u.byte i / 16, u.byte i % 16]

theorem length_nibbles (u : Uuid) (start count : Nat) :
    (u.nibbles start count).length = 2 * count := by
  simp [nibbles, List.length_flatMap, List.map_const', Nat.mul_comm]

theorem nibbles_lt {u : Uuid} {start count d : Nat} (h : d ∈ u.nibbles start count) : d < 16 := by
  obtain ⟨i, -, hd⟩ := List.mem_flatMap.mp h
  have hbyte : u.byte i < 256 := Nat.mod_lt _ (by decide)
  rcases List.mem_pair.mp hd with rfl | rfl <;> omega

theorem nibbles_append (u : Uuid) (start m n : Nat) :
    u.nibbles start m ++ u.nibbles (start + m) n = u.nibbles start (m + n) := by
  rw [nibbles, nibbles, ← List.flatMap_append, List.range'_append_1, nibbles]

/-- The groups of the canonical text are the digits of the whole. -/
theorem nibbles_groups (u : Uuid) :
    u.nibbles 0 4 ++ (u.nibbles 4 2 ++ (u.nibbles 6 2 ++ (u.nibbles 8 2 ++ u.nibbles 10 6))) =
      u.nibbles 0 16 := by
  rw [u.nibbles_append 8 2 6, u.nibbles_append 6 2 8, u.nibbles_append 4 2 10,
    u.nibbles_append 0 4 12]

/-- The value of the first bytes is the value of the whole, shifted. -/
theorem foldl_nibbles (u : Uuid) {count : Nat} (h : count ≤ 16) :
    (u.nibbles 0 count).foldl (fun value digit => 16 * value + digit) 0 =
      u.bytes.toNat / 2 ^ (8 * (16 - count)) := by
  induction count with
  | zero =>
      have hlt : u.bytes.toNat < 2 ^ (8 * 16) := u.bytes.isLt
      exact (Nat.div_eq_of_lt hlt).symm
  | succ count ih =>
      have hlast : u.nibbles 0 (count + 1) =
          u.nibbles 0 count ++ [u.byte count / 16, u.byte count % 16] := by
        simp [nibbles, List.range'_concat]
      have hshift : 8 * (16 - count) = 8 * (15 - count) + 8 := by omega
      have hbyte : u.byte count = u.bytes.toNat / 2 ^ (8 * (15 - count)) % 256 := by
        rw [byte, Nat.shiftRight_eq_div_pow]
      have hhead : u.bytes.toNat / 2 ^ (8 * (16 - count)) =
          u.bytes.toNat / 2 ^ (8 * (15 - count)) / 256 := by
        rw [hshift, Nat.pow_add, Nat.div_div_eq_div_mul]
      rw [hlast, List.foldl_append, ih (by omega), hhead, hbyte,
        show 16 - (count + 1) = 15 - count by omega]
      generalize u.bytes.toNat / 2 ^ (8 * (15 - count)) = value
      show 16 * (16 * (value / 256) + value % 256 / 16) + value % 256 % 16 = value
      omega

end Uuid

/-- The canonical text, digit group by digit group. -/
theorem formatUuid_toList (u : Uuid) :
    (formatUuid u).toList =
      (u.nibbles 0 4).map hexDigit ++ '-' :: ((u.nibbles 4 2).map hexDigit ++
        '-' :: ((u.nibbles 6 2).map hexDigit ++ '-' :: ((u.nibbles 8 2).map hexDigit ++
          '-' :: ((u.nibbles 10 6).map hexDigit ++ [])))) := by
  rw [formatUuid, String.toList_ofList]
  rfl

/-- The digits of a UUID are the ones it is made of. -/
theorem nibbles_ofDigits {digits : List Nat} (hlen : digits.length = 32)
    (h : ∀ d ∈ digits, d < 16) : (Uuid.ofDigits digits).nibbles 0 16 = digits := by
  have hfits : numeral 16 digits < 2 ^ 128 := by
    have hlt := numeral_lt (by decide) h
    rw [hlen] at hlt
    exact hlt
  apply numeral_injective (show 1 < 16 by decide) (by rw [Uuid.length_nibbles, hlen])
    (fun _ => Uuid.nibbles_lt) h
  refine (Uuid.foldl_nibbles _ (Nat.le_refl 16)).trans ?_
  rw [Uuid.ofDigits, BitVec.toNat_ofNat, Nat.mod_eq_of_lt hfits]
  exact Nat.div_one _

/-- What the digits of a UUID are written as are digits, of their own values. -/
theorem hexValues_map_hexDigit {digits : List Nat} (h : ∀ d ∈ digits, d < 16) :
    hexValues (digits.map hexDigit) = digits := by
  induction digits with
  | nil => rfl
  | cons d digits ih =>
      obtain ⟨hd, hdigits⟩ := List.forall_mem_cons.mp h
      rw [List.map_cons, hexValues, List.filterMap_cons_some (hexValue_hexDigit hd)]
      exact congrArg _ (ih hdigits)

theorem isSome_hexValue_map {u : Uuid} {start count : Nat} :
    ∀ c ∈ (u.nibbles start count).map hexDigit, (hexValue c).isSome := by
  intro c hc
  obtain ⟨d, hd, rfl⟩ := List.mem_map.mp hc
  rw [hexValue_hexDigit (Uuid.nibbles_lt hd)]
  rfl

/-- The text of a UUID is read back as that UUID. -/
theorem parseUuid_formatUuid (u : Uuid) : parseUuid (formatUuid u) = .ok u := by
  have hgroup : ∀ start count, hexValues ((u.nibbles start count).map hexDigit) =
      u.nibbles start count := fun _ _ => hexValues_map_hexDigit fun _ => Uuid.nibbles_lt
  refine parseUuid_eq_ok.mpr ⟨[(u.nibbles 0 4).map hexDigit, (u.nibbles 4 2).map hexDigit,
    (u.nibbles 6 2).map hexDigit, (u.nibbles 8 2).map hexDigit, (u.nibbles 10 6).map hexDigit],
    ?_, ?_, ?_, ?_, ?_, ?_⟩
  · rw [formatUuid_toList]
    simp [List.intercalate]
  · simp only [List.forall_mem_cons, List.not_mem_nil, false_imp_iff, forall_true_iff, and_true]
    exact ⟨isSome_hexValue_map, isSome_hexValue_map, isSome_hexValue_map, isSome_hexValue_map,
      isSome_hexValue_map⟩
  · simp [UuidScan.EndsInPlace, UuidScan.nextHyphen, Uuid.length_nibbles]
  · simp
  · simp [Uuid.length_nibbles]
  · simp only [List.flatten_cons, List.flatten_nil, List.append_nil, hexValues_append, hgroup]
    have hvalue : numeral 16 (u.nibbles 0 16) = u.bytes.toNat :=
      (u.foldl_nibbles (Nat.le_refl 16)).trans (Nat.div_one _)
    rw [u.nibbles_groups, Uuid.ofDigits, hvalue, BitVec.ofNat_toNat, BitVec.setWidth_eq]

/-! ## The texts that are accepted

The widths of the groups decide. A text of the right length has four hyphens or
fewer, and fewer ones are in their places all the same, since the scan checks
the place of a hyphen only where it meets one. -/

/-- Groups of hexadecimal digits of these lengths, with a hyphen between each and the next. -/
def HexGroups (widths : List Nat) (s : String) : Prop :=
  ∃ groups : List (List Char), groups.map List.length = widths ∧
    (∀ group ∈ groups, ∀ c ∈ group, (hexValue c).isSome) ∧
    s.toList = ['-'].intercalate groups

/-- The canonical form, in either case. -/
def IsCanonicalUuid (s : String) : Prop := HexGroups [8, 4, 4, 4, 12] s

/-- The form without its last hyphens: one, two or three of the four are there. -/
def LacksHyphens (s : String) : Prop :=
  HexGroups [8, 24] s ∨ HexGroups [8, 4, 20] s ∨ HexGroups [8, 4, 4, 16] s

/-- The text is accepted exactly when it is canonical, and then is the text of the UUID, but for case. -/
def ReadsCanonically (s : String) : Prop :=
  ((∃ u, parseUuid s = .ok u) ↔ IsCanonicalUuid s) ∧
    ∀ u, parseUuid s = .ok u → formatUuid u = s.toLower

/-- Groups of these lengths, and a hyphen for each but the first. -/
theorem HexGroups.length {width : Nat} {widths : List Nat} {s : String}
    (h : HexGroups (width :: widths) s) : s.length = width + (widths.map (· + 1)).sum := by
  obtain ⟨groups, hwidths, -, htext⟩ := h
  rw [← String.length_toList, htext]
  clear htext
  induction groups generalizing width widths with
  | nil => cases hwidths
  | cons group rest ih =>
      rw [List.map_cons, List.cons.injEq] at hwidths
      obtain ⟨rfl, rfl⟩ := hwidths
      cases rest with
      | nil => rw [List.intercalate_singleton]; rfl
      | cons next rest =>
          rw [List.intercalate_cons_cons, List.length_append, List.length_append, ih rfl]
          simp
          omega

/-- The widths of the groups of an accepted text. -/
theorem endsInPlace_iff {groups : List (List Char)} :
    UuidScan.EndsInPlace 8 0 groups ∧ 2 ≤ groups.length ∧ groups.flatten.length = 32 ↔
      groups.map List.length ∈ [[8, 24], [8, 4, 20], [8, 4, 4, 16], [8, 4, 4, 4, 12]] := by
  rcases groups with _ | ⟨a, _ | ⟨b, _ | ⟨c, _ | ⟨d, _ | ⟨e, _ | ⟨f, rest⟩⟩⟩⟩⟩⟩
  · simp
  · simp
  · simp [UuidScan.EndsInPlace]
    omega
  · simp [UuidScan.EndsInPlace, UuidScan.nextHyphen]
    omega
  · simp [UuidScan.EndsInPlace, UuidScan.nextHyphen]
    omega
  · simp [UuidScan.EndsInPlace, UuidScan.nextHyphen]
    omega
  · -- a sixth group would have to start behind the last place
    simp [UuidScan.EndsInPlace, UuidScan.nextHyphen]
    omega

/-- The accepted texts: the canonical ones, and those that lack hyphens. -/
theorem parseUuid_accepts_iff {s : String} :
    (∃ u, parseUuid s = .ok u) ↔ IsCanonicalUuid s ∨ LacksHyphens s := by
  have haccepts : (∃ u, parseUuid s = .ok u) ↔
      ∃ widths ∈ [[8, 24], [8, 4, 20], [8, 4, 4, 16], [8, 4, 4, 4, 12]], HexGroups widths s := by
    constructor
    · rintro ⟨u, hu⟩
      obtain ⟨groups, htext, hhex, hends, htwo, htotal, -⟩ := parseUuid_eq_ok.mp hu
      exact ⟨_, endsInPlace_iff.mp ⟨hends, htwo, htotal⟩, groups, rfl, hhex, htext⟩
    · rintro ⟨_, hwidths, groups, rfl, hhex, htext⟩
      obtain ⟨hends, htwo, htotal⟩ := endsInPlace_iff.mpr hwidths
      exact ⟨_, parseUuid_eq_ok.mpr ⟨groups, htext, hhex, hends, htwo, htotal, rfl⟩⟩
  rw [haccepts]
  simp only [List.mem_cons, List.not_mem_nil, or_false, exists_eq_or_imp, exists_eq_left]
  exact ⟨fun h => by tauto, fun h => by unfold LacksHyphens IsCanonicalUuid at h; tauto⟩

/-- A canonical text is the text of its UUID, but for case. -/
theorem formatUuid_of_canonical {s : String} {u : Uuid} (hs : IsCanonicalUuid s)
    (hu : parseUuid s = .ok u) : formatUuid u = s.toLower := by
  obtain ⟨groups, hwidths, hhex, htext⟩ := hs
  obtain ⟨hends, htwo, htotal⟩ := endsInPlace_iff.mpr (by rw [hwidths]; decide)
  have hread := parseUuid_eq_ok.mpr ⟨groups, htext, hhex, hends, htwo, htotal, rfl⟩
  obtain rfl : u = _ := Except.ok.inj (hu.symm.trans hread)
  obtain ⟨a, b, c, d, e, rfl⟩ : ∃ a b c d e, groups = [a, b, c, d, e] := by
    rcases groups with _ | ⟨a, _ | ⟨b, _ | ⟨c, _ | ⟨d, _ | ⟨e, _ | ⟨f, rest⟩⟩⟩⟩⟩⟩ <;>
      simp at hwidths ⊢
  simp only [List.map_cons, List.map_nil, List.cons.injEq, and_true] at hwidths
  obtain ⟨ha, hb, hc, hd, he⟩ := hwidths
  simp only [List.forall_mem_cons, List.not_mem_nil, false_imp_iff, forall_true_iff,
    and_true] at hhex
  obtain ⟨hxa, hxb, hxc, hxd, hxe⟩ := hhex
  have hflat : ∀ x ∈ [a, b, c, d, e].flatten, (hexValue x).isSome := by
    simp only [List.flatten_cons, List.flatten_nil, List.append_nil, List.forall_mem_append]
    exact ⟨hxa, hxb, hxc, hxd, hxe⟩
  generalize hu : Uuid.ofDigits (hexValues [a, b, c, d, e].flatten) = u at hread ⊢
  have hnibbles : u.nibbles 0 4 ++ (u.nibbles 4 2 ++ (u.nibbles 6 2 ++ (u.nibbles 8 2 ++
      u.nibbles 10 6))) = hexValues a ++ (hexValues b ++ (hexValues c ++ (hexValues d ++
        hexValues e))) := by
    have hall : u.nibbles 0 16 = hexValues [a, b, c, d, e].flatten := by
      rw [← hu]
      exact nibbles_ofDigits (by rw [length_hexValues hflat, htotal]) fun _ => hexValues_lt
    simp only [List.flatten_cons, List.flatten_nil, List.append_nil, hexValues_append] at hall
    exact u.nibbles_groups.trans hall
  -- the groups have the widths of the digit groups of `FormatUuid`
  obtain ⟨h₁, hnibbles⟩ := List.append_inj hnibbles (by
    rw [Uuid.length_nibbles, length_hexValues hxa, ha])
  obtain ⟨h₂, hnibbles⟩ := List.append_inj hnibbles (by
    rw [Uuid.length_nibbles, length_hexValues hxb, hb])
  obtain ⟨h₃, hnibbles⟩ := List.append_inj hnibbles (by
    rw [Uuid.length_nibbles, length_hexValues hxc, hc])
  obtain ⟨h₄, h₅⟩ := List.append_inj hnibbles (by
    rw [Uuid.length_nibbles, length_hexValues hxd, hd])
  apply String.toList_injective
  rw [formatUuid_toList, h₁, h₂, h₃, h₄, h₅, map_hexDigit_hexValues hxa, map_hexDigit_hexValues hxb,
    map_hexDigit_hexValues hxc, map_hexDigit_hexValues hxd, map_hexDigit_hexValues hxe,
    show s.toLower = s.map Char.toLower from rfl, String.toList_map, htext]
  have hhyphen : Char.toLower '-' = '-' := by decide
  simp [List.intercalate, hhyphen]

/-- `ParseUuid` reads a text canonically if and only if the text does not lack
hyphens, and reads back every text that `FormatUuid` writes. -/
theorem parseUuid_canonical_iff (u : Uuid) (s : String) :
    parseUuid (formatUuid u) = .ok u ∧ (ReadsCanonically s ↔ ¬ LacksHyphens s) := by
  refine ⟨parseUuid_formatUuid u, ?_⟩
  constructor
  · rintro ⟨haccepts, -⟩ hlacks
    have hcanonical := haccepts.mp (parseUuid_accepts_iff.mpr (.inr hlacks))
    rcases hlacks with h | h | h
    · exact absurd (hcanonical.length.symm.trans h.length) (by decide)
    · exact absurd (hcanonical.length.symm.trans h.length) (by decide)
    · exact absurd (hcanonical.length.symm.trans h.length) (by decide)
  · intro hwhole
    have haccepts : (∃ u, parseUuid s = .ok u) ↔ IsCanonicalUuid s :=
      parseUuid_accepts_iff.trans (or_iff_left hwhole)
    exact ⟨haccepts, fun u hu => formatUuid_of_canonical (haccepts.mp ⟨u, hu⟩) hu⟩

/-- A text with one hyphen is accepted. -/
theorem one_hyphen_accepted : ¬ ReadsCanonically "00000000-000000000000000000000000" := by
  rintro ⟨haccepts, -⟩
  have hcanonical := haccepts.mp ⟨⟨0⟩, by decide⟩
  exact absurd hcanonical.length (by decide)

end SpatialPlatform.Core
