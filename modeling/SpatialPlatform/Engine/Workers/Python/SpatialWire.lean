import SpatialPlatform.Core.Basic
import SpatialPlatform.Lib.Varint

/-!
# The wire codec of the Python worker

`engine/workers/python/spatial_wire.py`: base-128 numbers, keys and fields, and
`parse_fields`, which slices a payload out of the buffer without a look at how
long the buffer is.
-/

namespace SpatialPlatform.Engine.SpatialWire

open SpatialPlatform.Core SpatialPlatform.Lib

/-- The exceptions of the decoder. -/
inductive WireError where
  | indexError
  | valueError (message : String)
  deriving DecidableEq, Repr

/-- A `(kind, value)` pair. -/
inductive WireValue where
  | varint (value : Nat)
  | bytes (value : List UInt8)
  deriving DecidableEq, Repr

/-! ## The encoder -/

def wireVarint : Nat := 0

def wireLength : Nat := 2

/-- The loop of `vint`. -/
def vintLoop (value : Nat) : List UInt8 :=
  if value ≥ 0x80 then UInt8.ofNat ((value &&& 0x7F) ||| 0x80) :: vintLoop (value >>> 7)
  else [UInt8.ofNat value]
termination_by value
decreasing_by
  rw [Nat.shiftRight_eq_div_pow]
  omega

/-- `vint`. -/
def vint (value : Nat) : List UInt8 := vintLoop (value &&& 0xFFFFFFFFFFFFFFFF)

/-- `_key`. -/
def key (field wireType : Nat) : List UInt8 := vint ((field <<< 3) ||| wireType)

/-- `f_varint`. -/
def fVarint (field value : Nat) : List UInt8 := key field wireVarint ++ vint value

/-- `f_message`, and `f_string` of the bytes of a text. -/
def fMessage (field : Nat) (payload : List UInt8) : List UInt8 :=
  key field wireLength ++ vint payload.length ++ payload

/-! ## The decoder

The loops of the decoder run over the data that is left, which each turn makes
shorter. -/

/-- The loop of `read_varint`, with the data from `pos` on. -/
def readVarintLoop : List UInt8 → Nat → Nat → Except WireError (Nat × List UInt8)
  | [], _, _ => .error .indexError
  | b :: data, result, shift =>
      let result := result ||| ((b.toNat &&& 0x7F) <<< shift)
      if b.toNat &&& 0x80 = 0 then .ok (result, data)
      else if shift + 7 ≥ 70 then .error (.valueError "varint too long")
      else readVarintLoop data result (shift + 7)

/-- `read_varint`. -/
def readVarint (data : List UInt8) : Except WireError (Nat × List UInt8) := readVarintLoop data 0 0

/-- One turn of the loop of `parse_fields`: the field at the front, and the data behind it. -/
def parseField (data : List UInt8) : Except WireError ((Nat × WireValue) × List UInt8) := do
  let (tag, data) ← readVarint data
  let field := tag >>> 3
  let wire := tag &&& 7
  if wire = wireVarint then
    let (value, data) ← readVarint data
    return ((field, .varint value), data)
  else if wire = wireLength then
    let (length, data) ← readVarint data
    return ((field, .bytes (data.take length)), data.drop length)
  else throw (.valueError ("unsupported wire type " ++ toString wire))

/-- A dictionary, in the order of its insertions. -/
abbrev Fields := List (Nat × List WireValue)

/-- `fields.setdefault(field, []).append(value)`. -/
def Fields.add : Fields → Nat × WireValue → Fields
  | [], (field, value) => [(field, [value])]
  | (other, values) :: fields, (field, value) =>
      if other = field then (other, values ++ [value]) :: fields
      else (other, values) :: add fields (field, value)

theorem length_readVarint {data rest : List UInt8} {n : Nat} (h : readVarint data = .ok (n, rest)) :
    rest.length < data.length := by
  have hloop : ∀ result shift, readVarintLoop data result shift = .ok (n, rest) →
      rest.length < data.length := by
    clear h
    induction data with
    | nil => exact fun _ _ h => (nomatch h)
    | cons b data ih =>
        intro result shift h
        rw [readVarintLoop] at h
        split at h
        · cases h
          exact Nat.lt_succ_self _
        · split at h
          · cases h
          · exact Nat.lt_succ_of_lt (ih _ _ h)
  exact hloop 0 0 h

theorem length_parseField {data rest : List UInt8} {field : Nat × WireValue}
    (h : parseField data = .ok (field, rest)) : rest.length < data.length := by
  obtain ⟨⟨tag, data'⟩, htag, h⟩ := bind_eq_ok h
  have htag := length_readVarint htag
  dsimp only at h
  split at h
  · obtain ⟨⟨value, data''⟩, hvalue, h⟩ := bind_eq_ok h
    have hvalue := length_readVarint hvalue
    cases h
    dsimp only
    omega
  · split at h
    · obtain ⟨⟨length, data''⟩, hlength, h⟩ := bind_eq_ok h
      have hlength := length_readVarint hlength
      cases h
      dsimp only
      rw [List.length_drop]
      omega
    · cases h

/-- The loop of `parse_fields`. -/
def parseLoop (data : List UInt8) (fields : Fields) : Except WireError Fields :=
  if data = [] then .ok fields
  else match _h : parseField data with
    | .error e => .error e
    | .ok (field, rest) => parseLoop rest (fields.add field)
termination_by data.length
decreasing_by exact length_parseField _h

/-- `parse_fields`. -/
def parseFields (data : List UInt8) : Except WireError Fields := parseLoop data []

/-! ## The format -/

/-- A number of at most ten bytes, as `read_varint` takes them. -/
def WireNumber (run : List UInt8) (n : Nat) : Prop := Varint run n ∧ run.length ≤ 10

/-- The bytes of one field. -/
inductive WireField : List UInt8 → Nat × WireValue → Prop
  | varint {keyRun valueRun : List UInt8} {tag value : Nat} :
      WireNumber keyRun tag → tag &&& 7 = wireVarint → WireNumber valueRun value →
      WireField (keyRun ++ valueRun) (tag >>> 3, .varint value)
  | bytes {keyRun lengthRun payload : List UInt8} {tag : Nat} :
      WireNumber keyRun tag → tag &&& 7 = wireLength → WireNumber lengthRun payload.length →
      WireField (keyRun ++ (lengthRun ++ payload)) (tag >>> 3, .bytes payload)

/-- The bytes of fields, one behind the other. -/
inductive WireFields : List UInt8 → List (Nat × WireValue) → Prop
  | nil : WireFields [] []
  | cons {run rest : List UInt8} {field : Nat × WireValue} {fields : List (Nat × WireValue)} :
      WireField run field → WireFields rest fields → WireFields (run ++ rest) (field :: fields)

/-- The buffer ends inside a field: behind whole fields comes the beginning of one. -/
def EndsInside (data : List UInt8) : Prop :=
  ∃ whole fields cut rest field, data = whole ++ cut ∧ WireFields whole fields ∧ cut ≠ [] ∧
    rest ≠ [] ∧ WireField (cut ++ rest) field

/-- The buffer ends inside the bytes of a length-delimited field: its key and its length are there. -/
def EndsInsidePayload (data : List UInt8) : Prop :=
  ∃ whole fields keyRun tag lengthRun length payload,
    data = whole ++ (keyRun ++ (lengthRun ++ payload)) ∧ WireFields whole fields ∧
      WireNumber keyRun tag ∧ tag &&& 7 = wireLength ∧ WireNumber lengthRun length ∧
      payload.length < length

/-! ## Decoding the format

What the decoder makes of a message of whole fields: induction over the runs of
the format, field by field. -/

theorem readVarint_of_number {run : List UInt8} {n : Nat} (h : WireNumber run n)
    (tail : List UInt8) : readVarint (run ++ tail) = .ok (n, tail) := by
  obtain ⟨hrun, hlength⟩ := h
  have hloop : ∀ result shift, shift + 7 * run.length ≤ 70 →
      readVarintLoop (run ++ tail) result shift = .ok (result ||| (n <<< shift), tail) := by
    clear hlength
    induction hrun with
    | @last b hb =>
        intro result shift _
        have hlow : b.toNat &&& 0x7F = b.toNat := by
          rw [Nat.and_two_pow_sub_one_eq_mod b.toNat 7]
          exact Nat.mod_eq_of_lt hb
        rw [List.singleton_append, readVarintLoop]
        simp only [(Varint.highBit_eq_zero_iff b).mpr hb, if_true, hlow]
    | @more b rest m hb hrest ih =>
        intro result shift hfit
        have hpos := List.length_pos_iff.mpr hrest.ne_nil
        rw [List.length_cons] at hfit
        have hhigh : ¬ b.toNat &&& 0x80 = 0 := by
          rw [Varint.highBit_eq_zero_iff]
          omega
        rw [List.cons_append, readVarintLoop]
        simp only [if_neg hhigh]
        rw [if_neg (by omega), ih _ _ (by omega), Varint.value_more, Nat.shiftLeft_or_distrib,
          ← Nat.shiftLeft_add, Nat.add_comm 7, Nat.or_assoc]
  have hstart := hloop 0 0 (by omega)
  rw [Nat.zero_or, Nat.shiftLeft_zero] at hstart
  exact hstart

/-- A number that is cut short is refused. -/
theorem readVarint_of_cut {cut : List UInt8} (h : ∀ b ∈ cut, 128 ≤ b.toNat) :
    ∃ e, readVarint cut = .error e := by
  have hloop : ∀ result shift, ∃ e, readVarintLoop cut result shift = .error e := by
    induction cut with
    | nil => exact fun _ _ => ⟨_, rfl⟩
    | cons b cut ih =>
        obtain ⟨hb, hcut⟩ := List.forall_mem_cons.mp h
        intro result shift
        have hhigh : ¬ b.toNat &&& 0x80 = 0 := by
          rw [Varint.highBit_eq_zero_iff]
          omega
        rw [readVarintLoop]
        simp only [if_neg hhigh]
        split
        · exact ⟨_, rfl⟩
        · exact ih hcut _ _
  exact hloop 0 0

section ParseField

variable {data data' rest : List UInt8} {tag : Nat}

theorem parseField_varint {value : Nat} (htag : readVarint data = .ok (tag, data'))
    (hwire : tag &&& 7 = wireVarint) (hvalue : readVarint data' = .ok (value, rest)) :
    parseField data = .ok ((tag >>> 3, .varint value), rest) := by
  unfold parseField
  rw [htag]
  simp only [bind, Except.bind, hwire, if_true, hvalue]
  rfl

theorem parseField_bytes {length : Nat} (htag : readVarint data = .ok (tag, data'))
    (hwire : tag &&& 7 = wireLength) (hlength : readVarint data' = .ok (length, rest)) :
    parseField data = .ok ((tag >>> 3, .bytes (rest.take length)), rest.drop length) := by
  have hne : ¬ wireLength = wireVarint := by decide
  unfold parseField
  rw [htag]
  simp only [bind, Except.bind, hwire, if_neg hne, if_true, hlength]
  rfl

theorem parseField_tag_error {e : WireError} (htag : readVarint data = .error e) :
    parseField data = .error e := by
  unfold parseField
  rw [htag]
  rfl

/-- Both kinds of fields have a second number. -/
theorem parseField_number_error {e : WireError} (htag : readVarint data = .ok (tag, data'))
    (hwire : tag &&& 7 = wireVarint ∨ tag &&& 7 = wireLength)
    (hnumber : readVarint data' = .error e) : parseField data = .error e := by
  unfold parseField
  rw [htag]
  rcases hwire with hwire | hwire <;>
    simp [bind, Except.bind, hwire, hnumber, wireVarint, wireLength]

end ParseField

theorem parseField_of_field {run : List UInt8} {field : Nat × WireValue}
    (h : WireField run field) (tail : List UInt8) : parseField (run ++ tail) = .ok (field, tail) := by
  cases h with
  | varint hkey hwire hvalue =>
      rw [List.append_assoc]
      exact parseField_varint (readVarint_of_number hkey _) hwire (readVarint_of_number hvalue _)
  | @bytes keyRun lengthRun payload tag hkey hwire hlength =>
      rw [List.append_assoc, List.append_assoc]
      have hfield := parseField_bytes (readVarint_of_number hkey (lengthRun ++ (payload ++ tail)))
        hwire (readVarint_of_number hlength (payload ++ tail))
      rw [List.take_left, List.drop_left] at hfield
      exact hfield

theorem WireField.ne_nil {run : List UInt8} {field : Nat × WireValue} (h : WireField run field) :
    run ≠ [] := by
  cases h with
  | varint hkey _ _ => exact List.append_ne_nil_of_left_ne_nil hkey.1.ne_nil _
  | bytes hkey _ _ => exact List.append_ne_nil_of_left_ne_nil hkey.1.ne_nil _

/-- The dictionary of some fields. -/
def Fields.addAll (fields : Fields) (added : List (Nat × WireValue)) : Fields :=
  added.foldl Fields.add fields

section ParseLoop

variable {data rest : List UInt8} (fields : Fields)

@[simp] theorem parseLoop_nil : parseLoop [] fields = .ok fields := by
  rw [parseLoop, if_pos rfl]

theorem parseLoop_ok {field : Nat × WireValue} (h : parseField data = .ok (field, rest)) :
    parseLoop data fields = parseLoop rest (fields.add field) := by
  have hne : data ≠ [] := by
    rintro rfl
    cases h
  rw [parseLoop, if_neg hne]
  split
  next e herror =>
    rw [h] at herror
    cases herror
  next field' rest' hok =>
    rw [h] at hok
    cases hok
    rfl

theorem parseLoop_error {e : WireError} (hne : data ≠ []) (h : parseField data = .error e) :
    parseLoop data fields = .error e := by
  rw [parseLoop, if_neg hne]
  split
  next e' herror =>
    rw [h] at herror
    cases herror
    rfl
  next field rest' hok =>
    rw [h] at hok
    cases hok

end ParseLoop

/-- Whole fields are read one after the other. -/
theorem parseLoop_of_fields {whole : List UInt8} {added : List (Nat × WireValue)}
    (h : WireFields whole added) (tail : List UInt8) (fields : Fields) :
    parseLoop (whole ++ tail) fields = parseLoop tail (fields.addAll added) := by
  induction h generalizing fields with
  | nil => rfl
  | @cons run rest field added hfield hrest ih =>
      rw [List.append_assoc, parseLoop_ok fields (parseField_of_field hfield (rest ++ tail))]
      exact ih (fields.add field)

/-! ## Buffers that end inside a field

A buffer that was cut ends inside a tag, a length, a number or a payload. All
but the last are refused, since a number is read to its end; a slice that is too
long is no error in Python. -/

theorem readVarint_of_cut_number {cut rest : List UInt8} {n : Nat}
    (h : WireNumber (cut ++ rest) n) (hrest : rest ≠ []) : ∃ e, readVarint cut = .error e :=
  readVarint_of_cut (h.1.high_of_cut hrest)

/-- Where a run of two parts is cut short: inside the first, or behind it. -/
theorem cut_cases {cut rest first second : List UInt8} (h : cut ++ rest = first ++ second) :
    (∃ missing, first = cut ++ missing ∧ missing ≠ []) ∨
      ∃ more, cut = first ++ more ∧ second = more ++ rest := by
  rcases List.append_eq_append_iff.mp h with ⟨missing, hfirst, hrest⟩ | ⟨more, hcut, hsecond⟩
  · by_cases hmissing : missing = []
    · subst hmissing
      exact .inr ⟨[], by rw [hfirst, List.append_nil, List.append_nil], by rw [hrest]; rfl⟩
    · exact .inl ⟨missing, hfirst, hmissing⟩
  · exact .inr ⟨more, hcut, hsecond⟩

/-- A field that is cut short is refused, unless it is cut inside its payload. -/
theorem parseField_of_cut {cut rest : List UInt8} {field : Nat × WireValue}
    (h : WireField (cut ++ rest) field) (hrest : rest ≠ []) :
    (∃ e, parseField cut = .error e) ∨
      ∃ keyRun tag lengthRun length payload, cut = keyRun ++ (lengthRun ++ payload) ∧
        WireNumber keyRun tag ∧ tag &&& 7 = wireLength ∧ WireNumber lengthRun length ∧
        payload.length < length := by
  generalize hrun : cut ++ rest = run at h
  cases h with
  | varint hkey hwire hvalue =>
      rcases cut_cases hrun with ⟨missing, rfl, hmissing⟩ | ⟨more, rfl, rfl⟩
      · obtain ⟨e, he⟩ := readVarint_of_cut_number hkey hmissing
        exact .inl ⟨e, parseField_tag_error he⟩
      · obtain ⟨e, he⟩ := readVarint_of_cut_number hvalue hrest
        exact .inl ⟨e, parseField_number_error (readVarint_of_number hkey _) (.inl hwire) he⟩
  | @bytes keyRun lengthRun payload tag hkey hwire hlength =>
      rcases cut_cases hrun with ⟨missing, rfl, hmissing⟩ | ⟨more, rfl, hmore⟩
      · obtain ⟨e, he⟩ := readVarint_of_cut_number hkey hmissing
        exact .inl ⟨e, parseField_tag_error he⟩
      · rcases cut_cases hmore.symm with ⟨missing, rfl, hmissing⟩ | ⟨front, rfl, rfl⟩
        · obtain ⟨e, he⟩ := readVarint_of_cut_number hlength hmissing
          exact .inl ⟨e, parseField_number_error (readVarint_of_number hkey _) (.inr hwire) he⟩
        · refine .inr ⟨keyRun, tag, lengthRun, _, front, rfl, hkey, hwire, hlength, ?_⟩
          rw [List.length_append]
          exact Nat.lt_add_of_pos_right (List.length_pos_iff.mpr hrest)

/-- A buffer that ends inside a payload is read, with the payload cut short. -/
theorem parseFields_of_cut_payload {data : List UInt8} (h : EndsInsidePayload data) :
    ∃ fields, parseFields data = .ok fields := by
  obtain ⟨whole, added, keyRun, tag, lengthRun, length, payload, rfl, hwhole, hkey, hwire, hlength,
    hshort⟩ := h
  have hparse := parseField_bytes (readVarint_of_number hkey (lengthRun ++ payload)) hwire
    (readVarint_of_number hlength payload)
  rw [List.drop_of_length_le (Nat.le_of_lt hshort)] at hparse
  rw [parseFields, parseLoop_of_fields hwhole, parseLoop_ok _ hparse, parseLoop_nil]
  exact ⟨_, rfl⟩

/-- Such a buffer does end inside a field. -/
theorem EndsInsidePayload.endsInside {data : List UInt8} (h : EndsInsidePayload data) :
    EndsInside data := by
  obtain ⟨whole, added, keyRun, tag, lengthRun, length, payload, rfl, hwhole, hkey, hwire, hlength,
    hshort⟩ := h
  refine ⟨whole, added, keyRun ++ (lengthRun ++ payload), List.replicate (length - payload.length) 0,
    (tag >>> 3, .bytes (payload ++ List.replicate (length - payload.length) 0)), rfl, hwhole,
    List.append_ne_nil_of_left_ne_nil hkey.1.ne_nil _, ?_, ?_⟩
  · exact List.ne_nil_of_length_pos (by rw [List.length_replicate]; omega)
  · rw [List.append_assoc, List.append_assoc]
    refine .bytes hkey hwire ?_
    rw [List.length_append, List.length_replicate, Nat.add_sub_cancel' (Nat.le_of_lt hshort)]
    exact hlength

/-- A buffer that ends inside a field is rejected. -/
def RejectsCut (data : List UInt8) : Prop :=
  EndsInside data → ∃ e, parseFields data = .error e

theorem rejectsCut_iff (data : List UInt8) : RejectsCut data ↔ ¬ EndsInsidePayload data := by
  constructor
  · intro hrejects hpayload
    obtain ⟨e, he⟩ := hrejects hpayload.endsInside
    obtain ⟨fields, hfields⟩ := parseFields_of_cut_payload hpayload
    rw [he] at hfields
    cases hfields
  · rintro hpayload ⟨whole, added, cut, rest, field, rfl, hwhole, hcut, hrest, hfield⟩
    rcases parseField_of_cut hfield hrest with ⟨e, he⟩ |
      ⟨keyRun, tag, lengthRun, length, payload, rfl, hkey, hwire, hlength, hshort⟩
    · refine ⟨e, ?_⟩
      rw [parseFields, parseLoop_of_fields hwhole, parseLoop_error _ hcut he]
    · exact absurd ⟨whole, added, keyRun, tag, lengthRun, length, payload, rfl, hwhole, hkey, hwire,
        hlength, hshort⟩ hpayload

/-! ## What the encoder writes

Numbers in groups of seven bits, for any number that 64 bits hold. -/

theorem varint_vintLoop (value : Nat) : Varint (vintLoop value) value := by
  induction value using vintLoop.induct with
  | case1 value hbig ih =>
      have hbyte : (UInt8.ofNat ((value &&& 0x7F) ||| 0x80)).toNat = value % 128 + 128 := by
        have hlow : value &&& 0x7F = value % 128 := Nat.and_two_pow_sub_one_eq_mod value 7
        have hlt : value % 128 < 2 ^ 7 := Nat.mod_lt _ (by decide)
        have hor : value % 128 ||| 0x80 = value % 128 + 128 := by
          rw [Nat.or_comm, Nat.add_comm]
          exact (Nat.two_pow_add_eq_or_of_lt hlt 1).symm
        rw [hlow, hor, UInt8.toNat_ofNat', Nat.mod_eq_of_lt (by omega)]
      have hvalue : value = (UInt8.ofNat ((value &&& 0x7F) ||| 0x80)).toNat % 128 +
          128 * (value >>> 7) := by
        rw [hbyte, Nat.shiftRight_eq_div_pow]
        omega
      rw [vintLoop, if_pos hbig]
      conv => rhs; rw [hvalue]
      exact .more (by omega) ih
  | case2 value hsmall =>
      have hbyte : (UInt8.ofNat value).toNat = value := by
        rw [UInt8.toNat_ofNat', Nat.mod_eq_of_lt (by omega)]
      rw [vintLoop, if_neg hsmall]
      conv => rhs; rw [← hbyte]
      exact .last (by omega)

theorem length_vintLoop {value count : Nat} (h : value < 128 ^ (count + 1)) :
    (vintLoop value).length ≤ count + 1 := by
  induction count generalizing value with
  | zero =>
      rw [vintLoop, if_neg (by omega)]
      exact Nat.le_refl 1
  | succ count ih =>
      rw [vintLoop]
      split
      · have hnext : value >>> 7 < 128 ^ (count + 1) := by
          rw [Nat.shiftRight_eq_div_pow]
          apply Nat.div_lt_of_lt_mul
          rw [Nat.pow_succ, Nat.mul_comm] at h
          exact h
        exact Nat.succ_le_succ (ih hnext)
      · exact Nat.succ_le_succ (Nat.zero_le _)

/-- `vint` writes the number, as far as 64 bits hold it. -/
theorem wireNumber_vint (value : Nat) : WireNumber (vint value) (value % 2 ^ 64) := by
  have hmask : value &&& 0xFFFFFFFFFFFFFFFF = value % 2 ^ 64 :=
    Nat.and_two_pow_sub_one_eq_mod value 64
  have hlt : value % 2 ^ 64 < 128 ^ (9 + 1) :=
    Nat.lt_of_lt_of_le (Nat.mod_lt _ (by decide)) (by decide)
  rw [vint, hmask]
  exact ⟨varint_vintLoop _, length_vintLoop hlt⟩

theorem wireNumber_vint_of_lt {value : Nat} (h : value < 2 ^ 64) :
    WireNumber (vint value) value := by
  have hvint := wireNumber_vint value
  rwa [Nat.mod_eq_of_lt h] at hvint

/-- A key holds the low 61 bits of the field number. -/
theorem key_spec (field : Nat) {wireType : Nat} (hwire : wireType < 8) :
    ∃ tag, WireNumber (key field wireType) tag ∧ tag &&& 7 = wireType ∧
      tag >>> 3 = field % 2 ^ 61 := by
  have hvalue : field <<< 3 ||| wireType = field * 8 + wireType := by
    rw [Nat.shiftLeft_eq, Nat.mul_comm]
    exact (Nat.two_pow_add_eq_or_of_lt (i := 3) hwire field).symm
  have htag := wireNumber_vint (field <<< 3 ||| wireType)
  rw [← key, hvalue] at htag
  refine ⟨_, htag, ?_, ?_⟩
  · rw [Nat.and_two_pow_sub_one_eq_mod _ 3]
    omega
  · rw [Nat.shiftRight_eq_div_pow]
    omega

/-! ## The round trip

Decoding what was encoded gives the dictionary of the fields, in the order in
which they were written. -/

/-- What the encoder is given for a field: a number of 64 bits, or bytes, of
which Python holds fewer than `2 ^ 63`. -/
inductive FieldValue where
  | varint (value : UInt64)
  | bytes (payload : { data : List UInt8 // data.length < 2 ^ 63 })

/-- A field, with its number. -/
structure Field where
  number : Nat
  value : FieldValue

namespace Field

/-- The pair that `parse_fields` has for the value. -/
def kindAndValue (f : Field) : WireValue :=
  match f.value with
  | .varint value => .varint value.toNat
  | .bytes payload => .bytes payload.1

def encode (f : Field) : List UInt8 :=
  match f.value with
  | .varint value => fVarint f.number value.toNat
  | .bytes payload => fMessage f.number payload.1

theorem wireField_encode (f : Field) : WireField f.encode (f.number % 2 ^ 61, f.kindAndValue) := by
  obtain ⟨number, value | payload⟩ := f
  · obtain ⟨tag, hkey, hwire, hnumber⟩ := key_spec number (show wireVarint < 8 by decide)
    have hfield := WireField.varint hkey hwire (wireNumber_vint_of_lt value.toNat_lt)
    rw [hnumber] at hfield
    exact hfield
  · obtain ⟨tag, hkey, hwire, hnumber⟩ := key_spec number (show wireLength < 8 by decide)
    have hfield := WireField.bytes hkey hwire
      (wireNumber_vint_of_lt (Nat.lt_trans payload.2 (by decide)))
    rw [hnumber, ← List.append_assoc] at hfield
    exact hfield

end Field

theorem wireFields_encode (fields : List Field) : WireFields (fields.flatMap Field.encode)
    (fields.map fun f => (f.number % 2 ^ 61, f.kindAndValue)) := by
  induction fields with
  | nil => exact .nil
  | cons f fields ih => exact .cons f.wireField_encode ih

/-- `fields.get(number, [])`. -/
def Fields.get (fields : Fields) (number : Nat) : List WireValue :=
  (fields.lookup number).getD []

@[simp] theorem Fields.get_nil (number : Nat) : Fields.get [] number = [] := rfl

theorem Fields.get_cons (number other : Nat) (values : List WireValue) (fields : Fields) :
    Fields.get ((other, values) :: fields) number =
      if other = number then values else fields.get number := by
  by_cases h : other = number
  · subst h
    simp [get]
  · have hne : (number == other) = false := beq_false_of_ne (Ne.symm h)
    simp [get, List.lookup_cons, hne, h]

theorem Fields.get_add (fields : Fields) (field : Nat × WireValue) (number : Nat) :
    (fields.add field).get number =
      fields.get number ++ if field.1 = number then [field.2] else [] := by
  induction fields with
  | nil => rw [add, get_cons, get_nil, List.nil_append]
  | cons entry fields ih =>
      obtain ⟨other, values⟩ := entry
      rw [add]
      split
      next hsame =>
        subst hsame
        rw [get_cons, get_cons]
        split
        · rfl
        · rw [List.append_nil]
      next hother =>
        rw [get_cons, get_cons, ih]
        split
        next hnumber => rw [if_neg fun h => hother (hnumber.trans h.symm), List.append_nil]
        next => rfl

theorem Fields.get_addAll (fields : Fields) (added : List (Nat × WireValue)) (number : Nat) :
    (fields.addAll added).get number =
      fields.get number ++ (added.filter (·.1 = number)).map (·.2) := by
  induction added generalizing fields with
  | nil => simp [addAll]
  | cons field added ih =>
      show ((fields.add field).addAll added).get number = _
      rw [ih, get_add]
      by_cases h : field.1 = number <;> simp [h]

/-- The fields come back: under each number the values of the fields with that
number, in their order and with their wire types. -/
def Recovers (fields : List Field) : Prop :=
  ∃ parsed, parseFields (fields.flatMap Field.encode) = .ok parsed ∧
    ∀ number, parsed.get number =
      (fields.filter (·.number = number)).map Field.kindAndValue

theorem parseFields_encode (fields : List Field) :
    parseFields (fields.flatMap Field.encode) =
      .ok (Fields.addAll [] (fields.map fun f => (f.number % 2 ^ 61, f.kindAndValue))) := by
  have hloop := parseLoop_of_fields (wireFields_encode fields) [] []
  rw [List.append_nil, parseLoop_nil] at hloop
  exact hloop

theorem recovers_iff (fields : List Field) :
    Recovers fields ↔ ∀ f ∈ fields, f.number < 2 ^ 61 := by
  have hparsed : ∀ number, (Fields.addAll [] (fields.map fun f =>
      (f.number % 2 ^ 61, f.kindAndValue))).get number =
        (fields.filter fun f => f.number % 2 ^ 61 = number).map Field.kindAndValue := by
    intro number
    rw [Fields.get_addAll, Fields.get_nil, List.nil_append, List.filter_map, List.map_map]
    rfl
  constructor
  · rintro ⟨parsed, hok, hget⟩ f hf
    rw [parseFields_encode] at hok
    cases hok
    -- a number that does not fit comes back as a smaller one, and under its own there is nothing
    by_contra hlarge
    have hnone := hget f.number
    rw [hparsed] at hnone
    have hleft : (fields.filter fun g => g.number % 2 ^ 61 = f.number) = [] := by
      rw [List.filter_eq_nil_iff]
      intro g _
      have hlt : g.number % 2 ^ 61 < 2 ^ 61 := Nat.mod_lt _ (by decide)
      rw [decide_eq_true_eq]
      omega
    rw [hleft, List.map_nil, eq_comm, List.map_eq_nil_iff, List.filter_eq_nil_iff] at hnone
    exact hnone f hf (decide_eq_true rfl)
  · intro hfit
    refine ⟨_, parseFields_encode fields, fun number => ?_⟩
    rw [hparsed]
    congr 1
    apply List.filter_congr
    intro f hf
    rw [Nat.mod_eq_of_lt (hfit f hf)]

/-! ## The codec -/

/-- The numbers come back, the fields do where a key holds their numbers, and a
buffer that ends inside a field is rejected exactly when it does not end inside
a payload. -/
theorem codec_iff (value : UInt64) (tail : List UInt8) (fields : List Field) (data : List UInt8) :
    readVarint (vint value.toNat ++ tail) = .ok (value.toNat, tail) ∧
    (Recovers fields ↔ ∀ f ∈ fields, f.number < 2 ^ 61) ∧
    (RejectsCut data ↔ ¬ EndsInsidePayload data) :=
  ⟨readVarint_of_number (wireNumber_vint_of_lt value.toNat_lt) tail, recovers_iff fields,
    rejectsCut_iff data⟩

/-- Field 1 says five bytes, and one is there. -/
theorem cut_payload_accepted :
    EndsInside [0x0A, 0x05, 0x61] ∧ ∃ fields, parseFields [0x0A, 0x05, 0x61] = .ok fields ∧
      fields.get 1 = [.bytes [0x61]] := by
  have hkey : WireNumber [0x0A] 10 := ⟨.last (by decide), by decide⟩
  have hlength : WireNumber [0x05] 5 := ⟨.last (by decide), by decide⟩
  have hfield : WireField ([0x0A, 0x05, 0x61] ++ [0, 0, 0, 0]) _ :=
    @WireField.bytes [0x0A] [0x05] [0x61, 0, 0, 0, 0] _ hkey (by decide) hlength
  have hparse := parseField_bytes (readVarint_of_number hkey [0x05, 0x61]) (by decide)
    (readVarint_of_number hlength [0x61])
  exact ⟨⟨[], [], _, _, _, rfl, .nil, by decide, by decide, hfield⟩, _,
    (parseLoop_ok [] hparse).trans (parseLoop_nil _), by decide⟩

end SpatialPlatform.Engine.SpatialWire
