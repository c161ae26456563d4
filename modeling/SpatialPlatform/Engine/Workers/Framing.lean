import Mathlib.Algebra.Group.Nat.Defs
import Mathlib.Data.Nat.Log
import SpatialPlatform.Lib.LengthPrefix
import SpatialPlatform.Lib.Machine

/-!
# Frames on a worker's pipe

`engine/workers/protocol_framing.cpp`. The child's stdout is an `Arrival` list:
what the successive `ReadStdout` calls meet, chunks of bytes and expired waits.
Everything after the list is one long wait, or the end of the stream once the
child has closed it.

* `readExact_of_le`, `readExact_of_lt` — what `ReadExact` reads, and what it
  throws away when its time is up.
* `readAll_faithful_iff` — successive `ReadFrame` calls deliver the frames
  written exactly when no call runs out of time in the middle of a frame.
-/

namespace SpatialPlatform.Engine

open SpatialPlatform.Lib

/-! ## The length prefix -/

/-- The 64 MiB protocol guard. -/
def kMaxFrameSize : Nat := 2 ^ 26

/-- Four bytes, little endian. -/
def prefixBytes (length : Nat) : List UInt8 :=
  [UInt8.ofNat length, UInt8.ofNat (length >>> 8), UInt8.ofNat (length >>> 16),
    UInt8.ofNat (length >>> 24)]

def prefixLength : List UInt8 → Nat
  | [b₀, b₁, b₂, b₃] =>
      b₀.toNat + b₁.toNat * 2 ^ 8 + b₂.toNat * 2 ^ 16 + b₃.toNat * 2 ^ 24
  | _ => 0

theorem prefixLength_prefixBytes {length : Nat} (h : length < 2 ^ 32) :
    prefixLength (prefixBytes length) = length := by
  rw [prefixBytes, prefixLength]
  simp only [UInt8.toNat_ofNat', Nat.shiftRight_eq_div_pow]
  omega

theorem prefixWidth_pos : 0 < 4 := by decide

/-- The frame format of the worker protocol. -/
def frameCode : LengthCode UInt8 where
  width := 4
  limit := kMaxFrameSize
  encode := prefixBytes
  decode := prefixLength
  width_pos := prefixWidth_pos
  length_encode _ := rfl
  decode_encode n hn := prefixLength_prefixBytes (Nat.lt_of_le_of_lt hn (by decide))

/-- `WriteFrame`, up to the pipe: the bytes of one message, unless it is too long. -/
def writeFrame (message : List UInt8) : Option (List UInt8) :=
  if message.length > kMaxFrameSize then none else some (frameCode.frame message)

/-! ## Reading -/

/-- What the next `ReadStdout` calls meet. -/
inductive Arrival where
  /-- Bytes that are there; a call takes as many of them as it has room for. -/
  | chunk (bytes : List UInt8)
  /-- A call waits its whole slice in vain. -/
  | timeout
  deriving DecidableEq, Repr

/-- Why `ReadFrame` returned false. -/
inductive ReadError where
  | timedOut
  | eof
  | oversized
  deriving DecidableEq, Repr

/-- What is left of the time after a wait in vain. -/
def timeLeft (timeoutMs : Int) : Int := max 0 (timeoutMs - (timeoutMs / 2 + 1))

/-- `ReadExact`: the loop over the remaining length, the remaining time and the
bytes read so far; with its result, what is left on the pipe. `closed` says
whether the stream ends after the arrivals. -/
def readExact (closed : Bool) :
    List Arrival → Nat → Int → List UInt8 → Except ReadError (List UInt8) × List Arrival
  | arrivals, 0, _, got => (.ok got, arrivals)
  | [], _ + 1, _, _ => (.error (if closed then .eof else .timedOut), [])
  | .timeout :: arrivals, length + 1, timeoutMs, got =>
      if timeoutMs ≤ 0 then (.error .timedOut, arrivals)
      else readExact closed arrivals (length + 1) (timeLeft timeoutMs) got
  | .chunk bytes :: arrivals, length + 1, timeoutMs, got =>
      if length + 1 < bytes.length then
        (.ok (got ++ bytes.take (length + 1)), .chunk (bytes.drop (length + 1)) :: arrivals)
      else readExact closed arrivals (length + 1 - bytes.length) timeoutMs (got ++ bytes)

/-- `ReadFrame`. The bytes of a rejected or unfinished frame are gone from the pipe. -/
def readFrame (closed : Bool) (timeoutMs : Int) (arrivals : List Arrival) :
    Except ReadError (List UInt8) × List Arrival :=
  match readExact closed arrivals 4 timeoutMs [] with
  | (.error error, arrivals) => (.error error, arrivals)
  | (.ok pre, arrivals) =>
      if prefixLength pre > kMaxFrameSize then (.error .oversized, arrivals)
      else readExact closed arrivals (prefixLength pre) timeoutMs []

/-! ## What a read gets

A read waits as long as its patience lasts: each wait in vain halves the time
that is left. So whether a read gets its bytes is a comparison of two numbers;
the inductions are over the arrivals, for any bytes already got. -/

/-- The bytes still to come. -/
def bytesOf : List Arrival → List UInt8
  | [] => []
  | .chunk bytes :: arrivals => bytes ++ bytesOf arrivals
  | .timeout :: arrivals => bytesOf arrivals

/-- How many waits in vain a call survives: each one halves the time that is left. -/
def patience (timeoutMs : Int) : Nat := Nat.log 2 (timeoutMs.toNat + 1)

/-- How many bytes arrive before patience is exhausted. -/
def available : Nat → List Arrival → Nat
  | _, [] => 0
  | waits, .chunk bytes :: arrivals => bytes.length + available waits arrivals
  | 0, .timeout :: _ => 0
  | waits + 1, .timeout :: arrivals => available waits arrivals

/-- The time of a read runs out: its patience is exhausted before the bytes are
there. At the end of a closed stream a read fails at once, and no time runs out. -/
def runsOut (closed : Bool) : Nat → Nat → List Arrival → Bool
  | _, 0, _ => false
  | _, _ + 1, [] => !closed
  | 0, _ + 1, .timeout :: _ => true
  | waits + 1, length + 1, .timeout :: arrivals => runsOut closed waits (length + 1) arrivals
  | waits, length + 1, .chunk bytes :: arrivals =>
      runsOut closed waits (length + 1 - bytes.length) arrivals

/-- The pipe after `n` more bytes are read. -/
def dropBytes : Nat → List Arrival → List Arrival
  | 0, arrivals => arrivals
  | _ + 1, [] => []
  | n + 1, .timeout :: arrivals => dropBytes (n + 1) arrivals
  | n + 1, .chunk bytes :: arrivals =>
      if n + 1 < bytes.length then .chunk (bytes.drop (n + 1)) :: arrivals
      else dropBytes (n + 1 - bytes.length) arrivals

theorem patience_of_nonpos {timeoutMs : Int} (h : timeoutMs ≤ 0) : patience timeoutMs = 0 := by
  simp [patience, Int.toNat_of_nonpos h]

theorem patience_timeLeft {timeoutMs : Int} (h : 0 < timeoutMs) :
    patience timeoutMs = patience (timeLeft timeoutMs) + 1 := by
  have hhalf : (timeLeft timeoutMs).toNat + 1 = (timeoutMs.toNat + 1) / 2 := by
    unfold timeLeft
    omega
  rw [patience, patience, hhalf, Nat.log_div_base]
  have hpos : 0 < Nat.log 2 (timeoutMs.toNat + 1) := Nat.log_pos (by decide) (by omega)
  omega

theorem available_le (waits : Nat) (arrivals : List Arrival) :
    available waits arrivals ≤ (bytesOf arrivals).length := by
  induction arrivals generalizing waits with
  | nil => simp [available]
  | cons arrival arrivals ih =>
      cases arrival with
      | chunk bytes =>
          have := ih waits
          simp only [available, bytesOf, List.length_append]
          omega
      | timeout =>
          cases waits with
          | zero => simp [available]
          | succ waits => exact ih waits

theorem bytesOf_dropBytes (n : Nat) (arrivals : List Arrival) :
    bytesOf (dropBytes n arrivals) = (bytesOf arrivals).drop n := by
  induction arrivals generalizing n with
  | nil => cases n <;> simp [dropBytes, bytesOf]
  | cons arrival arrivals ih =>
      cases n with
      | zero => simp [dropBytes]
      | succ n =>
          cases arrival with
          | timeout => exact ih (n + 1)
          | chunk bytes =>
              rw [dropBytes, bytesOf]
              split
              · next hlt => rw [bytesOf, List.drop_append_of_le_length (Nat.le_of_lt hlt)]
              · next hge =>
                  rw [ih, List.drop_append, List.drop_of_length_le (Nat.le_of_not_lt hge),
                    List.nil_append]

/-- `ReadExact` succeeds when the bytes arrive before its patience is exhausted. -/
theorem readExact_of_le (closed : Bool) {arrivals : List Arrival} {length : Nat} {timeoutMs : Int}
    {got : List UInt8} (h : length ≤ available (patience timeoutMs) arrivals) :
    readExact closed arrivals length timeoutMs got =
      (.ok (got ++ (bytesOf arrivals).take length), dropBytes length arrivals) := by
  induction arrivals generalizing length timeoutMs got with
  | nil =>
      obtain rfl : length = 0 := by simpa [available] using h
      simp [readExact, dropBytes]
  | cons arrival arrivals ih =>
      cases length with
      | zero => simp [readExact, dropBytes]
      | succ length =>
          cases arrival with
          | timeout =>
              rcases Int.lt_or_le 0 timeoutMs with hpos | hneg
              · rw [patience_timeLeft hpos] at h
                rw [readExact, if_neg (by omega), ih h]
                rfl
              · rw [patience_of_nonpos hneg] at h
                simp [available] at h
          | chunk bytes =>
              rw [readExact, dropBytes, bytesOf]
              split
              · next hlt => rw [List.take_append_of_le_length (Nat.le_of_lt hlt)]
              · next hge =>
                  rw [available] at h
                  rw [ih (by omega), List.append_assoc, List.take_append,
                    List.take_of_length_le (Nat.le_of_not_lt hge)]

theorem runsOut_of_le (closed : Bool) {waits length : Nat} {arrivals : List Arrival}
    (h : length ≤ available waits arrivals) : runsOut closed waits length arrivals = false := by
  induction arrivals generalizing waits length with
  | nil =>
      obtain rfl : length = 0 := by simpa [available] using h
      rfl
  | cons arrival arrivals ih =>
      cases length with
      | zero => rfl
      | succ length =>
          cases arrival with
          | chunk bytes =>
              rw [available] at h
              rw [runsOut]
              exact ih (by omega)
          | timeout =>
              cases waits with
              | zero => simp [available] at h
              | succ waits => exact ih h

/-- Otherwise it fails, when its time runs out or at the end of the stream, and
the bytes that had arrived are lost. -/
theorem readExact_of_lt (closed : Bool) {arrivals : List Arrival} {length : Nat} {timeoutMs : Int}
    {got : List UInt8} (h : available (patience timeoutMs) arrivals < length) :
    (readExact closed arrivals length timeoutMs got).1 =
        .error (if runsOut closed (patience timeoutMs) length arrivals then .timedOut else .eof) ∧
      bytesOf (readExact closed arrivals length timeoutMs got).2 =
        (bytesOf arrivals).drop (available (patience timeoutMs) arrivals) := by
  induction arrivals generalizing length timeoutMs got with
  | nil =>
      cases length with
      | zero => simp [available] at h
      | succ length => cases closed <;> simp [readExact, runsOut, bytesOf]
  | cons arrival arrivals ih =>
      cases length with
      | zero => omega
      | succ length =>
          cases arrival with
          -- the time is halved, or over
          | timeout =>
              rcases Int.lt_or_le 0 timeoutMs with hpos | hneg
              · rw [patience_timeLeft hpos] at h ⊢
                rw [readExact, if_neg (by omega)]
                exact ih h
              · rw [patience_of_nonpos hneg, readExact, if_pos hneg]
                exact ⟨rfl, rfl⟩
          | chunk bytes =>
              rw [available] at h ⊢
              rw [readExact, if_neg (by omega), runsOut]
              have hlt : available (patience timeoutMs) arrivals < length + 1 - bytes.length := by
                omega
              obtain ⟨herror, hrest⟩ := @ih _ _ (got ++ bytes) hlt
              refine ⟨herror, ?_⟩
              rw [hrest, bytesOf, List.drop_length_add_append]

/-- A read that fails without running out of time has met the end of the stream:
nothing is left, and nothing more was to come. -/
theorem readExact_of_eof {closed : Bool} {arrivals : List Arrival} {length : Nat} {timeoutMs : Int}
    {got : List UInt8} (h : available (patience timeoutMs) arrivals < length)
    (hclosed : runsOut closed (patience timeoutMs) length arrivals = false) :
    (readExact closed arrivals length timeoutMs got).2 = [] ∧ (bytesOf arrivals).length < length := by
  induction arrivals generalizing length timeoutMs got with
  | nil =>
      cases length with
      | zero => simp [available] at h
      | succ length => simp [readExact, bytesOf]
  | cons arrival arrivals ih =>
      cases length with
      | zero => omega
      | succ length =>
          cases arrival with
          | timeout =>
              rcases Int.lt_or_le 0 timeoutMs with hpos | hneg
              · rw [patience_timeLeft hpos] at h hclosed
                rw [readExact, if_neg (by omega)]
                exact ih h hclosed
              · rw [patience_of_nonpos hneg, runsOut] at hclosed
                cases hclosed
          | chunk bytes =>
              rw [available] at h
              rw [runsOut] at hclosed
              rw [readExact, if_neg (by omega), bytesOf, List.length_append]
              obtain ⟨hrest, hlt⟩ := @ih _ _ (got ++ bytes) (by omega) hclosed
              exact ⟨hrest, by omega⟩

/-! ## One frame

A frame is read by two reads. The first one may fail without harm if not a byte
of the prefix has arrived; otherwise what was read is lost when the time runs
out. -/

/-- When the time of the call runs out, no frame is half read: it runs out
before a byte has arrived, and not in the body that a prefix announces. -/
def Timely (closed : Bool) (timeoutMs : Int) (arrivals : List Arrival) : Prop :=
  (runsOut closed (patience timeoutMs) 4 arrivals = true →
      available (patience timeoutMs) arrivals = 0) ∧
    (4 ≤ available (patience timeoutMs) arrivals →
      runsOut closed (patience timeoutMs) (prefixLength ((bytesOf arrivals).take 4))
        (dropBytes 4 arrivals) = false)

instance (closed : Bool) (timeoutMs : Int) (arrivals : List Arrival) :
    Decidable (Timely closed timeoutMs arrivals) :=
  inferInstanceAs (Decidable (_ ∧ _))

section frame

variable {closed : Bool} {timeoutMs : Int} {arrivals : List Arrival} {frames : List (List UInt8)}

theorem readFrame_of_error {error : ReadError}
    (h : (readExact closed arrivals 4 timeoutMs []).1 = .error error) :
    readFrame closed timeoutMs arrivals =
      (.error error, (readExact closed arrivals 4 timeoutMs []).2) := by
  unfold readFrame
  rcases hread : readExact closed arrivals 4 timeoutMs [] with ⟨_ | _, _⟩ <;> simp_all

theorem readFrame_of_length (h : 4 ≤ available (patience timeoutMs) arrivals) :
    readFrame closed timeoutMs arrivals =
      if prefixLength ((bytesOf arrivals).take 4) > kMaxFrameSize then
        (.error .oversized, dropBytes 4 arrivals)
      else readExact closed (dropBytes 4 arrivals) (prefixLength ((bytesOf arrivals).take 4))
        timeoutMs [] := by
  simp only [readFrame, readExact_of_le closed h, List.nil_append]

/-- The prefix at the head of the stream announces the first frame. -/
theorem prefixLength_of_stream (hpre : bytesOf arrivals <+: frameCode.stream frames)
    (hfits : frameCode.Fits frames) (h : 4 ≤ (bytesOf arrivals).length) :
    ∃ body rest, frames = body :: rest ∧
      prefixLength ((bytesOf arrivals).take 4) = body.length ∧ body.length ≤ kMaxFrameSize := by
  cases frames with
  | nil =>
      have hlen := hpre.length_le
      simp only [LengthCode.stream_nil, List.length_nil] at hlen
      omega
  | cons body rest =>
      have hbody := hfits body List.mem_cons_self
      exact ⟨body, rest, rfl, LengthCode.decode_take hpre hbody h, hbody⟩

/-- A call that stays in the prefix takes nothing, or finds the stream ended in it. -/
theorem readFrame_of_short_head (hlt : available (patience timeoutMs) arrivals < 4)
    (h : Timely closed timeoutMs arrivals) :
    (available (patience timeoutMs) arrivals = 0 ∧
      (readFrame closed timeoutMs arrivals).1 = .error .timedOut ∧
        bytesOf (readFrame closed timeoutMs arrivals).2 = bytesOf arrivals) ∨
    (readFrame closed timeoutMs arrivals = (.error .eof, []) ∧
      (bytesOf arrivals = frameCode.stream frames → frames = [])) := by
  obtain ⟨herror, hrest⟩ := @readExact_of_lt closed _ _ _ [] hlt
  rw [readFrame_of_error herror]
  cases hout : runsOut closed (patience timeoutMs) 4 arrivals with
  | true =>
      have hnone := h.1 hout
      exact Or.inl ⟨hnone, rfl, by rw [hrest, hnone, List.drop_zero]⟩
  | false =>
      obtain ⟨hend, hshort⟩ := @readExact_of_eof closed _ _ _ [] hlt hout
      refine Or.inr ⟨by rw [hend]; rfl, fun hall => ?_⟩
      cases frames with
      | nil => rfl
      | cons body rest =>
          have hwidth : (frameCode.frame body).length = 4 + body.length := frameCode.length_frame body
          rw [hall, LengthCode.stream_cons, List.length_append] at hshort
          omega

section body

variable {body : List UInt8} {rest : List (List UInt8)}
  (hhead : 4 ≤ available (patience timeoutMs) arrivals)
  (hdecode : prefixLength ((bytesOf arrivals).take 4) = body.length)
  (hmax : body.length ≤ kMaxFrameSize)

include hhead hdecode hmax

/-- Behind a prefix within the limit the call reads the body. -/
theorem readFrame_of_head : readFrame closed timeoutMs arrivals =
    readExact closed (dropBytes 4 arrivals) body.length timeoutMs [] := by
  rw [readFrame_of_length hhead, hdecode, if_neg (Nat.not_lt.mpr hmax)]

/-- A body that is cut short by the end of the stream. -/
theorem readFrame_of_short_body
    (hlt : available (patience timeoutMs) (dropBytes 4 arrivals) < body.length)
    (hin : runsOut closed (patience timeoutMs) body.length (dropBytes 4 arrivals) = false) :
    readFrame closed timeoutMs arrivals = (.error .eof, []) ∧
      bytesOf arrivals ≠ frameCode.stream (body :: rest) := by
  obtain ⟨herror, -⟩ := @readExact_of_lt closed _ _ _ [] hlt
  obtain ⟨hend, hshort⟩ := @readExact_of_eof closed _ _ _ [] hlt hin
  rw [hin] at herror
  refine ⟨(readFrame_of_head hhead hdecode hmax).trans (Prod.ext herror hend), fun hall => ?_⟩
  have hwidth : (frameCode.frame body).length = 4 + body.length := frameCode.length_frame body
  rw [bytesOf_dropBytes, List.length_drop, hall, LengthCode.stream_cons,
    List.length_append] at hshort
  omega

/-- A body that arrives in time is returned, and not a byte more is taken. -/
theorem readFrame_of_whole_body (hpre : bytesOf arrivals <+: frameCode.stream (body :: rest))
    (hbody : body.length ≤ available (patience timeoutMs) (dropBytes 4 arrivals)) :
    readFrame closed timeoutMs arrivals =
        (.ok body, dropBytes body.length (dropBytes 4 arrivals)) ∧
      bytesOf arrivals = frameCode.frame body ++
        bytesOf (dropBytes body.length (dropBytes 4 arrivals)) := by
  have hlen4 : 4 ≤ (bytesOf arrivals).length := Nat.le_trans hhead (available_le _ _)
  have hwhole : frameCode.width + body.length ≤ (bytesOf arrivals).length := by
    have hle := available_le (patience timeoutMs) (dropBytes 4 arrivals)
    rw [bytesOf_dropBytes, List.length_drop] at hle
    show 4 + body.length ≤ _
    omega
  obtain ⟨tail, htail, _⟩ := LengthCode.stream_cons_split hpre hwhole
  have hdrop : (bytesOf arrivals).drop 4 = body ++ tail := by
    rw [htail]
    exact frameCode.drop_width_frame body tail
  constructor
  · rw [readFrame_of_head hhead hdecode hmax, readExact_of_le closed hbody, bytesOf_dropBytes,
      List.nil_append, hdrop, List.take_left]
  · rw [bytesOf_dropBytes, bytesOf_dropBytes, hdrop, List.drop_left, htail]

end body

/-- A timely call delivers the next frame, or reads nothing, or finds the stream ended. -/
theorem readFrame_of_timely (hpre : bytesOf arrivals <+: frameCode.stream frames)
    (hfits : frameCode.Fits frames) (h : Timely closed timeoutMs arrivals) :
    (available (patience timeoutMs) arrivals = 0 ∧
      (readFrame closed timeoutMs arrivals).1 = .error .timedOut ∧
        bytesOf (readFrame closed timeoutMs arrivals).2 = bytesOf arrivals) ∨
    (readFrame closed timeoutMs arrivals = (.error .eof, []) ∧
      (bytesOf arrivals = frameCode.stream frames → frames = [])) ∨
    ∃ body rest, frames = body :: rest ∧
      readFrame closed timeoutMs arrivals =
        (.ok body, dropBytes body.length (dropBytes 4 arrivals)) ∧
      bytesOf arrivals = frameCode.frame body ++
        bytesOf (dropBytes body.length (dropBytes 4 arrivals)) := by
  rcases Nat.lt_or_ge (available (patience timeoutMs) arrivals) 4 with hlt | hhead
  · exact (readFrame_of_short_head hlt h).imp_right Or.inl
  · have hlen4 : 4 ≤ (bytesOf arrivals).length := Nat.le_trans hhead (available_le _ _)
    obtain ⟨body, rest, rfl, hdecode, hmax⟩ := prefixLength_of_stream hpre hfits hlen4
    have hin := h.2 hhead
    rw [hdecode] at hin
    rcases Nat.lt_or_ge (available (patience timeoutMs) (dropBytes 4 arrivals)) body.length with
      hlt | hbody
    · obtain ⟨hend, hcut⟩ :=
        @readFrame_of_short_body closed _ _ _ rest hhead hdecode hmax hlt hin
      exact Or.inr (Or.inl ⟨hend, fun hall => absurd hall hcut⟩)
    · exact Or.inr (Or.inr ⟨body, rest, rfl,
        readFrame_of_whole_body hhead hdecode hmax hpre hbody⟩)

/-- A call that is not timely throws bytes away when its time runs out, unless
it takes what it reads for the prefix of an oversized frame. -/
theorem readFrame_of_not_timely (h : ¬ Timely closed timeoutMs arrivals) :
    (readFrame closed timeoutMs arrivals).1 = .error .oversized ∨
      (readFrame closed timeoutMs arrivals).1 = .error .timedOut ∧
        bytesOf (readFrame closed timeoutMs arrivals).2 ≠ bytesOf arrivals := by
  have hle := available_le (patience timeoutMs) arrivals
  -- fewer bytes are left, so they are not the same
  have hshort : ∀ bytes : List UInt8, bytes.length < (bytesOf arrivals).length →
      bytes ≠ bytesOf arrivals := fun bytes hlt heq => by simp [heq] at hlt
  rcases Nat.lt_or_ge (available (patience timeoutMs) arrivals) 4 with hlt | hhead
  · obtain ⟨herror, hrest⟩ := @readExact_of_lt closed _ _ _ [] hlt
    obtain ⟨hout, hsome⟩ : runsOut closed (patience timeoutMs) 4 arrivals = true ∧
        available (patience timeoutMs) arrivals ≠ 0 := by
      by_contra hnot
      exact h ⟨fun hout => not_not.mp fun hsome => hnot ⟨hout, hsome⟩, fun hhead => by omega⟩
    rw [readFrame_of_error herror, hout]
    refine Or.inr ⟨rfl, hshort _ ?_⟩
    rw [hrest, List.length_drop]
    omega
  · have hout : runsOut closed (patience timeoutMs) (prefixLength ((bytesOf arrivals).take 4))
        (dropBytes 4 arrivals) = true := by
      rw [← Bool.not_eq_false]
      intro hin
      refine h ⟨fun hout => ?_, fun _ => hin⟩
      rw [runsOut_of_le closed hhead] at hout
      cases hout
    rw [readFrame_of_length hhead]
    split
    · exact Or.inl rfl
    · have hlt : available (patience timeoutMs) (dropBytes 4 arrivals) <
          prefixLength ((bytesOf arrivals).take 4) := by
        by_contra hge
        rw [runsOut_of_le closed (Nat.le_of_not_lt hge)] at hout
        cases hout
      obtain ⟨herror, hrest⟩ := @readExact_of_lt closed _ _ _ [] hlt
      rw [hout] at herror
      refine Or.inr ⟨herror, hshort _ ?_⟩
      rw [hrest, List.length_drop, bytesOf_dropBytes, List.length_drop]
      omega

end frame

/-! ## Waits in vain

A call that loses bytes has waited at least once without any coming. -/

/-- The waits in vain still to come. -/
def timeouts (arrivals : List Arrival) : Nat := arrivals.count .timeout

theorem timeouts_dropBytes_le (n : Nat) (arrivals : List Arrival) :
    timeouts (dropBytes n arrivals) ≤ timeouts arrivals := by
  induction arrivals generalizing n with
  | nil => cases n <;> simp [dropBytes]
  | cons arrival arrivals ih =>
      cases n with
      | zero => simp [dropBytes]
      | succ n =>
          cases arrival with
          | timeout =>
              have hle := ih (n + 1)
              simp only [dropBytes, timeouts, List.count_cons_self] at hle ⊢
              omega
          | chunk bytes =>
              rw [dropBytes]
              split
              · simp [timeouts]
              · simpa [timeouts] using ih (n + 1 - bytes.length)

/-- A call that reads nothing although bytes are to come has waited in vain. -/
theorem timeouts_readExact_lt (closed : Bool) {arrivals : List Arrival} {length : Nat}
    {timeoutMs : Int} {got : List UInt8} (hnone : available (patience timeoutMs) arrivals = 0)
    (hmore : bytesOf arrivals ≠ []) (hlen : 0 < length) :
    timeouts (readExact closed arrivals length timeoutMs got).2 < timeouts arrivals := by
  induction arrivals generalizing length timeoutMs got with
  | nil => exact absurd rfl hmore
  | cons arrival arrivals ih =>
      obtain ⟨length, rfl⟩ : ∃ m, length = m + 1 := ⟨length - 1, by omega⟩
      cases arrival with
      | timeout =>
          rw [readExact]
          split
          · simp [timeouts]
          · next hpos =>
              rw [patience_timeLeft (by omega)] at hnone
              have hlt := @ih _ _ got hnone hmore hlen
              simp only [timeouts, List.count_cons_self] at hlt ⊢
              omega
      | chunk bytes =>
          have hempty : bytes = [] := by
            have hzero : bytes.length = 0 := by
              rw [available] at hnone
              omega
            exact List.eq_nil_of_length_eq_zero hzero
          subst hempty
          simpa [readExact, timeouts] using @ih _ _ got (by simpa [available] using hnone) hmore hlen

/-! ## Successive calls

Induction over the calls. What is carried along is that the pipe holds the
stream of the frames that are still due; a call that is not timely takes bytes
from the middle of it. -/

/-- The results of successive `ReadFrame` calls with the given timeouts, and what is left. -/
def readAll (closed : Bool) :
    List Int → List Arrival → List (Except ReadError (List UInt8)) × List Arrival
  | [], arrivals => ([], arrivals)
  | timeoutMs :: calls, arrivals =>
      let (result, rest) := readFrame closed timeoutMs arrivals
      let (results, rest) := readAll closed calls rest
      (result :: results, rest)

/-- The frames among the results. -/
def delivered (results : List (Except ReadError (List UInt8))) : List (List UInt8) :=
  results.filterMap Except.toOption

/-- Every call, with the pipe as it finds it, meets `ok`. -/
def Throughout (closed : Bool) (ok : Int → List Arrival → Prop) : List Int → List Arrival → Prop
  | [], _ => True
  | timeoutMs :: calls, arrivals =>
      ok timeoutMs arrivals ∧ Throughout closed ok calls (readFrame closed timeoutMs arrivals).2

instance (closed : Bool) (ok : Int → List Arrival → Prop) [∀ t a, Decidable (ok t a)] :
    ∀ calls arrivals, Decidable (Throughout closed ok calls arrivals)
  | [], _ => .isTrue trivial
  | timeoutMs :: calls, arrivals =>
      have : Decidable (Throughout closed ok calls (readFrame closed timeoutMs arrivals).2) :=
        instDecidableThroughout closed ok calls _
      inferInstanceAs (Decidable (_ ∧ _))

/-- A call that times out leaves all bytes on the pipe. -/
def Lossless (closed : Bool) (timeoutMs : Int) (arrivals : List Arrival) : Prop :=
  (readFrame closed timeoutMs arrivals).1 = .error .timedOut →
    bytesOf (readFrame closed timeoutMs arrivals).2 = bytesOf arrivals

/-- What the reader of a stream of frames relies on. -/
structure Faithful (closed : Bool) (frames : List (List UInt8)) (arrivals : List Arrival)
    (calls : List Int) : Prop where
  /-- The frames delivered are the first of the frames written. -/
  inOrder : delivered (readAll closed calls arrivals).1 <+: frames
  /-- When the whole stream arrives and is read long enough, all of them are delivered. -/
  complete : bytesOf arrivals = frameCode.stream frames →
    frames.length + timeouts arrivals ≤ calls.length →
    delivered (readAll closed calls arrivals).1 = frames
  lossless : Throughout closed (Lossless closed) calls arrivals
  /-- No bytes are taken for the prefix of an oversized frame. -/
  accepted : Except.error .oversized ∉ (readAll closed calls arrivals).1

section calls

variable {closed : Bool} {frames : List (List UInt8)} {arrivals : List Arrival} {calls : List Int}

/-- Nothing is delivered when nothing is left, and nothing is lost. -/
theorem readAll_nil (closed : Bool) (calls : List Int) :
    delivered (readAll closed calls []).1 = [] ∧ Throughout closed (Lossless closed) calls [] ∧
      Except.error .oversized ∉ (readAll closed calls []).1 := by
  induction calls with
  | nil => exact ⟨rfl, trivial, List.not_mem_nil⟩
  | cons timeoutMs calls ih =>
      obtain ⟨hnone, hlossless, haccepted⟩ := ih
      refine ⟨hnone, ⟨fun _ => rfl, hlossless⟩, ?_⟩
      cases closed <;> simpa [readAll, readFrame, readExact] using haccepted

section step

variable {timeoutMs : Int}

/-- A call that takes nothing has used up one of the waits in vain. -/
theorem Faithful.timedOut (hnone : available (patience timeoutMs) arrivals = 0)
    (herror : (readFrame closed timeoutMs arrivals).1 = .error .timedOut)
    (hbytes : bytesOf (readFrame closed timeoutMs arrivals).2 = bytesOf arrivals)
    (h : Faithful closed frames (readFrame closed timeoutMs arrivals).2 calls) :
    Faithful closed frames arrivals (timeoutMs :: calls) := by
  have hread : readAll closed (timeoutMs :: calls) arrivals =
      (.error .timedOut :: (readAll closed calls (readFrame closed timeoutMs arrivals).2).1,
        (readAll closed calls (readFrame closed timeoutMs arrivals).2).2) := by
    simp only [readAll, herror]
  refine ⟨?_, fun hall hlen => ?_, ⟨fun _ => hbytes, h.lossless⟩, ?_⟩
  · rw [hread]
    exact h.inOrder
  · rw [hread]
    cases frames with
    | nil => exact List.prefix_nil.mp h.inOrder
    | cons body rest =>
        refine h.complete (hbytes.trans hall) ?_
        have hmore : bytesOf arrivals ≠ [] := hall ▸ LengthCode.stream_ne_nil
        have hexact : (readExact closed arrivals 4 timeoutMs []).2 =
            (readFrame closed timeoutMs arrivals).2 := by
          obtain ⟨he, -⟩ := @readExact_of_lt closed arrivals 4 timeoutMs [] (by omega)
          rw [readFrame_of_error he]
        have hlt := @timeouts_readExact_lt closed _ 4 _ [] hnone hmore (by omega)
        rw [hexact] at hlt
        simp only [List.length_cons] at hlen ⊢
        omega
  · rw [hread]
    simpa using h.accepted

/-- Behind the end of the stream no further call meets anything. -/
theorem Faithful.ended (hend : readFrame closed timeoutMs arrivals = (.error .eof, []))
    (hdone : bytesOf arrivals = frameCode.stream frames → frames = []) :
    Faithful closed frames arrivals (timeoutMs :: calls) := by
  have hread : readAll closed (timeoutMs :: calls) arrivals =
      (.error .eof :: (readAll closed calls []).1, (readAll closed calls []).2) := by
    simp only [readAll, hend]
  obtain ⟨hnone, hlossless, haccepted⟩ := readAll_nil closed calls
  have hdel : delivered (readAll closed (timeoutMs :: calls) arrivals).1 = [] := by
    rw [hread]
    exact hnone
  refine ⟨?_, fun hall _ => ?_, ⟨fun he => ?_, ?_⟩, ?_⟩
  · rw [hdel]
    exact List.nil_prefix
  · rw [hdel, hdone hall]
  · rw [hend] at he
    cases he
  · rw [hend]
    exact hlossless
  · rw [hread]
    simpa using haccepted

/-- A call that returns has taken the first frame and no byte more. -/
theorem Faithful.delivers {body : List UInt8} {rest : List Arrival}
    (hok : readFrame closed timeoutMs arrivals = (.ok body, rest))
    (hbytes : bytesOf arrivals = frameCode.frame body ++ bytesOf rest)
    (hwaits : timeouts rest ≤ timeouts arrivals) (h : Faithful closed frames rest calls) :
    Faithful closed (body :: frames) arrivals (timeoutMs :: calls) := by
  have hread : readAll closed (timeoutMs :: calls) arrivals =
      (.ok body :: (readAll closed calls rest).1, (readAll closed calls rest).2) := by
    simp only [readAll, hok]
  have hdel : delivered (readAll closed (timeoutMs :: calls) arrivals).1 =
      body :: delivered (readAll closed calls rest).1 := by
    rw [hread]
    rfl
  refine ⟨?_, fun hall hlen => ?_, ⟨fun he => ?_, ?_⟩, ?_⟩
  · rw [hdel]
    exact (List.prefix_cons_inj body).mpr h.inOrder
  · rw [hdel]
    rw [hbytes, LengthCode.stream_cons] at hall
    refine congrArg (body :: ·) (h.complete (List.append_cancel_left hall) ?_)
    simp only [List.length_cons] at hlen
    omega
  · rw [hok] at he
    cases he
  · rw [hok]
    exact h.lossless
  · rw [hread]
    simpa using h.accepted

end step

/-- Timely calls are faithful: induction on the calls, the frames still due
being the ones whose stream the pipe holds. -/
theorem faithful_of_timely (hpre : bytesOf arrivals <+: frameCode.stream frames)
    (hfits : frameCode.Fits frames) (h : Throughout closed (Timely closed) calls arrivals) :
    Faithful closed frames arrivals calls := by
  induction calls generalizing arrivals frames with
  | nil =>
      refine ⟨List.nil_prefix, fun _ hlen => ?_, trivial, List.not_mem_nil⟩
      have hzero := Nat.le_zero.mp (Nat.le_trans (Nat.le_add_right _ _) hlen)
      have hnil : frames = [] := List.eq_nil_of_length_eq_zero hzero
      simp [hnil, readAll, delivered]
  | cons timeoutMs calls ih =>
      obtain ⟨htimely, hrest⟩ := h
      rcases readFrame_of_timely hpre hfits htimely with
        ⟨hnone, herror, hbytes⟩ | ⟨hend, hdone⟩ | ⟨body, rest, rfl, hok, hbytes⟩
      · exact (ih (hbytes ▸ hpre) hfits hrest).timedOut hnone herror hbytes
      · exact .ended hend hdone
      · rw [hbytes, LengthCode.stream_cons] at hpre
        have hpre' := (List.prefix_append_right_inj _).mp hpre
        rw [hok] at hrest
        exact (ih hpre' hfits.tail hrest).delivers hok hbytes
          (Nat.le_trans (timeouts_dropBytes_le _ _) (timeouts_dropBytes_le _ _))

theorem timely_of_lossless (h : Throughout closed (Lossless closed) calls arrivals)
    (haccepted : Except.error .oversized ∉ (readAll closed calls arrivals).1) :
    Throughout closed (Timely closed) calls arrivals := by
  induction calls generalizing arrivals with
  | nil => trivial
  | cons timeoutMs calls ih =>
      simp only [readAll, List.mem_cons, not_or] at haccepted
      refine ⟨?_, ih h.2 haccepted.2⟩
      by_contra hnot
      rcases readFrame_of_not_timely hnot with hlarge | ⟨herror, hne⟩
      · exact haccepted.1 hlarge.symm
      · exact hne (h.1 herror)

/-- What `WriteFrame` puts on the pipe for a list of messages is their stream. -/
theorem writeFrame_all {written : List (List UInt8)}
    (h : frames.mapM writeFrame = some written) :
    frameCode.Fits frames ∧ written.flatten = frameCode.stream frames := by
  induction frames generalizing written with
  | nil =>
      obtain rfl : written = [] := by simpa using h
      exact ⟨fun b hb => absurd hb List.not_mem_nil, rfl⟩
  | cons body rest ih =>
      rw [List.mapM_cons] at h
      obtain ⟨first, hfirst, hmore⟩ := Option.bind_eq_some_iff.mp h
      obtain ⟨others, hothers, heq⟩ := Option.bind_eq_some_iff.mp hmore
      obtain ⟨hfits, hstream⟩ := ih hothers
      obtain rfl : first :: others = written := by simpa using heq
      unfold writeFrame at hfirst
      split at hfirst
      · cases hfirst
      · next hle =>
          obtain rfl : frameCode.frame body = first := by simpa using hfirst
          refine ⟨fun b hb => ?_, by rw [List.flatten_cons, hstream, LengthCode.stream_cons]⟩
          rcases List.mem_cons.mp hb with rfl | hb
          · exact Nat.le_of_not_lt hle
          · exact hfits b hb

/-- **When the framing is faithful.** Whatever the frames written, the chunks in
which their bytes arrive and the waits between them: the calls deliver the
frames without loss exactly when none of them runs out of time in the middle of
a frame. -/
theorem readAll_faithful_iff {written : List (List UInt8)}
    (hwritten : frames.mapM writeFrame = some written)
    (harrivals : bytesOf arrivals <+: written.flatten) :
    Faithful closed frames arrivals calls ↔ Throughout closed (Timely closed) calls arrivals := by
  obtain ⟨hfits, hstream⟩ := writeFrame_all hwritten
  constructor
  · exact fun h => timely_of_lossless h.lossless h.accepted
  · exact fun h => faithful_of_timely (hstream ▸ harrivals) hfits h

end calls

/-- A frame that arrives in two pieces with waits inside the patience of the call. -/
theorem faithful_split_frame :
    Faithful false [[7], [8, 9]]
      [.chunk [1, 0], .timeout, .chunk [0, 0, 7, 2, 0, 0], .timeout, .chunk [0, 8, 9]] [5000, 5000] :=
  have hwritten : [[7], [8, 9]].mapM writeFrame = some [[1, 0, 0, 0, 7], [2, 0, 0, 0, 8, 9]] := by
    decide +kernel
  (readAll_faithful_iff hwritten (by decide +kernel)).mpr (by decide +kernel)

/-- The first byte of a prefix arrives, the time of the call is up, and the
other three come later: the next call takes them and the body for a prefix. -/
theorem split_prefix_not_faithful :
    [[7]].mapM writeFrame = some [[1, 0, 0, 0, 7]] ∧
      bytesOf [.chunk [1], .timeout, .chunk [0, 0, 0, 7]] = [1, 0, 0, 0, 7] ∧
      ¬ Faithful false [[7]] [.chunk [1], .timeout, .chunk [0, 0, 0, 7]] [0, 0] := by
  refine ⟨by decide +kernel, by decide, fun h => ?_⟩
  have hall := h.complete (by decide) (by decide)
  revert hall
  decide +kernel

end SpatialPlatform.Engine
