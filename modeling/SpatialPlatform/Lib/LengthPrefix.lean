import Mathlib.Data.List.Basic

/-!
# Length-prefixed frames

A `LengthCode` writes lengths up to a limit in a fixed number of symbols. A
frame is the code of the length of a body, followed by the body; a stream is a
concatenation of frames. What a reader needs is `decode_take` and
`stream_cons_split`: the head of a stream gives the length of the first body,
and then the body.
-/

namespace SpatialPlatform.Lib

/-- Lengths up to `limit`, in `width` symbols. -/
structure LengthCode (β : Type*) where
  width : Nat
  limit : Nat
  encode : Nat → List β
  decode : List β → Nat
  width_pos : 0 < width
  length_encode : ∀ n, (encode n).length = width
  decode_encode : ∀ n, n ≤ limit → decode (encode n) = n

namespace LengthCode

variable {β : Type*} (code : LengthCode β)

/-- One body with its length in front. -/
def frame (body : List β) : List β := code.encode body.length ++ body

/-- Frames one after the other. -/
def stream (bodies : List (List β)) : List β := bodies.flatMap code.frame

/-- The bodies that have a frame. -/
def Fits (bodies : List (List β)) : Prop := ∀ body ∈ bodies, body.length ≤ code.limit

theorem Fits.tail {code : LengthCode β} {body : List β} {bodies : List (List β)}
    (h : code.Fits (body :: bodies)) : code.Fits bodies :=
  fun b hb => h b (List.mem_cons_of_mem _ hb)

@[simp] theorem stream_nil : code.stream [] = [] := rfl

@[simp] theorem stream_cons (body : List β) (bodies : List (List β)) :
    code.stream (body :: bodies) = code.frame body ++ code.stream bodies := rfl

@[simp] theorem stream_append (bodies bodies' : List (List β)) :
    code.stream (bodies ++ bodies') = code.stream bodies ++ code.stream bodies' := by
  simp [stream]

@[simp] theorem length_frame (body : List β) :
    (code.frame body).length = code.width + body.length := by
  simp [frame, code.length_encode]

variable {code}

theorem stream_ne_nil {body : List β} {bodies : List (List β)} :
    code.stream (body :: bodies) ≠ [] := by
  intro h
  have hlen := congrArg List.length h
  have hpos := code.width_pos
  simp only [stream_cons, List.length_append, length_frame, List.length_nil] at hlen
  omega

/-- Reading from the beginning of a stream that has arrived as far as `bytes`:
once the length has arrived, it is the length of the first body. -/
theorem decode_take {body : List β} {bodies : List (List β)} {bytes : List β}
    (hpre : bytes <+: code.stream (body :: bodies)) (hfit : body.length ≤ code.limit)
    (hlen : code.width ≤ bytes.length) : code.decode (bytes.take code.width) = body.length := by
  have htake : bytes.take code.width = (code.stream (body :: bodies)).take code.width := by
    obtain ⟨rest, hrest⟩ := hpre
    rw [← hrest, List.take_append_of_le_length hlen]
  rw [htake, stream_cons, frame, List.append_assoc, ← code.length_encode body.length,
    List.take_left, code.decode_encode _ hfit]

theorem drop_width_frame (body tail : List β) :
    (code.frame body ++ tail).drop code.width = body ++ tail := by
  rw [frame, List.append_assoc, ← code.length_encode body.length, List.drop_left]

/-- Once the whole first frame has arrived, it stands at the head of the bytes,
and what follows begins the rest of the stream. -/
theorem stream_cons_split {body : List β} {bodies : List (List β)} {bytes : List β}
    (hpre : bytes <+: code.stream (body :: bodies))
    (hlen : code.width + body.length ≤ bytes.length) :
    ∃ tail, bytes = code.frame body ++ tail ∧ tail <+: code.stream bodies := by
  have hframe : code.frame body <+: bytes := by
    refine List.prefix_of_prefix_length_le ⟨code.stream bodies, rfl⟩ hpre ?_
    rwa [length_frame]
  obtain ⟨tail, rfl⟩ := hframe
  rw [stream_cons] at hpre
  exact ⟨tail, rfl, (List.prefix_append_right_inj _).mp hpre⟩

end LengthCode

end SpatialPlatform.Lib
