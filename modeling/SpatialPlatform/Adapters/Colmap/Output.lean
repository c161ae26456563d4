import SpatialPlatform.Lib.Writers
import SpatialPlatform.Engine.Workers.Framing

/-!
# The output of the COLMAP worker

`WorkerSendFrame` of `adapters/colmap/colmap_worker.cpp` writes the length of a
message and then the message, and takes no lock. Two threads of
`colmap_worker_main.cpp` call it: `HeartbeatLoop`, once a second, and the main
thread, for the events of its task. A message above the size limit is dropped.

* `output_recovered` — as long as neither thread writes while the other one is
  between its two writes, the host reads exactly the messages sent, each
  thread's in its own order.
* `torn_frames_not_recovered` — a heartbeat between the two writes of a progress
  frame.
-/

namespace SpatialPlatform.Adapters.Colmap

open SpatialPlatform.Lib SpatialPlatform.Engine

/-- The threads that write frames. -/
inductive WorkerThread where
  | heartbeat
  | main
  deriving DecidableEq, Repr

/-- `WorkerSendFrame`: the two writes for one message. -/
def workerSendFrame (message : List UInt8) : Option (List UInt8 × List UInt8) :=
  if message.length > kMaxFrameSize then none else some (prefixBytes message.length, message)

/-- The worker's stdout under a schedule of write steps; `program` are the
messages each thread sends. -/
abbrev output : Actions (Writers WorkerThread UInt8) WorkerThread := Writers.system frameCode

/-- A thread that begins a message does what `WorkerSendFrame` does: the first
write now, the second one at its next turn. -/
theorem output_step_eq {t : WorkerThread} {s : Writers WorkerThread UInt8} {message : List UInt8}
    {rest : List (List UInt8)} (hbody : s.body t = none) (htodo : s.todo t = message :: rest) :
    output.step t s = some (match workerSendFrame message with
      | none => { s with todo := Function.update s.todo t rest }
      | some (first, second) =>
          { todo := Function.update s.todo t rest
            body := Function.update s.body t (some second)
            out := s.out ++ first
            order := s.order ++ [(t, message)] }) := by
  rcases Nat.lt_or_ge kMaxFrameSize message.length with hlong | hfits
  · have hnot : ¬ message.length ≤ kMaxFrameSize := Nat.not_le.mpr hlong
    simp [Writers.system, Writers.step, hbody, htodo, workerSendFrame, hlong, frameCode, hnot]
  · have hnot : ¬ kMaxFrameSize < message.length := Nat.not_lt.mpr hfits
    simp [Writers.system, Writers.step, hbody, htodo, workerSendFrame, hnot, frameCode, hfits]

/-- The host recovers the messages: the stream is the frames of some order of
the messages sent, in which each thread's messages stand in its own order, and
every reader that is patient and reads long enough gets them back. -/
def Recovered (program : WorkerThread → List (List UInt8)) (s : Writers WorkerThread UInt8) : Prop :=
  ∃ order : List (WorkerThread × List UInt8),
    (∀ t, Writers.ofWriter t order ++ Writers.sendable frameCode (s.todo t) =
      Writers.sendable frameCode (program t)) ∧
    s.out = frameCode.stream (order.map Prod.snd) ∧
    ∀ closed arrivals calls, bytesOf arrivals = s.out →
      Throughout closed (Timely closed) calls arrivals →
      order.length + timeouts arrivals ≤ calls.length →
      delivered (readAll closed calls arrivals).1 = order.map Prod.snd

/-- **Whole frames.** In every run in which no thread writes between the two
writes of another thread's frame, whenever no frame is half written, the host
can recover all that was sent. -/
theorem output_recovered {program : WorkerThread → List (List UInt8)}
    {schedule : List WorkerThread} {s : Writers WorkerThread UInt8}
    (halone : output.Along Writers.Alone schedule { todo := program })
    (hrun : output.run schedule { todo := program } = some s) (hidle : ∀ t, s.body t = none) :
    Recovered program s := by
  obtain ⟨horder, hfits⟩ := Writers.run_order hrun
  have hout := Writers.run_stream halone hrun hidle
  refine ⟨s.order, horder, hout, fun closed arrivals calls harr htimely hlen => ?_⟩
  have hall : frameCode.Fits (s.order.map Prod.snd) := by
    intro body hbody
    obtain ⟨entry, hentry, rfl⟩ := List.mem_map.mp hbody
    exact hfits entry hentry
  have hstream := harr.trans hout
  have hfaithful := faithful_of_timely (hstream ▸ List.prefix_refl _) hall htimely
  exact hfaithful.complete hstream (by rwa [List.length_map])

instance (t : WorkerThread) (s : Writers WorkerThread UInt8) : Decidable (Writers.Alone t s) :=
  decidable_of_iff (∀ t' ∈ [WorkerThread.heartbeat, WorkerThread.main], t' ≠ t → s.body t' = none) <| by
    constructor
    · exact fun h t' => h t' (by cases t' <;> simp)
    · exact fun h t' _ => h t'

/-- A progress message, and the heartbeats around it. -/
private def beats (heartbeats : List (List UInt8)) : WorkerThread → List (List UInt8)
  | .heartbeat => heartbeats
  | .main => [[2, 3]]

theorem output_recovered_in_turn :
    ∃ s, output.run [.heartbeat, .heartbeat, .main, .main, .heartbeat, .heartbeat]
        { todo := beats [[1], [4]] } = some s ∧ Recovered (beats [[1], [4]]) s := by
  have hrun : output.run [.heartbeat, .heartbeat, .main, .main, .heartbeat, .heartbeat]
      { todo := beats [[1], [4]] } = some _ := rfl
  exact ⟨_, hrun, output_recovered (by decide +kernel) hrun fun t => by cases t <;> rfl⟩

/-- The heartbeat thread gets a turn between the two writes of a progress
message: both frames are torn, and no order of the messages gives the bytes on
stdout. -/
theorem torn_frames_not_recovered :
    ∃ s, output.run [.main, .heartbeat, .main, .heartbeat] { todo := beats [[1]] } = some s ∧
      (∀ t, s.body t = none) ∧ (∀ t, s.todo t = []) ∧ ¬ Recovered (beats [[1]]) s := by
  have hrun : output.run [.main, .heartbeat, .main, .heartbeat] { todo := beats [[1]] } =
      some _ := rfl
  refine ⟨_, hrun, fun t => by cases t <;> rfl, fun t => by cases t <;> rfl, ?_⟩
  rintro ⟨order, horder, hout, _⟩
  change [2, 0, 0, 0, 1, 0, 0, 0, 2, 3, 1] = _ at hout
  cases order with
  | nil => cases hout
  | cons entry rest =>
      obtain ⟨t, body⟩ := entry
      have hbody : body ∈ Writers.sendable frameCode (beats [[1]] t) := by
        rw [← horder t]
        exact List.mem_append_left _ (by simp [Writers.ofWriter])
      -- neither message begins like the bytes on stdout
      cases t with
      | heartbeat =>
          obtain rfl : body = [1] := by simpa [Writers.sendable, beats] using (List.mem_filter.mp hbody).1
          simp [LengthCode.frame, frameCode, prefixBytes] at hout
      | main =>
          obtain rfl : body = [2, 3] := by simpa [Writers.sendable, beats] using (List.mem_filter.mp hbody).1
          simp [LengthCode.frame, frameCode, prefixBytes] at hout

end SpatialPlatform.Adapters.Colmap
