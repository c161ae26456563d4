import SpatialPlatform.Lib.LengthPrefix
import SpatialPlatform.Lib.Machine
import Mathlib.Logic.Function.Basic
import Mathlib.Data.List.Infix

/-!
# Several writers on one stream

Each writer puts its bodies on a shared stream, a frame in two writes: first the
length, then the body. Bodies too long for the length code are skipped. Whatever
the schedule, each writer's frames are begun in its own order (`run_order`);
when no writer is scheduled while another one is between its two writes, the
stream is a concatenation of whole frames (`run_stream`).
-/

namespace SpatialPlatform.Lib

/-- `todo` are the bodies a writer has not begun, `body` what it still owes for
the frame it has begun. `order` is bookkeeping: the frames begun so far. -/
structure Writers (T β : Type*) where
  todo : T → List (List β)
  body : T → Option (List β) := fun _ => none
  out : List β := []
  order : List (T × List β) := []

namespace Writers

variable {T β : Type*} [DecidableEq T] (code : LengthCode β)

/-- The next write of writer `t`. -/
def step (t : T) (s : Writers T β) : Option (Writers T β) :=
  match s.body t with
  | some body =>
      some { s with body := Function.update s.body t none, out := s.out ++ body }
  | none =>
      match s.todo t with
      | [] => none
      | body :: rest =>
          if body.length ≤ code.limit then
            some
              { todo := Function.update s.todo t rest
                body := Function.update s.body t (some body)
                out := s.out ++ code.encode body.length
                order := s.order ++ [(t, body)] }
          else some { s with todo := Function.update s.todo t rest }

/-- Writers as a system whose actions are the turns they get. -/
def system : Actions (Writers T β) T := ⟨step code⟩

/-- No other writer is between its two writes. -/
def Alone (t : T) (s : Writers T β) : Prop := ∀ t', t' ≠ t → s.body t' = none

/-- The frames begun by one writer. -/
def ofWriter (t : T) (order : List (T × List β)) : List (List β) :=
  (order.filter fun entry => entry.1 = t).map Prod.snd

/-- The bodies that get a frame. -/
def sendable (bodies : List (List β)) : List (List β) :=
  bodies.filter fun body => body.length ≤ code.limit

/-- Nothing is lost and nothing overtaken: what a writer has begun and what it
has left make up its program. -/
def KeepsOrder (program : T → List (List β)) (s : Writers T β) : Prop :=
  (∀ t, ofWriter t s.order ++ sendable code (s.todo t) = sendable code (program t)) ∧
    ∀ entry ∈ s.order, entry.2.length ≤ code.limit

/-- The stream is whole frames, up to the body that one writer still owes. -/
def Whole (s : Writers T β) : Prop :=
  (∀ t, s.body t = none) ∧ s.out = code.stream (s.order.map Prod.snd) ∨
    ∃ t body, s.body t = some body ∧ (∀ t', t' ≠ t → s.body t' = none) ∧
      s.out ++ body = code.stream (s.order.map Prod.snd)

variable {code}

theorem ofWriter_append (t : T) (order order' : List (T × List β)) :
    ofWriter t (order ++ order') = ofWriter t order ++ ofWriter t order' := by
  simp [ofWriter]

theorem step_order {program : T → List (List β)} {t : T} {s s' : Writers T β}
    (h : KeepsOrder code program s) (hstep : step code t s = some s') :
    KeepsOrder code program s' := by
  unfold step at hstep
  split at hstep
  · cases hstep
    exact h
  · split at hstep
    · cases hstep
    · next body rest htodo =>
        split at hstep
        · next hfits =>
            cases hstep
            refine ⟨fun x => ?_, fun entry hentry => ?_⟩
            · have hx := h.1 x
              rcases eq_or_ne x t with rfl | hne
              · rw [htodo] at hx
                simpa [ofWriter_append, ofWriter, sendable, hfits] using hx
              · simpa [ofWriter_append, ofWriter, hne, hne.symm] using hx
            · rcases List.mem_append.mp hentry with hmem | hmem
              · exact h.2 entry hmem
              · rw [List.mem_singleton.mp hmem]
                exact hfits
        -- a body that is too long is dropped
        · next hlong =>
            cases hstep
            refine ⟨fun x => ?_, h.2⟩
            have hx := h.1 x
            rcases eq_or_ne x t with rfl | hne
            · rw [htodo] at hx
              simpa [sendable, hlong] using hx
            · simpa [hne] using hx

theorem step_whole {t : T} {s s' : Writers T β} (h : Whole code s) (halone : Alone t s)
    (hstep : step code t s = some s') : Whole code s' := by
  unfold step at hstep
  split at hstep
  · next body hbody =>
      cases hstep
      left
      have hnone : ∀ x, Function.update s.body t none x = none := by
        intro x
        rcases eq_or_ne x t with rfl | hne
        · simp
        · rw [Function.update_of_ne hne]
          exact halone x hne
      rcases h with ⟨hidle, _⟩ | ⟨u, owed, hu, hothers, hout⟩
      · simp [hidle] at hbody
      · rcases eq_or_ne t u with rfl | hne
        · rw [hu] at hbody
          cases hbody
          exact ⟨hnone, hout⟩
        · simp [hothers t hne] at hbody
  · next hbody =>
      -- the turn of a writer outside its frames, so all writers are
      have hidle : ∀ x, s.body x = none := by
        intro x
        rcases eq_or_ne x t with rfl | hne
        · exact hbody
        · exact halone x hne
      have hout : s.out = code.stream (s.order.map Prod.snd) := by
        rcases h with ⟨_, hout⟩ | ⟨u, owed, hu, _⟩
        · exact hout
        · simp [hidle u] at hu
      split at hstep
      · cases hstep
      · next body rest htodo =>
          split at hstep
          · cases hstep
            refine Or.inr ⟨t, body, by simp, fun x hne => ?_, ?_⟩
            · simp [hne, hidle x]
            · simp [hout, LengthCode.frame]
          · cases hstep
            exact Or.inl ⟨hidle, hout⟩

/-- Every writer keeps its own order, whatever the schedule. -/
theorem run_order {program : T → List (List β)} {schedule : List T} {s : Writers T β}
    (hrun : (system code).run schedule { todo := program } = some s) :
    KeepsOrder code program s := by
  have hstart : KeepsOrder code program ({ todo := program } : Writers T β) :=
    ⟨fun t => by simp [ofWriter], by simp⟩
  have hstep : ∀ t (s s' : Writers T β), KeepsOrder code program s →
      (system code).step t s = some s' → KeepsOrder code program s' :=
    fun t s s' h hst => step_order h hst
  exact Actions.run_invariant hstep hstart hrun

/-- When every turn finds the other writers outside their frames, the stream is whole frames. -/
theorem run_stream {program : T → List (List β)} {schedule : List T} {s : Writers T β}
    (halone : (system code).Along Alone schedule { todo := program })
    (hrun : (system code).run schedule { todo := program } = some s) (hidle : ∀ t, s.body t = none) :
    s.out = code.stream (s.order.map Prod.snd) := by
  have hstart : Whole code ({ todo := program } : Writers T β) := Or.inl ⟨fun _ => rfl, rfl⟩
  have hstep : ∀ t (s s' : Writers T β), Whole code s → Alone t s →
      (system code).step t s = some s' → Whole code s' :=
    fun t s s' h hal hst => step_whole h hal hst
  rcases Actions.run_induct hstep hstart halone hrun with ⟨_, hout⟩ | ⟨t, body, ht, _⟩
  · exact hout
  · simp [hidle t] at ht

end Writers

end SpatialPlatform.Lib
