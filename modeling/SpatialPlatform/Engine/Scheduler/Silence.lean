import Mathlib.Order.Interval.Finset.Nat
import SpatialPlatform.Engine.Scheduler.Executors
import SpatialPlatform.Engine.Scheduler.Provenance

/-!
# Silent workers

`DispatchAndAwait` takes a worker for crashed when `WaitForEvent` has timed out
often enough. The counter is a variable of the attempt: it starts at zero with
the submission and only the synthesised crash resets it, so that timeouts add up
over an attempt whatever events come between them.

* `missed_eq_card` — the counter is the number of timeouts of the attempt so
  far.
* `crashes_after_silence_iff` — the crashes of a run are synthesised after
  eleven timeouts in a row exactly when no attempt with eleven timeouts has an
  event between its first and its eleventh.
-/

namespace SpatialPlatform.Engine

open SpatialPlatform.Core SpatialPlatform.Lib

/-! ## Runs of timeouts -/

open Classical in
/-- Of the places after `j`, `n` before `k` are marked, and so is `k`: the marks
stand together exactly when the last `n + 1` places are marked. -/
theorem marks_together_iff {p : Nat → Prop} {j k n : Nat} (hjk : j < k) (hk : p k)
    (hcount : ((Finset.Ioo j k).filter p).card = n) :
    (∀ first, j < first → first ≤ k → p first → ∀ i, first ≤ i → i ≤ k → p i) ↔
      n ≤ k ∧ ∀ i, k - n ≤ i → i ≤ k → p i := by
  constructor
  · intro h
    have hex : ∃ first, j < first ∧ p first := ⟨k, hjk, hk⟩
    obtain ⟨hj, hfirst⟩ := Nat.find_spec hex
    have hle : Nat.find hex ≤ k := Nat.find_min' hex ⟨hjk, hk⟩
    -- the marked places before `k` are those from the first one on
    have hmarked : (Finset.Ioo j k).filter p = Finset.Ico (Nat.find hex) k := by
      ext i
      simp only [Finset.mem_filter, Finset.mem_Ioo, Finset.mem_Ico]
      constructor
      · intro hi
        exact ⟨Nat.find_min' hex ⟨hi.1.1, hi.2⟩, hi.1.2⟩
      · intro hi
        exact ⟨⟨by omega, hi.2⟩, h _ hj hle hfirst i hi.1 (by omega)⟩
    rw [hmarked, Nat.card_Ico] at hcount
    refine ⟨by omega, fun i hi hik => ?_⟩
    exact h _ hj hle hfirst i (by omega) hik
  · intro h first hj hle hfirst i hi hik
    obtain ⟨hn, hlast⟩ := h
    suffices hlate : k - n ≤ first from hlast i (by omega) hik
    by_contra hearly
    have hsub : insert first (Finset.Ico (k - n) k) ⊆ (Finset.Ioo j k).filter p := by
      intro x hx
      rcases Finset.mem_insert.mp hx with rfl | hx
      · exact Finset.mem_filter.mpr ⟨Finset.mem_Ioo.mpr ⟨hj, by omega⟩, hfirst⟩
      · obtain ⟨hx, hxk⟩ := Finset.mem_Ico.mp hx
        exact Finset.mem_filter.mpr ⟨Finset.mem_Ioo.mpr ⟨by omega, hxk⟩, hlast x hx hxk.le⟩
    have hcard := Finset.card_le_card hsub
    rw [Finset.card_insert_of_notMem (by simp; omega), Nat.card_Ico, hcount] at hcard
    omega

namespace Scheduler

variable {σ ι : Type} (sched : Scheduler σ ι) (inputs : Nat → StepInput ι) (s₀ : SchedulerState σ)

/-! ## The waits of a run -/

/-- The state in which the thread takes its step `k`. -/
def acting (k : Nat) : SchedulerState σ := sched.served (inputs k) (sched.states inputs s₀ k)

/-- What `WaitForEvent` answers in step `k`, if the step calls it. -/
def answer (k : Nat) : Option WorkerEvent := sched.event (inputs k) (sched.states inputs s₀ k)

/-- `WaitForEvent` times out in step `k`. -/
def TimesOut (k : Nat) : Prop :=
  (sched.states inputs s₀ k).control.IsWaiting ∧ sched.answer inputs s₀ k = none

/-- The scheduler synthesises `WORKER_CRASHED` in step `k`: the timeout ends the event loop. -/
def SynthesisesCrash (k : Nat) : Prop :=
  sched.TimesOut inputs s₀ k ∧ ¬ (sched.states inputs s₀ (k + 1)).control.IsWaiting

/-- The attempt submitted in step `j` is in its event loop from then on to step `k`. -/
structure Attempt (j k : Nat) : Prop where
  submits : (sched.states inputs s₀ j).control.Submits
  lt : j < k
  waits : ∀ i, j < i → i ≤ k → (sched.states inputs s₀ i).control.IsWaiting

open Classical in
/-- The timeouts of an attempt before step `k`. -/
noncomputable def timeoutsBefore (j k : Nat) : Finset Nat :=
  (Finset.Ioo j k).filter (sched.TimesOut inputs s₀)

/-- Every synthesised crash comes after eleven timeouts, one right after the other. -/
def CrashesAfterSilence : Prop :=
  ∀ k, sched.SynthesisesCrash inputs s₀ k →
    10 ≤ k ∧ ∀ i, k - 10 ≤ i → i ≤ k → sched.TimesOut inputs s₀ i

/-- No attempt has an event between its first and its eleventh timeout. -/
def NoEventBetweenTimeouts : Prop :=
  ∀ j k, sched.Attempt inputs s₀ j k → sched.TimesOut inputs s₀ k →
    (sched.timeoutsBefore inputs s₀ j k).card = 10 →
    ∀ first, j < first → first ≤ k → sched.TimesOut inputs s₀ first →
      ∀ i, first ≤ i → i ≤ k → sched.TimesOut inputs s₀ i

variable {sched inputs s₀}

theorem acting_control (k : Nat) :
    (sched.acting inputs s₀ k).control = (sched.states inputs s₀ k).control :=
  served_control (inputs k) _

theorem states_succ_acting (k : Nat) : sched.states inputs s₀ (k + 1) =
    sched.advance (inputs k) (sched.acting inputs s₀ k) :=
  states_succ_served k

/-! ## The counter

What each step does to the counter of timeouts: a submission resets it, a
timeout counts, and nothing else touches it. -/

variable {s : SchedulerState σ} {input : StepInput ι}

variable (sched input) in
/-- An attempt starts without timeouts. -/
theorem missed_of_submits (hsubmits : s.control.Submits)
    (hwait : (sched.advance input s).control.IsWaiting) :
    (sched.advance input s).control.missed = 0 := by
  obtain ⟨n, ids, id, hcontrol⟩ := Control.submits_iff.mp hsubmits
  revert hwait
  simp only [advance, hcontrol, dispatchAndAwait]
  split
  · exact fun hwait => hwait.elim
  · exact fun _ => rfl

variable (sched input) in
/-- A timeout is counted, and the eleventh ends the loop. -/
theorem advance_of_timeout (hwait : s.control.IsWaiting)
    (hnone : (sched.executor.waitForEvent s.executor input.worker).1 = none) :
    ((sched.advance input s).control.IsWaiting ↔ s.control.missed < 10) ∧
      ((sched.advance input s).control.IsWaiting →
        (sched.advance input s).control.missed = s.control.missed + 1) := by
  obtain ⟨n, ids, id, produced, hcontrol⟩ := Control.isWaiting_iff.mp hwait
  generalize s.control.missed = missed at hcontrol ⊢
  rcases hevent : sched.executor.waitForEvent s.executor input.worker with ⟨event, executor⟩
  obtain rfl : event = none := by simpa [hevent] using hnone
  by_cases hmissed : missed < 10
  · have hadvance : (sched.advance input s).control =
        .task n ids id (.await produced (missed + 1)) := by
      rw [advance, hcontrol]
      simp only [dispatchAndAwait, awaitEvent, hevent]
      rw [if_neg (by omega)]
    rw [hadvance]
    exact ⟨iff_of_true trivial hmissed, fun _ => rfl⟩
  · have hadvance : ∃ retryable, (sched.advance input s).control =
        .task n ids id (.markFailed retryable) := by
      rw [advance, hcontrol]
      simp only [dispatchAndAwait, awaitEvent, hevent]
      rw [if_pos (by omega)]
      exact ⟨_, rfl⟩
    obtain ⟨retryable, hadvance⟩ := hadvance
    rw [hadvance]
    exact ⟨iff_of_false (fun h => h) hmissed, fun h => h.elim⟩

variable (sched input) in
/-- An event leaves the counter as it was. -/
theorem missed_of_event (hwait : s.control.IsWaiting)
    (hsome : (sched.executor.waitForEvent s.executor input.worker).1 ≠ none)
    (hnext : (sched.advance input s).control.IsWaiting) :
    (sched.advance input s).control.missed = s.control.missed := by
  obtain ⟨n, ids, id, produced, hcontrol⟩ := Control.isWaiting_iff.mp hwait
  generalize s.control.missed = missed at hcontrol ⊢
  rcases hevent : sched.executor.waitForEvent s.executor input.worker with ⟨_ | event, executor⟩
  · exact absurd (by rw [hevent]) hsome
  rw [advance, hcontrol] at hnext ⊢
  simp only [dispatchAndAwait, awaitEvent, hevent] at hnext ⊢
  split at hnext
  · next heq =>
      rw [if_pos heq]
      cases hkind : event.kind with
      | completed | cancelled =>
          rw [hkind] at hnext
          refine absurd hnext (leaves_mark rfl _ _ ?_).2
          exact fun h => h
      | failed code message recoverable =>
          rw [hkind] at hnext
          exact hnext.elim
      | artifactProduced _ | progress _ | log _ | heartbeat => rfl
  · next hne =>
      rw [if_neg hne]
      exact congrArg Control.missed hcontrol

/-! ## Attempts

The steps of an attempt are those since its submission. By induction over them
the counter is the number of timeouts among them, whatever events came in
between. -/

/-- A wait belongs to an attempt. -/
theorem exists_attempt (h₀ : ¬ s₀.control.IsWaiting) {k : Nat}
    (hk : (sched.states inputs s₀ k).control.IsWaiting) : ∃ j, sched.Attempt inputs s₀ j k := by
  induction k with
  | zero => exact absurd hk h₀
  | succ k ih =>
      by_cases hwait : (sched.states inputs s₀ k).control.IsWaiting
      · obtain ⟨j, hattempt⟩ := ih hwait
        refine ⟨j, hattempt.submits, by have := hattempt.lt; omega, fun i hj hi => ?_⟩
        rcases Nat.lt_or_eq_of_le hi with hi | rfl
        · exact hattempt.waits i hj (by omega)
        · exact hk
      · -- nothing but a submission begins a wait
        refine ⟨k, ?_, Nat.lt_succ_self k, fun i hj hi => ?_⟩
        · by_contra hsubmits
          rw [← acting_control] at hwait hsubmits
          exact (sched.advance_leaves (inputs k) hsubmits hwait).2 hk
        · obtain rfl : i = k + 1 := by omega
          exact hk

theorem timeoutsBefore_first (j : Nat) : sched.timeoutsBefore inputs s₀ j (j + 1) = ∅ := by
  rw [timeoutsBefore, show Finset.Ioo j (j + 1) = ∅ by grind, Finset.filter_empty]

open Classical in
theorem timeoutsBefore_succ {j k : Nat} (hjk : j < k) : sched.timeoutsBefore inputs s₀ j (k + 1) =
    if sched.TimesOut inputs s₀ k then insert k (sched.timeoutsBefore inputs s₀ j k)
    else sched.timeoutsBefore inputs s₀ j k := by
  have hsplit : Finset.Ioo j (k + 1) = insert k (Finset.Ioo j k) := by
    ext i
    simp only [Finset.mem_Ioo, Finset.mem_insert]
    omega
  rw [timeoutsBefore, hsplit, Finset.filter_insert]
  rfl

/-- **The counter of an attempt is the number of its timeouts so far**, and at most ten. -/
theorem missed_eq_card {j k : Nat} (h : sched.Attempt inputs s₀ j k) :
    (sched.states inputs s₀ k).control.missed = (sched.timeoutsBefore inputs s₀ j k).card ∧
      (sched.states inputs s₀ k).control.missed ≤ 10 := by
  obtain ⟨hsubmits, hlt, hwaits⟩ := h
  induction k, hlt using Nat.le_induction with
  | base =>
      rw [← acting_control] at hsubmits
      have hzero := sched.missed_of_submits (inputs j) hsubmits (hwaits (j + 1) (by omega) le_rfl)
      rw [states_succ_acting, hzero]
      show 0 = (sched.timeoutsBefore inputs s₀ j (j + 1)).card ∧ 0 ≤ 10
      rw [timeoutsBefore_first]
      exact ⟨rfl, Nat.zero_le 10⟩
  | succ k hjk ih =>
      obtain ⟨hcount, hle⟩ := ih fun i hj hi => hwaits i hj (by omega)
      have hwait := hwaits k hjk (by omega)
      have hnext := hwaits (k + 1) (by omega) le_rfl
      have hk : k ∉ sched.timeoutsBefore inputs s₀ j k := by simp [timeoutsBefore]
      have hwait' : (sched.acting inputs s₀ k).control.IsWaiting := by rwa [acting_control]
      rw [states_succ_acting] at hnext ⊢
      by_cases hnone : sched.answer inputs s₀ k = none
      · obtain ⟨hloop, hcounted⟩ := sched.advance_of_timeout (inputs k) hwait' hnone
        have hten := hloop.mp hnext
        rw [hcounted hnext, acting_control, timeoutsBefore_succ hjk, if_pos ⟨hwait, hnone⟩,
          Finset.card_insert_of_notMem hk, hcount]
        rw [acting_control, hcount] at hten
        exact ⟨rfl, hten⟩
      · rw [sched.missed_of_event (inputs k) hwait' hnone hnext, acting_control,
          timeoutsBefore_succ hjk, if_neg fun h => hnone h.2]
        exact ⟨hcount, hle⟩

/-- The crash is synthesised at the eleventh timeout of the attempt. -/
theorem synthesisesCrash_iff {j k : Nat} (h : sched.Attempt inputs s₀ j k)
    (hk : sched.TimesOut inputs s₀ k) :
    sched.SynthesisesCrash inputs s₀ k ↔ (sched.timeoutsBefore inputs s₀ j k).card = 10 := by
  obtain ⟨hcount, hle⟩ := missed_eq_card h
  have hwait : (sched.acting inputs s₀ k).control.IsWaiting := by
    rw [acting_control]
    exact hk.1
  have hloop := (sched.advance_of_timeout (inputs k) hwait hk.2).1
  rw [← states_succ_acting, acting_control] at hloop
  rw [SynthesisesCrash, hloop]
  constructor
  · intro hsynth
    have := hsynth.2
    omega
  · intro hten
    exact ⟨hk, by omega⟩

/-- **When crashes follow silence**: in a run from the start of `Execute`, the
scheduler synthesises `WORKER_CRASHED` only after eleven timeouts in a row
exactly when no attempt has an event between its first and its eleventh timeout. -/
theorem crashes_after_silence_iff (h₀ : s₀.control = .iterate 0) :
    sched.CrashesAfterSilence inputs s₀ ↔ sched.NoEventBetweenTimeouts inputs s₀ := by
  have hstart : ¬ s₀.control.IsWaiting := by
    rw [h₀]
    exact fun h => h
  constructor
  · intro h j k hattempt hk hcard
    apply (marks_together_iff hattempt.lt hk hcard).mpr
    exact h k ((synthesisesCrash_iff hattempt hk).mpr hcard)
  · intro h k hsynth
    obtain ⟨j, hattempt⟩ := exists_attempt hstart hsynth.1.1
    have hcard := (synthesisesCrash_iff hattempt hsynth.1).mp hsynth
    exact (marks_together_iff hattempt.lt hsynth.1 hcard).mp (h j k hattempt hsynth.1 hcard)

end Scheduler

/-! ## A worker with a slow heartbeat -/

/-- One task for one worker process. -/
private def slowScheduler : Scheduler ProcessExecutor ProcessCall where
  cache := ⟨fun s => s, "", ""⟩
  executor := processExecutor {} ⟨7⟩ false

private def slowGraph : TaskGraph :=
  (TaskGraph.build ⟨9⟩ ⟨8⟩ [{ id := ⟨1⟩, definition := { type := "import" } }] []).toOption.getD
    (.empty ⟨9⟩)

/-- A heartbeat comes after every wait that has timed out. -/
private def slowInputs (k : Nat) : StepInput ProcessCall where
  worker :=
    { read := if k % 2 = 0 then .timedOut else .message .heartbeat
      storage := { sha256Hex := fun _ => "" } }

private def slowStart : SchedulerState ProcessExecutor :=
  (slowScheduler.run {} {} slowGraph [] "").toOption.getD ⟨slowGraph, {}, {}, "", .returned, [], []⟩

/-- The eleventh timeout comes in step 26, right after a heartbeat. -/
private theorem slowStart_crash : slowScheduler.SynthesisesCrash slowInputs slowStart 26 ∧
    ¬ slowScheduler.TimesOut slowInputs slowStart 25 := by
  have h26 : (slowScheduler.states slowInputs slowStart 26).control =
      .task 0 [] ⟨1⟩ (.await [] 10) := by decide +kernel
  have h27 : (slowScheduler.states slowInputs slowStart 27).control =
      .task 0 [] ⟨1⟩ (.markFailed true) := by decide +kernel
  refine ⟨⟨⟨?_, by decide +kernel⟩, ?_⟩, fun h => ?_⟩
  · rw [h26]
    trivial
  · rw [h27]
    exact fun h => h
  · exact absurd h.2 (by decide +kernel)

/-- A worker whose heartbeats keep coming is taken for crashed. -/
theorem slow_heartbeat_crashes : ¬ slowScheduler.CrashesAfterSilence slowInputs slowStart := by
  intro h
  have hsilent := (h 26 slowStart_crash.1).2 25 (by omega) (by omega)
  exact slowStart_crash.2 hsilent

/-- Its timeouts stand apart. -/
theorem slow_heartbeat_between_timeouts :
    ¬ slowScheduler.NoEventBetweenTimeouts slowInputs slowStart := by
  intro h
  have hcrashes := (Scheduler.crashes_after_silence_iff (by decide +kernel)).mpr h
  exact slowStart_crash.2 ((hcrashes 26 slowStart_crash.1).2 25 (by omega) (by omega))

end SpatialPlatform.Engine
