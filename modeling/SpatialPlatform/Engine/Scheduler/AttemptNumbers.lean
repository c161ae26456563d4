import SpatialPlatform.Engine.Scheduler.Provenance
import SpatialPlatform.Engine.Task.Calls

/-!
# The numbers of the recorded attempts

A session is one life of the engine on a project: `Run` or `Resume`, and as many
steps as it took until it ended or the host stopped. The rows of `task_runs`
that sessions leave behind carry the number `attempts + 1`, and a failure has
been counted before its row is written. So the first attempt of a task is number
1 when it succeeds or is cancelled, and number 2 when it fails, and a success
that follows has the number of the failure before it.

* `history_cases` — sessions without failed attempts leave at most one row for
  each task, with the number 1, and a failure leaves a first row with the number
  2.
* `attempts_in_order_iff` — the numbers are 1, 2, 3, ... exactly when no attempt
  has failed.
-/

namespace SpatialPlatform.Engine

open SpatialPlatform.Core SpatialPlatform.Lib

/-! ## Sessions

A history is a list of sessions on one database, and a session is what came in
from outside with the number of steps it got to; so a crash is a session that
ends early. What is shown of histories is shown by induction from the last
session, with `FirstAttempts` as what the database satisfies between sessions. -/

/-- How a session begins: with a graph that has been put together by calls, or with a stored job. -/
inductive SessionEntry where
  | run (jobId : Uuid) (calls : List GraphCall) (externalInputs : List ArtifactRef)
      (pipelineHash : String)
  | resume (jobId fresh : Uuid)

/-- One life of a scheduler: how it begins, what it meets, and how many steps it gets to. -/
structure Session (σ ι : Type) where
  sched : Scheduler σ ι
  entry : SessionEntry
  executor : σ
  inputs : Nat → StepInput ι
  steps : Nat

namespace Session

variable {σ ι : Type}

/-- `Run` or `Resume` up to `Execute`. -/
def start (session : Session σ ι) (store : SchedulerStateStore) :
    Except ProjectError (SchedulerState σ) :=
  match session.entry with
  | .run jobId calls externalInputs pipelineHash =>
      session.sched.run store session.executor (TaskGraph.built jobId calls) externalInputs
        pipelineHash
  | .resume jobId fresh => Scheduler.resume store session.executor jobId fresh

/-- The database after the session. An entry that throws has not written to it. -/
def after (session : Session σ ι) (store : SchedulerStateStore) : SchedulerStateStore :=
  match session.start store with
  | .error _ => store
  | .ok s₀ => (session.sched.states session.inputs s₀ session.steps).store

/-- The database after some sessions on a new project. -/
def history (sessions : List (Session σ ι)) : SchedulerStateStore :=
  sessions.foldl (fun store session => session.after store) {}

theorem history_concat (sessions : List (Session σ ι)) (session : Session σ ι) :
    history (sessions ++ [session]) = session.after (history sessions) := by
  rw [history, List.foldl_concat]
  rfl

end Session

namespace SchedulerStateStore

/-- The numbers of the recorded attempts of a task, in the order of their rows. -/
def attemptNumbers (store : SchedulerStateStore) (x : Uuid) : List Int :=
  (store.runs.filter fun run => run.taskId = x).map ExecutionRecord.attempt

/-- The numbers are 1, 2, 3, ... for every task. -/
def AttemptsInOrder (store : SchedulerStateStore) : Prop :=
  ∀ x, store.attemptNumbers x = (List.range (store.attemptNumbers x).length).map fun i => (i : Int) + 1

variable {store : SchedulerStateStore} {x : Uuid}

theorem attemptNumbers_recordRun (record : ExecutionRecord) :
    (store.recordRun record).attemptNumbers x =
      store.attemptNumbers x ++ if record.taskId = x then [record.attempt] else [] := by
  rw [attemptNumbers, recordRun, List.filter_append, List.map_append]
  by_cases h : record.taskId = x
  · simp [h, attemptNumbers]
  · simp [h, attemptNumbers]

/-- The rows that an upsert leaves. -/
theorem mem_upsertTask {jobId : Uuid} {t : TaskInstance} {row : TaskRow}
    (h : row ∈ (store.upsertTask jobId t).tasks) :
    (row ∈ store.tasks ∧ row.task.id ≠ t.id) ∨ row.task = t := by
  unfold upsertTask at h
  split at h
  · obtain ⟨old, hold, heq⟩ := List.mem_map.mp h
    split at heq
    · exact .inr (by rw [← heq])
    · next hne => exact .inl ⟨heq ▸ hold, heq ▸ hne⟩
  · next hnot =>
      rcases List.mem_append.mp h with h | h
      · refine .inl ⟨h, fun heq => hnot ?_⟩
        exact List.any_eq_true.mpr ⟨row, h, by simpa using heq⟩
      · exact .inr (by rw [List.mem_singleton.mp h])

/-- The task is in the table. -/
def Holds (store : SchedulerStateStore) (x : Uuid) : Prop := ∃ row ∈ store.tasks, row.task.id = x

theorem holds_upsertTask (jobId : Uuid) (t : TaskInstance) :
    (store.upsertTask jobId t).Holds x ↔ store.Holds x ∨ x = t.id := by
  unfold upsertTask Holds
  split
  · next hcontains =>
      obtain ⟨row, hrow, hid⟩ := List.any_eq_true.mp hcontains
      have hid : row.task.id = t.id := by simpa using hid
      constructor
      · intro h
        obtain ⟨row', hrow', rfl⟩ := h
        obtain ⟨old, hold, heq⟩ := List.mem_map.mp hrow'
        split at heq
        · exact .inr (by rw [← heq])
        · exact .inl ⟨old, hold, by rw [heq]⟩
      · intro h
        have hother : ∃ old ∈ store.tasks, old.task.id = x := by
          rcases h with h | rfl
          · exact h
          · exact ⟨row, hrow, hid⟩
        obtain ⟨old, hold, rfl⟩ := hother
        refine ⟨_, List.mem_map_of_mem hold, ?_⟩
        split
        · next heq => exact heq.symm
        · rfl
  · simp only [List.mem_append, List.mem_singleton]
    constructor
    · intro h
      obtain ⟨row, hrow | rfl, hid⟩ := h
      · exact .inl ⟨row, hrow, hid⟩
      · exact .inr hid.symm
    · intro h
      rcases h with ⟨row, hrow, hid⟩ | rfl
      · exact ⟨row, .inl hrow, hid⟩
      · exact ⟨_, .inr rfl, rfl⟩

/-- An attempt of the task is recorded. -/
def Recorded (store : SchedulerStateStore) (x : Uuid) : Prop := ∃ run ∈ store.runs, run.taskId = x

theorem attemptNumbers_of_not_recorded (h : ¬ store.Recorded x) : store.attemptNumbers x = [] := by
  rw [attemptNumbers, List.map_eq_nil_iff, List.filter_eq_nil_iff]
  intro run hrun hid
  exact h ⟨run, hrun, of_decide_eq_true hid⟩

theorem recorded_recordRun (record : ExecutionRecord) :
    (store.recordRun record).Recorded x ↔ store.Recorded x ∨ record.taskId = x := by
  unfold Recorded recordRun
  simp only [List.mem_append, List.mem_singleton]
  constructor
  · intro h
    obtain ⟨run, hrun | rfl, hid⟩ := h
    · exact .inl ⟨run, hrun, hid⟩
    · exact .inr hid
  · intro h
    rcases h with ⟨run, hrun, hid⟩ | hid
    · exact ⟨run, .inl hrun, hid⟩
    · exact ⟨record, .inr rfl, hid⟩

@[simp] theorem upsertTask_runs (jobId : Uuid) (t : TaskInstance) :
    (store.upsertTask jobId t).runs = store.runs := by
  unfold upsertTask
  split <;> rfl

/-- The state has no way out. -/
def Final (state : TaskStatus) : Prop := state = .succeeded ∨ state = .cancelled

theorem not_final_of_legal {state target : TaskStatus} (h : TaskStatus.isLegal state target = true) :
    ¬ Final state := by
  intro hfinal
  rcases hfinal with rfl | rfl <;> simp [TaskStatus.isLegal] at h

/-- The rows of a project in which no attempt has failed: nothing is counted,
and a recorded task has ended with its first attempt. -/
structure FirstAttempts (store : SchedulerStateStore) : Prop where
  named : ∀ row ∈ store.tasks, row.task.id.isNil = false
  held : ∀ x, store.Recorded x → store.Holds x
  uncounted : ∀ row ∈ store.tasks, row.task.metadata.attempts = 0
  ended : ∀ row ∈ store.tasks, store.Recorded row.task.id → Final row.task.state
  first : ∀ x, store.attemptNumbers x = [] ∨ store.attemptNumbers x = [1]

theorem FirstAttempts.congr {store' : SchedulerStateStore} (h : store.FirstAttempts)
    (htasks : store'.tasks = store.tasks) (hruns : store'.runs = store.runs) :
    store'.FirstAttempts := by
  have hrecorded (x : Uuid) : store'.Recorded x ↔ store.Recorded x := by
    unfold Recorded
    rw [hruns]
  refine ⟨?_, fun x hx => ?_, ?_, ?_, fun x => ?_⟩
  · rw [htasks]
    exact h.named
  · unfold Holds
    rw [htasks]
    exact h.held x ((hrecorded x).mp hx)
  · rw [htasks]
    exact h.uncounted
  · intro row hrow hx
    rw [htasks] at hrow
    exact h.ended row hrow ((hrecorded _).mp hx)
  · unfold attemptNumbers
    rw [hruns]
    exact h.first x

/-- A row may change while no attempt of its task is recorded. -/
theorem FirstAttempts.upsertTask {jobId : Uuid} {t : TaskInstance} (h : store.FirstAttempts)
    (hnamed : t.id.isNil = false) (hzero : t.metadata.attempts = 0) (hnew : ¬ store.Recorded t.id) :
    (store.upsertTask jobId t).FirstAttempts := by
  have hrecorded (x : Uuid) : (store.upsertTask jobId t).Recorded x ↔ store.Recorded x := by
    unfold Recorded
    rw [upsertTask_runs]
  refine ⟨fun row hrow => ?_, fun x hx => ?_, fun row hrow => ?_, fun row hrow hx => ?_,
    fun x => ?_⟩
  · rcases mem_upsertTask hrow with ⟨hold, _⟩ | rfl
    · exact h.named row hold
    · exact hnamed
  · exact (holds_upsertTask jobId t).mpr (.inl (h.held x ((hrecorded x).mp hx)))
  · rcases mem_upsertTask hrow with ⟨hold, _⟩ | rfl
    · exact h.uncounted row hold
    · exact hzero
  · rcases mem_upsertTask hrow with ⟨hold, _⟩ | rfl
    · exact h.ended row hold ((hrecorded _).mp hx)
    · exact absurd ((hrecorded _).mp hx) hnew
  · unfold attemptNumbers
    rw [upsertTask_runs]
    exact h.first x

/-- The first attempt of a task that has ended. -/
theorem FirstAttempts.recordRun {record : ExecutionRecord} (h : store.FirstAttempts)
    (hone : record.attempt = 1) (hnew : ¬ store.Recorded record.taskId)
    (hheld : store.Holds record.taskId)
    (hended : ∀ row ∈ store.tasks, row.task.id = record.taskId → Final row.task.state) :
    (store.recordRun record).FirstAttempts := by
  refine ⟨h.named, fun x hx => ?_, h.uncounted, fun row hrow hx => ?_, fun x => ?_⟩
  · rcases (recorded_recordRun record).mp hx with hx | rfl
    · exact h.held x hx
    · exact hheld
  · rcases (recorded_recordRun record).mp hx with hx | hx
    · exact h.ended row hrow hx
    · exact hended row hrow hx.symm
  · rw [attemptNumbers_recordRun]
    split
    · next heq =>
        right
        rw [attemptNumbers_of_not_recorded (heq ▸ hnew), hone]
        rfl
    · rw [List.append_nil]
      exact h.first x

end SchedulerStateStore

/-! ## Before the first failure

While no attempt has failed, each task is tried at most once. `Unfailed` relates
graph and database in the middle of a session; between `Mark` and `RecordRun` a
task has ended whose row is still missing, which `AwaitsRecord` allows for. -/

section unfailed

open SchedulerStateStore

/-- Graph and database of a session in which no attempt has failed so far. -/
structure Unfailed (g : TaskGraph) (store : SchedulerStateStore) : Prop where
  rows : store.FirstAttempts
  named : ∀ x ∈ g.insertionOrder, x.isNil = false
  uncounted : ∀ x ∈ g.insertionOrder, (g.task x).metadata.attempts = 0
  held : ∀ x ∈ g.insertionOrder, store.Holds x
  ended : ∀ x ∈ g.insertionOrder, store.Recorded x → Final (g.status x)

/-- The task has ended in this state, and its attempt is still to be recorded. -/
structure AwaitsRecord (state : TaskStatus) (g : TaskGraph) (store : SchedulerStateStore)
    (id : Uuid) : Prop where
  status : g.status id = state
  unrecorded : ¬ store.Recorded id
  persisted : ∀ row ∈ store.tasks, row.task.id = id → row.task.state = state

/-- What holds of the current task in each phase before a failure. -/
def Phase.Unfailed (g : TaskGraph) (store : SchedulerStateStore) (id : Uuid) : Phase → Prop
  | .submit | .await _ _ => g.status id = .running
  | .storeOutput _ | .recordSucceeded _ => AwaitsRecord .succeeded g store id
  | .recordCancelled => AwaitsRecord .cancelled g store id
  | .markFailed _ | .markPending => False
  | .cacheHit _ | .dispatch | .threadOutputs _ => True

def Control.Unfailed (g : TaskGraph) (store : SchedulerStateStore) : Control → Prop
  | .propagate _ ids _ | .ready _ ids _ => ids ⊆ g.insertionOrder
  | .task _ ids id phase =>
      ids ⊆ g.insertionOrder ∧ id ∈ g.insertionOrder ∧ phase.Unfailed g store id
  | .iterate _ | .returned | .threw _ => True

variable {g g' : TaskGraph} {store store' : SchedulerStateStore} {id : Uuid} {state : TaskStatus}

/-- Changes of inputs and outputs, and of the cache. -/
theorem Unfailed.congr (h : Unfailed g store) (horder : g'.insertionOrder = g.insertionOrder)
    (hmetadata : ∀ x, (g'.task x).metadata = (g.task x).metadata)
    (hstatus : ∀ x, g'.status x = g.status x) (htasks : store'.tasks = store.tasks)
    (hruns : store'.runs = store.runs) : Unfailed g' store' := by
  refine ⟨h.rows.congr htasks hruns, fun x hx => h.named x (horder ▸ hx), ?_, ?_, ?_⟩
  · intro x hx
    rw [hmetadata]
    exact h.uncounted x (horder ▸ hx)
  · intro x hx
    unfold Holds
    rw [htasks]
    exact h.held x (horder ▸ hx)
  · intro x hx hrecorded
    rw [hstatus]
    refine h.ended x (horder ▸ hx) ?_
    unfold Recorded at hrecorded ⊢
    rwa [← hruns]

/-- A task that can change its state is not recorded yet. -/
theorem Unfailed.not_recorded (h : Unfailed g store) (hid : id ∈ g.insertionOrder)
    (hlegal : TaskStatus.isLegal (g.status id) state = true) : ¬ store.Recorded id :=
  fun hrecorded => not_final_of_legal hlegal (h.ended id hid hrecorded)

/-- `Mark` on graph and database. -/
theorem Unfailed.setState (h : Unfailed g store) (hid : id ∈ g.insertionOrder)
    (hlegal : TaskStatus.isLegal (g.status id) state = true) (jobId : Uuid) :
    Unfailed (g.setState id state) (store.upsertTask jobId ((g.setState id state).task id)) := by
  have hnew := h.not_recorded hid hlegal
  refine ⟨?_, h.named, ?_, ?_, ?_⟩
  · apply h.rows.upsertTask
    · rw [TaskGraph.id_task]
      exact h.named id hid
    · rw [TaskGraph.metadata_setState]
      exact h.uncounted id hid
    · rwa [TaskGraph.id_task]
  · intro x hx
    rw [TaskGraph.metadata_setState]
    exact h.uncounted x hx
  · intro x hx
    exact (holds_upsertTask _ _).mpr (.inl (h.held x hx))
  · intro x hx hrecorded
    unfold Recorded at hrecorded
    rw [upsertTask_runs] at hrecorded
    have hne : x ≠ id := fun heq => hnew (heq ▸ hrecorded)
    rw [TaskGraph.status_setState, if_neg hne]
    exact h.ended x hx hrecorded

/-- After `Mark` the row of the task says what the graph says. -/
theorem Unfailed.awaitsRecord (h : Unfailed g store) (hid : id ∈ g.insertionOrder)
    (hlegal : TaskStatus.isLegal (g.status id) state = true) (jobId : Uuid) :
    AwaitsRecord state (g.setState id state)
      (store.upsertTask jobId ((g.setState id state).task id)) id := by
  refine ⟨by simp, ?_, fun row hrow hrowId => ?_⟩
  · unfold Recorded
    rw [upsertTask_runs]
    exact h.not_recorded hid hlegal
  · rcases mem_upsertTask hrow with ⟨_, hne⟩ | heq
    · rw [TaskGraph.id_task] at hne
      exact absurd hrowId hne
    · rw [heq, TaskGraph.task_setState, if_pos rfl]

/-- Marking another task. -/
theorem AwaitsRecord.setState {other : Uuid} {target : TaskStatus}
    (h : AwaitsRecord state g store id) (hne : id ≠ other) (jobId : Uuid) :
    AwaitsRecord state (g.setState other target)
      (store.upsertTask jobId ((g.setState other target).task other)) id := by
  refine ⟨?_, ?_, fun row hrow hid => ?_⟩
  · rw [TaskGraph.status_setState, if_neg hne]
    exact h.status
  · unfold Recorded
    rw [upsertTask_runs]
    exact h.unrecorded
  · rcases mem_upsertTask hrow with ⟨hold, _⟩ | heq
    · exact h.persisted row hold hid
    · rw [heq, TaskGraph.id_task] at hid
      exact absurd hid.symm hne

/-- A pending task is not the one that is in flight or awaits its record. -/
theorem Control.Unfailed.cancelled {c : Control} (h : c.Unfailed g store)
    (hpending : g.status id = .pending) (jobId : Uuid) :
    c.Unfailed (g.setState id .cancelled)
      (store.upsertTask jobId ((g.setState id .cancelled).task id)) := by
  cases c with
  | propagate _ _ _ | ready _ _ _ => exact h
  | iterate _ | returned | threw _ => trivial
  | task n ids x phase =>
      obtain ⟨hids, hx, hphase⟩ := h
      refine ⟨hids, hx, ?_⟩
      have hne (st : TaskStatus) (hst : g.status x = st) (hopen : st ≠ .pending) : x ≠ id :=
        fun heq => hopen (hst.symm.trans (heq ▸ hpending))
      cases phase with
      | submit | await _ _ =>
          have hx := hne _ hphase (by simp)
          show (g.setState id .cancelled).status x = .running
          rw [TaskGraph.status_setState, if_neg hx]
          exact hphase
      | storeOutput _ | recordSucceeded _ | recordCancelled =>
          exact AwaitsRecord.setState hphase (hne _ hphase.status (by simp)) jobId
      | markFailed _ | markPending => exact hphase
      | cacheHit _ | dispatch | threadOutputs _ => trivial

end unfailed

/-! ## Steps

One step of the thread, function by function. Only a failed attempt leaves the
invariant, so its absence is the hypothesis of the two lemmas about what the
worker says. -/

namespace SchedulerState

variable {σ : Type} {s s' : SchedulerState σ}

/-- The session so far, seen from one state. -/
structure NoneFailed (s : SchedulerState σ) : Prop where
  unfailed : Unfailed s.graph s.store
  position : s.control.Unfailed s.graph s.store

/-- Only the position changes. -/
theorem NoneFailed.goto (h : s.NoneFailed) {c : Control} (hc : c.Unfailed s.graph s.store) :
    (s.goto c).NoneFailed :=
  ⟨h.unfailed, hc⟩

/-- `Mark`, if it is legal. -/
theorem NoneFailed.mark (h : Unfailed s.graph s.store) {id : Uuid} (hid : id ∈ s.graph.insertionOrder)
    {target : TaskStatus} {next : Control}
    (hnext : TaskStatus.isLegal (s.graph.status id) target = true →
      next.Unfailed (s.graph.setState id target)
        (s.store.upsertTask s.graph.jobId ((s.graph.setState id target).task id))) :
    (s.mark id target next).NoneFailed := by
  cases hlegal : TaskStatus.isLegal (s.graph.status id) target with
  | false =>
      rw [mark_of_illegal next hlegal]
      exact ⟨h, trivial⟩
  | true =>
      rw [mark_of_legal next hlegal]
      exact ⟨h.setState hid hlegal _, hnext hlegal⟩

/-- The outputs of a task are set first. -/
theorem NoneFailed.markWithOutputs (h : Unfailed s.graph s.store) {id : Uuid}
    (hid : id ∈ s.graph.insertionOrder) (outputs : List ArtifactRef) {target : TaskStatus}
    {next : Control} (hgraph : s'.graph = s.graph.setOutputs id outputs) (hstore : s'.store = s.store)
    (hnext : ∀ g store, Unfailed g store → g.insertionOrder = s.graph.insertionOrder →
      TaskStatus.isLegal (g.status id) target = true →
      next.Unfailed (g.setState id target)
        (store.upsertTask g.jobId ((g.setState id target).task id))) :
    (s'.mark id target next).NoneFailed := by
  have hout : Unfailed s'.graph s'.store := by
    rw [hgraph, hstore]
    exact h.congr rfl (by simp) (by simp) rfl rfl
  have horder : s'.graph.insertionOrder = s.graph.insertionOrder := by rw [hgraph]; rfl
  exact NoneFailed.mark hout (horder ▸ hid) fun hlegal => hnext _ _ hout horder hlegal

end SchedulerState

namespace Scheduler

variable {σ ι : Type} {sched : Scheduler σ ι} {input : StepInput ι} {s : SchedulerState σ}

open SchedulerState

/-- Every call of `Cancel`. -/
theorem cancel_noneFailed (h : s.NoneFailed) (call : CancelCall ι) :
    (sched.cancel s call).NoneFailed := by
  unfold cancel
  split
  · exact h
  · next hin =>
      obtain ⟨_, hmem⟩ := not_or.mp hin
      split
      · next hpending =>
          exact NoneFailed.mark h.unfailed (not_not.mp hmem) fun _ =>
            h.position.cancelled hpending _
      · exact ⟨h.unfailed, h.position⟩
      · exact h

theorem served_noneFailed (h : s.NoneFailed) : (sched.served input s).NoneFailed := by
  unfold served
  generalize input.cancels = calls
  induction calls generalizing s with
  | nil => exact h
  | cons call calls ih => exact ih (cancel_noneFailed h call)

/-- The attempt that is awaited fails in this step: the worker says so, or it is
silent for the eleventh time. -/
def FailsAttempt (sched : Scheduler σ ι) (input : StepInput ι) (s : SchedulerState σ) : Prop :=
  ∃ n ids id produced missed, s.control = .task n ids id (.await produced missed) ∧
    match sched.event input s with
    | none => 10 ≤ missed
    | some event => event.taskId = id ∧ ∃ code message recoverable,
        event.kind = .failed code message recoverable

/-- One round of the event loop without a failure. -/
theorem awaitEvent_noneFailed {n : Nat} {ids : List Uuid} {id : Uuid} {produced : List ArtifactRef}
    {missed : Nat} (h : s.NoneFailed) (hcontrol : s.control = .task n ids id (.await produced missed))
    (hfine : match (sched.executor.waitForEvent s.executor input.worker).1 with
      | none => missed < 10
      | some event => event.taskId = id → ∀ code message recoverable,
          event.kind ≠ .failed code message recoverable) :
    (sched.awaitEvent input s n ids id produced missed).NoneFailed := by
  have hposition := h.position
  rw [hcontrol] at hposition
  obtain ⟨hids, hid, hrunning⟩ := hposition
  unfold awaitEvent
  split
  · next executor hwait =>
      rw [hwait] at hfine
      rw [if_neg (Nat.not_lt.mpr (Nat.succ_le_of_lt hfine))]
      exact ⟨h.unfailed, hids, hid, hrunning⟩
  · next event executor hwait =>
      rw [hwait] at hfine
      split
      · next hown =>
          cases hkind : event.kind with
          | failed code message recoverable => exact absurd hkind (hfine hown _ _ _)
          | artifactProduced _ | progress _ | log _ | heartbeat =>
              exact ⟨h.unfailed, hids, hid, hrunning⟩
          -- the outputs come first, then `Mark`
          | completed =>
              refine NoneFailed.markWithOutputs h.unfailed hid produced rfl rfl ?_
              intro g store hout horder hlegal
              rw [← horder] at hids hid
              exact ⟨hids, hid, hout.awaitsRecord hid hlegal _⟩
          | cancelled =>
              refine NoneFailed.markWithOutputs h.unfailed hid [] rfl rfl ?_
              intro g store hout horder hlegal
              rw [← horder] at hids hid
              exact ⟨hids, hid, hout.awaitsRecord hid hlegal _⟩
      · exact ⟨h.unfailed, by rw [hcontrol]; exact ⟨hids, hid, hrunning⟩⟩

/-- A recorded first attempt. -/
theorem recordRun_noneFailed {n : Nat} {ids : List Uuid} {id : Uuid} {phase : Phase}
    {state : TaskStatus} (h : s.NoneFailed) (hids : ids ⊆ s.graph.insertionOrder)
    (hid : id ∈ s.graph.insertionOrder) (hstate : SchedulerStateStore.Final state)
    (hawaits : AwaitsRecord state s.graph s.store id) (workerId : Uuid)
    (outputs : List ArtifactRef) {next : Control}
    (hnext : next = .ready n ids true ∨ next = .task n ids id phase ∧
      ∀ g store, phase.Unfailed g store id) :
    ((s.recordRun workerId id state outputs none).goto next).NoneFailed := by
  have hrecord : (s.graph.task id).id = id := s.graph.id_task id
  have hzero := h.unfailed.uncounted id hid
  refine ⟨⟨?_, h.unfailed.named, h.unfailed.uncounted, h.unfailed.held, ?_⟩, ?_⟩
  · apply h.unfailed.rows.recordRun
    · show (s.graph.task id).metadata.attempts + 1 = 1
      rw [hzero]
      rfl
    · rw [hrecord]
      exact hawaits.unrecorded
    · rw [hrecord]
      exact h.unfailed.held id hid
    · intro row hrow hrowId
      rw [hawaits.persisted row hrow (hrowId.trans hrecord)]
      exact hstate
  -- a task recorded before, or the one that has just ended
  · intro x hx hrecorded
    rcases (SchedulerStateStore.recorded_recordRun _).mp hrecorded with hold | heq
    · exact h.unfailed.ended x hx hold
    · rw [← (hrecord.symm.trans heq : id = x)]
      show SchedulerStateStore.Final (s.graph.status id)
      rw [hawaits.status]
      exact hstate
  · rcases hnext with rfl | ⟨rfl, hphase⟩
    · exact hids
    · exact ⟨hids, hid, hphase _ _⟩

/-- One step of the dispatch without a failure. -/
theorem dispatchAndAwait_noneFailed {n : Nat} {ids : List Uuid} {id : Uuid} {phase : Phase}
    (h : s.NoneFailed) (hcontrol : s.control = .task n ids id phase)
    (hfine : ∀ produced missed, phase = .await produced missed →
      match (sched.executor.waitForEvent s.executor input.worker).1 with
      | none => missed < 10
      | some event => event.taskId = id → ∀ code message recoverable,
          event.kind ≠ .failed code message recoverable) :
    (sched.dispatchAndAwait input s n ids id phase).NoneFailed := by
  have hposition := h.position
  rw [hcontrol] at hposition
  obtain ⟨hids, hid, hphase⟩ := hposition
  cases phase with
  | cacheHit output =>
      refine NoneFailed.markWithOutputs h.unfailed hid [output] rfl rfl ?_
      intro g store _ horder _
      rw [← horder] at hids hid
      exact ⟨hids, hid, trivial⟩
  | dispatch =>
      simp only [dispatchAndAwait]
      split
      · next hrunning => exact h.goto ⟨hids, hid, hrunning⟩
      · refine NoneFailed.mark h.unfailed hid fun _ => ⟨hids, hid, ?_⟩
        show (s.graph.setState id .running).status id = .running
        simp
  | submit =>
      simp only [dispatchAndAwait]
      split
      · exact ⟨h.unfailed, trivial⟩
      · exact ⟨h.unfailed, hids, hid, hphase⟩
  | await produced missed =>
      exact awaitEvent_noneFailed h hcontrol (hfine produced missed rfl)
  | storeOutput declared =>
      simp only [dispatchAndAwait]
      split
      · exact h.goto ⟨hids, hid, hphase⟩
      · refine ⟨h.unfailed.congr rfl (fun _ => rfl) (fun _ => rfl) (by simp) (by simp), hids, hid, ?_⟩
        refine ⟨hphase.status, ?_, ?_⟩
        · unfold SchedulerStateStore.Recorded
          rw [TaskCache.storeOutput_runs]
          exact hphase.unrecorded
        · rw [TaskCache.storeOutput_tasks]
          exact hphase.persisted
  | recordSucceeded declared =>
      exact @recordRun_noneFailed _ s n ids id (.threadOutputs declared) _ h hids hid (.inl rfl)
        hphase _ _ _ (.inr ⟨rfl, fun _ _ => trivial⟩)
  | threadOutputs declared =>
      have horder : (s.graph.threadOutputsToDependents id declared
          (s.graph.task id).outputs).insertionOrder = s.graph.insertionOrder := by simp
      refine ⟨h.unfailed.congr horder ?_ ?_ rfl rfl, ?_⟩
      · exact s.graph.metadata_threadOutputsToDependents id declared _
      · exact s.graph.status_threadOutputsToDependents id declared _
      · show ids ⊆ (s.graph.threadOutputsToDependents id declared
          (s.graph.task id).outputs).insertionOrder
        rw [horder]
        exact hids
  -- a task is marked failed or pending only after a failure
  | markFailed retryable => exact hphase.elim
  | markPending => exact hphase.elim
  | recordCancelled =>
      exact @recordRun_noneFailed _ s n ids id .dispatch _ h hids hid (.inr rfl) hphase _ _ _
        (.inl rfl)

/-- What the cache does to the database is no concern of the attempts. -/
theorem tryCacheHit_noneFailed {n : Nat} {ids : List Uuid} {id : Uuid} {p : Bool}
    (h : s.NoneFailed) (hcontrol : s.control = .ready n (id :: ids) p) :
    (sched.tryCacheHit input s n ids id).NoneFailed := by
  have hposition := h.position
  rw [hcontrol] at hposition
  obtain ⟨hid, hids⟩ := List.cons_subset.mp hposition
  have htasks := sched.cache.lookup_tasks input.artifacts s.store (s.graph.task id)
  have hruns := sched.cache.lookup_runs input.artifacts s.store (s.graph.task id)
  unfold tryCacheHit
  split
  · next store hlookup =>
      rw [hlookup] at htasks hruns
      exact ⟨h.unfailed.congr rfl (fun _ => rfl) (fun _ => rfl) htasks hruns, hids, hid, trivial⟩
  · next entry store hlookup =>
      rw [hlookup] at htasks hruns
      have hstore := h.unfailed.congr rfl (fun _ => rfl) (fun _ => rfl) htasks hruns
      split
      · exact ⟨hstore.congr rfl (fun _ => rfl) (fun _ => rfl) rfl rfl, hids, hid, trivial⟩
      · exact @NoneFailed.mark _ { s with store := store } hstore _ hid _ _
          fun _ => ⟨hids, hid, trivial⟩

/-- One step of the thread without a failure. -/
theorem advance_noneFailed (h : s.NoneFailed)
    (hfine : ∀ n ids id produced missed, s.control = .task n ids id (.await produced missed) →
      match (sched.executor.waitForEvent s.executor input.worker).1 with
      | none => missed < 10
      | some event => event.taskId = id → ∀ code message recoverable,
          event.kind ≠ .failed code message recoverable) :
    (sched.advance input s).NoneFailed := by
  have hposition := h.position
  unfold advance
  split
  · split
    · exact h.goto (List.Subset.refl _)
    · exact h.goto trivial
  · next n id ids p hcontrol =>
      rw [hcontrol] at hposition
      obtain ⟨hid, hids⟩ := List.cons_subset.mp hposition
      split
      · exact NoneFailed.mark h.unfailed hid fun _ => hids
      · exact h.goto hids
  · split
    · exact h.goto trivial
    · exact h.goto fun x hx => (TaskGraph.mem_readyTasks.mp hx).1
  · next n id ids p hcontrol => exact tryCacheHit_noneFailed h hcontrol
  · split
    · exact h.goto trivial
    · exact ⟨h.unfailed, trivial⟩
  · next n ids id phase hcontrol =>
      exact dispatchAndAwait_noneFailed h hcontrol fun produced missed hphase =>
        hfine n ids id produced missed (hphase ▸ hcontrol)
  · exact h
  · exact h

/-- One step, if the attempt that is awaited does not fail. -/
theorem step_noneFailed (h : s.NoneFailed) (hfine : ¬ sched.FailsAttempt input s) :
    (sched.step input s).NoneFailed := by
  apply advance_noneFailed (served_noneFailed h)
  intro n ids id produced missed hcontrol
  change (sched.served input s).control = _ at hcontrol
  rw [served_control] at hcontrol
  show match sched.event input s with
    | none => missed < 10
    | some event => _
  cases hevent : sched.event input s with
  | none =>
      by_contra hlate
      refine hfine ⟨n, ids, id, produced, missed, hcontrol, ?_⟩
      rw [hevent]
      exact Nat.le_of_not_lt hlate
  | some event =>
      intro hown code message recoverable hkind
      refine hfine ⟨n, ids, id, produced, missed, hcontrol, ?_⟩
      rw [hevent]
      exact ⟨hown, code, message, recoverable, hkind⟩

/-! ## The first failure -/

/-- The row of a first attempt that fails has number 2: the failure has been counted before. -/
theorem failed_numbers {n : Nat} {ids : List Uuid} {id : Uuid} {error : ErrorRecord}
    (h : Unfailed s.graph s.store) (hid : id ∈ s.graph.insertionOrder)
    (hnew : ¬ s.store.Recorded id) :
    (sched.failed s n ids id error).store.attemptNumbers id = [2] := by
  have hattempts : ((s.graph.countAttempt id).task id).metadata.attempts = 1 := by
    rw [TaskGraph.task_countAttempt, if_pos rfl, h.uncounted id hid]
    rfl
  show (s.store.recordRun _).attemptNumbers id = [2]
  rw [SchedulerStateStore.attemptNumbers_recordRun,
    SchedulerStateStore.attemptNumbers_of_not_recorded hnew]
  show [] ++ (if ((s.graph.countAttempt id).task id).id = id then
    [((s.graph.countAttempt id).task id).metadata.attempts + 1] else []) = [(2 : Int)]
  rw [hattempts, if_pos (TaskGraph.id_task _ id)]
  rfl

/-- The step in which the first attempt fails. -/
theorem step_numbers (h : s.NoneFailed) (hfails : sched.FailsAttempt input s) :
    ∃ x, (sched.step input s).store.attemptNumbers x = [2] := by
  obtain ⟨n, ids, id, produced, missed, hcontrol, hfail⟩ := hfails
  obtain ⟨hunfailed, hposition⟩ := @served_noneFailed _ _ sched input _ h
  rw [← @served_control _ _ sched input] at hcontrol
  rw [hcontrol] at hposition
  obtain ⟨_, hid, hrunning⟩ := hposition
  have hnew : ¬ (sched.served input s).store.Recorded id := by
    intro hrecorded
    rcases hunfailed.ended id hid hrecorded with hfinal | hfinal
    · exact absurd (hrunning.symm.trans hfinal) (by simp)
    · exact absurd (hrunning.symm.trans hfinal) (by simp)
  refine ⟨id, ?_⟩
  show (sched.advance input (sched.served input s)).store.attemptNumbers id = [2]
  rw [advance, hcontrol]
  simp only [dispatchAndAwait, awaitEvent]
  rw [event] at hfail
  split
  · next executor hwait =>
      rw [hwait] at hfail
      rw [if_pos (Nat.lt_succ_of_le hfail)]
      exact failed_numbers hunfailed hid hnew
  · next event executor hwait =>
      rw [hwait] at hfail
      obtain ⟨hown, code, message, recoverable, hkind⟩ := hfail
      rw [if_pos hown, hkind]
      exact failed_numbers hunfailed hid hnew

/-! ## Rows are only added

No step takes a row away. So a number that is wrong once is wrong forever, which
is what the converse needs. -/

theorem mark_runs (s : SchedulerState σ) (id : Uuid) (target : TaskStatus) (next : Control) :
    (s.mark id target next).store.runs = s.store.runs := by
  unfold SchedulerState.mark
  split
  · rfl
  · exact SchedulerStateStore.upsertTask_runs _ _

theorem served_runs : (sched.served input s).store.runs = s.store.runs := by
  unfold served
  generalize input.cancels = calls
  induction calls generalizing s with
  | nil => rfl
  | cons call calls ih =>
      rw [List.foldl_cons, ih, cancel]
      split
      · rfl
      · split
        · exact mark_runs _ _ _ _
        · rfl
        · rfl

theorem failed_runs {n : Nat} {ids : List Uuid} {id : Uuid} {error : ErrorRecord} :
    s.store.runs <+: (sched.failed s n ids id error).store.runs :=
  List.prefix_append _ _

theorem awaitEvent_runs {n : Nat} {ids : List Uuid} {id : Uuid} {produced : List ArtifactRef}
    {missed : Nat} : s.store.runs <+: (sched.awaitEvent input s n ids id produced missed).store.runs := by
  unfold awaitEvent
  split
  · next executor _ =>
      split
      · exact @failed_runs _ _ sched { s with executor := executor } n ids id _
      · exact List.prefix_rfl
  · next event executor _ =>
      split
      · cases event.kind with
        | failed code message recoverable =>
            exact @failed_runs _ _ sched { s with executor := executor } n ids id _
        | completed | cancelled =>
            simp only [handleEvent]
            rw [mark_runs]
        | artifactProduced _ | progress _ | log _ | heartbeat => exact List.prefix_rfl
      · exact List.prefix_rfl

theorem dispatchAndAwait_runs {n : Nat} {ids : List Uuid} {id : Uuid} {phase : Phase} :
    s.store.runs <+: (sched.dispatchAndAwait input s n ids id phase).store.runs := by
  cases phase with
  | await produced missed => exact awaitEvent_runs
  | cacheHit _ | markPending =>
      simp only [dispatchAndAwait]
      rw [mark_runs]
  | markFailed retryable =>
      cases retryable <;> simp only [dispatchAndAwait] <;> rw [mark_runs]
  | dispatch =>
      simp only [dispatchAndAwait]
      split
      · exact List.prefix_rfl
      · rw [mark_runs]
  | submit =>
      simp only [dispatchAndAwait]
      split <;> exact List.prefix_rfl
  | storeOutput _ =>
      simp only [dispatchAndAwait]
      split
      · exact List.prefix_rfl
      · dsimp only
        rw [TaskCache.storeOutput_runs]
  | threadOutputs _ => exact List.prefix_rfl
  | recordSucceeded _ | recordCancelled => exact List.prefix_append _ _

theorem advance_runs : s.store.runs <+: (sched.advance input s).store.runs := by
  unfold advance
  split
  · split <;> exact List.prefix_rfl
  · split
    · rw [mark_runs]
    · exact List.prefix_rfl
  · split <;> exact List.prefix_rfl
  · next n id ids p _ =>
      have hruns := sched.cache.lookup_runs input.artifacts s.store (s.graph.task id)
      unfold tryCacheHit
      split
      · next store hlookup =>
          rw [hlookup] at hruns
          rw [← hruns]
      · next entry store hlookup =>
          rw [hlookup] at hruns
          rw [← hruns]
          split
          · exact List.prefix_rfl
          · rw [mark_runs]
  · split <;> exact List.prefix_rfl
  · exact dispatchAndAwait_runs
  · exact List.prefix_rfl
  · exact List.prefix_rfl

theorem step_runs : s.store.runs <+: (sched.step input s).store.runs := by
  rw [← @served_runs _ _ sched input s]
  exact advance_runs

end Scheduler

/-! ## The beginning of a session

`Run` takes a graph of tasks that are new to the project, `Resume` what the
project has stored. Both begin with the invariant. -/

section start

open SchedulerStateStore

variable {g : TaskGraph} {store store' : SchedulerStateStore}

/-- A graph is saved only if none of its tasks is in the table yet. -/
theorem SchedulerStateStore.saveGraph_eq_ok (h : store.saveGraph g = .ok store') :
    (∀ x ∈ g.insertionOrder, ¬ store.Holds x) ∧
      store'.tasks = store.tasks ++ g.insertionOrder.map (fun id => ⟨g.jobId, g.task id⟩) ∧
      store'.runs = store.runs := by
  unfold saveGraph at h
  split at h
  · cases h
  · next hnone =>
      cases h
      refine ⟨fun x hx hheld => hnone ?_, rfl, rfl⟩
      obtain ⟨row, hrow, hid⟩ := hheld
      refine List.any_eq_true.mpr ⟨x, hx, List.any_eq_true.mpr ⟨row, hrow, ?_⟩⟩
      exact decide_eq_true hid

theorem unfailed_of_saveGraph (hrows : store.FirstAttempts)
    (hnamed : ∀ x ∈ g.insertionOrder, x.isNil = false)
    (hzero : ∀ x ∈ g.insertionOrder, (g.task x).metadata.attempts = 0)
    (h : store.saveGraph g = .ok store') : Unfailed g store' := by
  obtain ⟨hnew, htasks, hruns⟩ := saveGraph_eq_ok h
  have hrecorded (x : Uuid) : store'.Recorded x ↔ store.Recorded x := by
    unfold Recorded
    rw [hruns]
  have hunrecorded (x : Uuid) (hx : x ∈ g.insertionOrder) : ¬ store.Recorded x :=
    fun hrec => hnew x hx (hrows.held x hrec)
  -- a row is an old one or that of a task of the graph
  have hcases (row : TaskRow) (hrow : row ∈ store'.tasks) : row ∈ store.tasks ∨
      ∃ x ∈ g.insertionOrder, row.task = g.task x := by
    rw [htasks, List.mem_append] at hrow
    refine hrow.imp_right fun hnew => ?_
    obtain ⟨x, hx, rfl⟩ := List.mem_map.mp hnew
    exact ⟨x, hx, rfl⟩
  refine ⟨⟨fun row hrow => ?_, fun x hx => ?_, fun row hrow => ?_, fun row hrow hrec => ?_,
    fun x => ?_⟩, hnamed, hzero, fun x hx => ?_, fun x hx hrec => ?_⟩
  · rcases hcases row hrow with hold | ⟨x, hx, heq⟩
    · exact hrows.named row hold
    · rw [heq, TaskGraph.id_task]
      exact hnamed x hx
  · obtain ⟨row, hrow, hid⟩ := hrows.held x ((hrecorded x).mp hx)
    exact ⟨row, htasks ▸ List.mem_append_left _ hrow, hid⟩
  · rcases hcases row hrow with hold | ⟨x, hx, heq⟩
    · exact hrows.uncounted row hold
    · rw [heq]
      exact hzero x hx
  · rw [hrecorded] at hrec
    rcases hcases row hrow with hold | ⟨x, hx, heq⟩
    · exact hrows.ended row hold hrec
    · rw [heq, TaskGraph.id_task] at hrec
      exact absurd hrec (hunrecorded x hx)
  · unfold attemptNumbers
    rw [hruns]
    exact hrows.first x
  · refine ⟨⟨g.jobId, g.task x⟩, ?_, g.id_task x⟩
    rw [htasks]
    exact List.mem_append_right _ (List.mem_map_of_mem hx)
  · exact absurd ((hrecorded x).mp hrec) (hunrecorded x hx)

/-- The tasks of a stored job, as `Resume` takes them up. -/
theorem unfailed_of_build (hrows : store.FirstAttempts) {jobId fresh : Uuid}
    {edges : List (Uuid × Uuid)}
    (h : TaskGraph.build jobId fresh ((store.loadTasks jobId).map Scheduler.reconcile) edges =
      .ok g) : Unfailed g store := by
  -- `reconcile` changes the state of a task and not its identifier
  have hid (task : TaskInstance) : (Scheduler.reconcile task).id = task.id := by
    unfold Scheduler.reconcile
    split <;> rfl
  -- each task of the graph comes from a row
  have hloaded : ∀ x ∈ g.insertionOrder, ∃ row ∈ store.tasks, row.task.id = x ∧
      g.task x = Scheduler.reconcile row.task := by
    intro x hx
    have hmem := TaskGraph.task_mem_of_build ?_ h x hx
    · obtain ⟨task, htask, heq⟩ := List.mem_map.mp hmem
      obtain ⟨row, hrow, rfl⟩ := List.mem_map.mp htask
      refine ⟨row, List.mem_of_mem_filter hrow, ?_, heq.symm⟩
      rw [← hid, heq, TaskGraph.id_task]
    · intro t ht
      obtain ⟨task, htask, rfl⟩ := List.mem_map.mp ht
      obtain ⟨row, hrow, rfl⟩ := List.mem_map.mp htask
      rw [hid]
      exact hrows.named row (List.mem_of_mem_filter hrow)
  refine ⟨hrows, fun x hx => ?_, fun x hx => ?_, fun x hx => ?_, fun x hx hrec => ?_⟩
  · obtain ⟨row, hrow, rfl, -⟩ := hloaded x hx
    exact hrows.named row hrow
  · obtain ⟨row, hrow, rfl, heq⟩ := hloaded x hx
    rw [heq, Scheduler.reconcile]
    split
    · rfl
    · exact hrows.uncounted row hrow
  · obtain ⟨row, hrow, hrowId, -⟩ := hloaded x hx
    exact ⟨row, hrow, hrowId⟩
  · obtain ⟨row, hrow, rfl, heq⟩ := hloaded x hx
    -- a recorded task has ended, so it is not taken up again
    have hfinal := hrows.ended row hrow hrec
    show Final (g.task row.task.id).state
    rw [heq, Scheduler.reconcile, if_neg]
    · exact hfinal
    · intro hrunning
      rcases hfinal with hstate | hstate <;> simp [hstate] at hrunning

end start

/-! ## Histories

The steps of a session by induction on their number, the sessions by induction
from the last one. The first failure of a history is in one session; the task
has then been counted an attempt too many before its row is written, and the
rows of later sessions do not repair that. -/

/-- The tasks of a graph that is run have not been counted an attempt. -/
def SessionEntry.Uncounted : SessionEntry → Prop
  | .run jobId calls _ _ => ∀ x ∈ (TaskGraph.built jobId calls).insertionOrder,
      ((TaskGraph.built jobId calls).task x).metadata.attempts = 0
  | .resume _ _ => True

namespace Session

open SchedulerStateStore

variable {σ ι : Type} {session : Session σ ι} {store : SchedulerStateStore} {s₀ : SchedulerState σ}

/-- `Resume` up to `Execute`. -/
theorem resume_eq_ok {executor : σ} {jobId fresh : Uuid}
    (h : Scheduler.resume store executor jobId fresh = .ok s₀) :
    ∃ g, TaskGraph.build jobId fresh ((store.loadTasks jobId).map Scheduler.reconcile)
        (store.loadDependencies jobId) = .ok g ∧
      s₀.graph = g ∧ s₀.store = store ∧ s₀.control = .iterate 0 := by
  obtain ⟨g, hbuild, hok⟩ := bind_eq_ok h
  cases hok
  exact ⟨g, hbuild, rfl, rfl, rfl⟩

theorem start_noneFailed (hrows : store.FirstAttempts) (hentry : session.entry.Uncounted)
    (h : session.start store = .ok s₀) : s₀.NoneFailed := by
  unfold start at h
  cases hcase : session.entry with
  | run jobId calls externalInputs pipelineHash =>
      rw [hcase] at h hentry
      obtain ⟨_, store', hsave, rfl⟩ := Scheduler.run_start h
      refine ⟨unfailed_of_saveGraph hrows ?_ hentry hsave, trivial⟩
      exact fun x hx => TaskGraph.isNil_of_mem_built hx
  | resume jobId fresh =>
      rw [hcase] at h
      obtain ⟨g, hbuild, hgraph, hstore, hcontrol⟩ := resume_eq_ok h
      refine ⟨?_, ?_⟩
      · rw [hgraph, hstore]
        exact unfailed_of_build hrows hbuild
      · rw [hcontrol]
        trivial

theorem start_runs (h : session.start store = .ok s₀) : s₀.store.runs = store.runs := by
  unfold start at h
  cases hcase : session.entry with
  | run jobId calls externalInputs pipelineHash =>
      rw [hcase] at h
      obtain ⟨_, store', hsave, rfl⟩ := Scheduler.run_start h
      exact (saveGraph_eq_ok hsave).2.2
  | resume jobId fresh =>
      rw [hcase] at h
      obtain ⟨g, -, -, hstore, -⟩ := resume_eq_ok h
      rw [hstore]

/-- An attempt fails in one of the steps of the session. -/
def FailsIn (session : Session σ ι) (store : SchedulerStateStore) : Prop :=
  ∃ s₀ k, session.start store = .ok s₀ ∧ k < session.steps ∧
    session.sched.FailsAttempt (session.inputs k) (session.sched.states session.inputs s₀ k)

theorem states_noneFailed (h₀ : s₀.NoneFailed) {n : Nat}
    (hfine : ∀ k < n, ¬ session.sched.FailsAttempt (session.inputs k)
      (session.sched.states session.inputs s₀ k)) :
    (session.sched.states session.inputs s₀ n).NoneFailed := by
  induction n with
  | zero => exact h₀
  | succ n ih =>
      have hn := ih fun k hk => hfine k (Nat.lt_succ_of_lt hk)
      exact Scheduler.step_noneFailed hn (hfine n (Nat.lt_succ_self n))

theorem states_runs {j k : Nat} (hjk : j ≤ k) :
    (session.sched.states session.inputs s₀ j).store.runs <+:
      (session.sched.states session.inputs s₀ k).store.runs := by
  induction hjk with
  | refl => exact List.prefix_rfl
  | step _ ih => exact ih.trans Scheduler.step_runs

/-- A session without failures. -/
theorem after_firstAttempts (hrows : store.FirstAttempts) (hentry : session.entry.Uncounted)
    (hfine : ¬ session.FailsIn store) : (session.after store).FirstAttempts := by
  unfold after
  split
  · exact hrows
  · next s₀ hstart =>
      have h₀ := start_noneFailed hrows hentry hstart
      exact (states_noneFailed h₀ fun k hk hfails =>
        hfine ⟨s₀, k, hstart, hk, hfails⟩).unfailed.rows

theorem after_runs : store.runs <+: (session.after store).runs := by
  unfold after
  split
  · exact List.prefix_rfl
  · next s₀ hstart =>
      rw [← start_runs hstart]
      exact states_runs (Nat.zero_le _)

theorem attemptNumbers_mono {store' : SchedulerStateStore} (h : store.runs <+: store'.runs)
    (x : Uuid) : store.attemptNumbers x <+: store'.attemptNumbers x :=
  (h.filter _).map _

/-- A session with a failure, and none before. -/
theorem after_numbers (hrows : store.FirstAttempts) (hentry : session.entry.Uncounted)
    (hfails : session.FailsIn store) :
    ∃ x, [2] <+: (session.after store).attemptNumbers x := by
  obtain ⟨s₀, k, hstart, hk, hfailsAt⟩ := hfails
  have h₀ := start_noneFailed hrows hentry hstart
  classical
  -- the first step in which an attempt fails
  have hex : ∃ j, session.sched.FailsAttempt (session.inputs j)
      (session.sched.states session.inputs s₀ j) := ⟨k, hfailsAt⟩
  have hmin := states_noneFailed h₀ fun j hj => Nat.find_min hex hj
  obtain ⟨x, hx⟩ := Scheduler.step_numbers hmin (Nat.find_spec hex)
  refine ⟨x, ?_⟩
  have hle : Nat.find hex + 1 ≤ session.steps :=
    Nat.lt_of_le_of_lt (Nat.find_min' hex hfailsAt) hk
  have hlater := attemptNumbers_mono (@states_runs _ _ session s₀ _ _ hle) x
  rw [Scheduler.states_succ, hx] at hlater
  unfold after
  rw [hstart]
  exact hlater

/-- No attempt fails in any of the sessions. -/
def NoFailure (sessions : List (Session σ ι)) : Prop :=
  ∀ earlier session later, sessions = earlier ++ session :: later →
    ¬ session.FailsIn (history earlier)

theorem noFailure_concat {sessions : List (Session σ ι)} :
    NoFailure (sessions ++ [session]) ↔ NoFailure sessions ∧ ¬ session.FailsIn (history sessions) := by
  constructor
  · intro h
    refine ⟨fun earlier other later heq => ?_, h sessions session [] rfl⟩
    exact h earlier other (later ++ [session]) (by rw [heq, List.append_assoc, List.cons_append])
  · intro h earlier other later heq
    rcases List.eq_nil_or_concat later with rfl | ⟨later, last, rfl⟩
    · obtain ⟨rfl, hlast⟩ := List.append_inj' heq rfl
      rw [← (List.cons.inj hlast).1]
      exact h.2
    · have heq' : sessions ++ [session] = (earlier ++ other :: later) ++ [last] := by
        rw [heq, List.concat_eq_append, List.append_assoc, List.cons_append]
      exact h.1 earlier other later (List.append_inj' heq' rfl).1

theorem firstAttempts_empty : ({} : SchedulerStateStore).FirstAttempts where
  named := by simp
  held x hx := by
    obtain ⟨run, hrun, -⟩ := hx
    exact absurd hrun List.not_mem_nil
  uncounted := by simp
  ended := by simp
  first _ := .inl rfl

/-- Sessions without failed attempts record the first attempts of tasks that
have ended with them, and a failure leaves a task whose first row has number 2. -/
theorem history_cases {sessions : List (Session σ ι)}
    (hentries : ∀ session ∈ sessions, session.entry.Uncounted) :
    (NoFailure sessions ∧ (history sessions).FirstAttempts) ∨
      (¬ NoFailure sessions ∧ ∃ x, [2] <+: (history sessions).attemptNumbers x) := by
  induction sessions using List.reverseRecOn with
  | nil =>
      refine .inl ⟨fun earlier session later heq => ?_, firstAttempts_empty⟩
      simp at heq
  | append_singleton sessions session ih =>
      rw [noFailure_concat, history_concat]
      have hentry := hentries session (by simp)
      rcases ih fun other hother => hentries other (by simp [hother]) with
        ⟨hfine, hrows⟩ | ⟨hfailed, x, hx⟩
      · by_cases hfails : session.FailsIn (history sessions)
        · exact .inr ⟨fun h => h.2 hfails, after_numbers hrows hentry hfails⟩
        · exact .inl ⟨⟨hfine, hfails⟩, after_firstAttempts hrows hentry hfails⟩
      · exact .inr ⟨fun h => hfailed h.1, x, hx.trans (attemptNumbers_mono after_runs x)⟩

/-- **When the attempts are numbered 1, 2, 3, ...**: after any sessions on a new
project, the numbers recorded for every task are those exactly when no attempt
has failed. -/
theorem attempts_in_order_iff (sessions : List (Session σ ι))
    (hentries : ∀ session ∈ sessions, session.entry.Uncounted) :
    (history sessions).AttemptsInOrder ↔ NoFailure sessions := by
  rcases history_cases hentries with ⟨hfine, hrows⟩ | ⟨hfailed, x, rest, hx⟩
  · refine iff_of_true (fun x => ?_) hfine
    rcases hrows.first x with hnone | hone
    · rw [hnone]
      rfl
    · rw [hone]
      rfl
  · refine iff_of_false (fun h => ?_) hfailed
    have hfirst := h x
    rw [← hx] at hfirst
    have hhead := congrArg List.head? hfirst
    simp [List.range_succ_eq_map] at hhead

/-! One task that is tried twice, and fails both times. -/

private def failingSession : Session (List WorkerEvent) Unit where
  sched :=
    { cache := ⟨fun s => s, "", ""⟩
      executor := .deterministic {} ⟨7⟩ fun _ => [.failed "OUT_OF_MEMORY" "killed" true] }
  entry := .run ⟨9⟩ [.addTask ⟨⟨8⟩, rfl⟩ { id := ⟨1⟩, definition := { type := "import" } }] [] ""
  executor := []
  inputs _ := { worker := () }
  steps := 30

private theorem failingSession_numbers :
    (history [failingSession]).attemptNumbers ⟨1⟩ = [2, 3] := by decide +kernel

/-- The two attempts have the numbers 2 and 3. -/
theorem failing_attempts_misnumbered : ¬ (history [failingSession]).AttemptsInOrder := by
  intro h
  have hnumbers := h ⟨1⟩
  rw [failingSession_numbers] at hnumbers
  exact absurd hnumbers (by decide)

/-- An attempt of the session has failed. -/
theorem failing_session_fails : ¬ NoFailure [failingSession] := by
  intro h
  have hentries : ∀ session ∈ [failingSession], session.entry.Uncounted := by
    intro session hsession
    obtain rfl := List.mem_singleton.mp hsession
    show ∀ x ∈ (TaskGraph.built ⟨9⟩ _).insertionOrder, _ = (0 : Int)
    decide +kernel
  have hnumbers := ((attempts_in_order_iff _ hentries).mpr h) ⟨1⟩
  rw [failingSession_numbers] at hnumbers
  exact absurd hnumbers (by decide)

end Session

end SpatialPlatform.Engine
