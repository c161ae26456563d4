import SpatialPlatform.Engine.Scheduler.Attempts
import SpatialPlatform.Engine.Workers.InProcessExecutor
import SpatialPlatform.Engine.Workers.ProcessExecutor

/-!
# The scheduler with its two executors

An attempt that ends leaves the executor behind. After a worker's own terminal
event, an exit, the end of the stream or a malformed frame it takes the next
task. Two endings it does not survive: the scheduler gives a silent attempt up
while the executor still counts it as running, and a failed ingest drops the
worker.

* `run_settles` — with either executor a run settles, whatever the workers do,
  as long as nothing is submitted after such an ending.
* `silent_worker_not_settled` — a worker that is silent once, and a retry.
-/

namespace SpatialPlatform.Engine

open SpatialPlatform.Core SpatialPlatform.Lib

/-! ## The process executor

Between attempts the executor is free, unless an attempt has cost it its worker;
the invariant is kept by every step that does not. So a submission that is
refused comes after such a step. -/

namespace ProcessExecutor

variable {hasStore : Bool} {s : ProcessExecutor}

/-- A worker that can be given a task. -/
structure Free (s : ProcessExecutor) : Prop where
  open_ : s.shutdown = false
  child : s.child = true
  idle : s.running = false

/-- The call drops the worker: an artifact cannot be ingested. -/
def FailsIngest (hasStore : Bool) (s : ProcessExecutor) (call : ProcessCall) : Prop :=
  s.reads = true ∧ hasStore = true ∧ ∃ taskId artifact,
    call.read = .message (.taskArtifact taskId artifact) ∧
      ingestArtifact call.storage artifact ≠ .ok ()

variable (hasStore s) in
/-- What a message makes of the executor: the worker goes only with a failed
ingest, and a terminal event ends the task. -/
theorem nextEvent_spec (storage : Storage) (message : WorkerMessage) :
    (s.nextEvent hasStore storage message).2.shutdown = s.shutdown ∧
      ((s.nextEvent hasStore storage message).2.child = s.child ∨
        hasStore = true ∧ ∃ taskId artifact, message = .taskArtifact taskId artifact ∧
          ingestArtifact storage artifact ≠ .ok ()) ∧
      ((s.nextEvent hasStore storage message).1.isTerminal = true →
        (s.nextEvent hasStore storage message).2.running = false) := by
  cases message with
  | taskProgress taskId percent substage =>
      simp only [nextEvent]
      split
      · exact ⟨rfl, .inl rfl, fun _ => rfl⟩
      · exact ⟨rfl, .inl rfl, fun h => nomatch h⟩
  | taskArtifact taskId artifact =>
      simp only [nextEvent]
      split
      · next error hingest =>
          refine ⟨rfl, .inr ?_, fun _ => rfl⟩
          cases hasStore with
          | false => simp at hingest
          | true =>
              have hingest : ingestArtifact storage artifact = .error error := by simpa using hingest
              exact ⟨rfl, taskId, artifact, rfl, by simp [hingest]⟩
      · exact ⟨rfl, .inl rfl, fun h => nomatch h⟩
  | taskCompleted taskId outputs => exact ⟨rfl, .inl rfl, fun _ => rfl⟩
  | taskFailed taskId code message recoverable => exact ⟨rfl, .inl rfl, fun _ => rfl⟩
  | _ => exact ⟨rfl, .inl rfl, fun h => nomatch h⟩

variable (hasStore) in
/-- What a wait makes of an executor with a worker. -/
theorem waitForEvent_spec (call : ProcessCall) (hopen : s.shutdown = false)
    (hchild : s.child = true) :
    (s.waitForEvent hasStore call).2.shutdown = false ∧
      ((s.waitForEvent hasStore call).2.child = true ∨ s.FailsIngest hasStore call) ∧
      ((s.waitForEvent hasStore call).1 = none → s.reads = true ∧ call.read = .timedOut) ∧
      ∀ event, (s.waitForEvent hasStore call).1 = some event → event.kind.isTerminal = true →
        (s.waitForEvent hasStore call).2.running = false := by
  cases hpending : s.pendingFailure with
  | some error =>
      rw [waitForEvent_of_pending hopen hchild hpending]
      exact ⟨hopen, .inl hchild, fun h => absurd h (Option.some_ne_none _), fun _ _ _ => rfl⟩
  | none =>
      have hreads : s.reads = true := by simp [reads, hopen, hchild, hpending]
      rw [waitForEvent_of_reads hreads]
      cases hread : call.read with
      | timedOut =>
          refine ⟨hopen, .inl hchild, fun _ => ⟨hreads, rfl⟩, ?_⟩
          rintro event ⟨⟩
      | eof =>
          exact ⟨hopen, .inl hchild, fun h => absurd h (Option.some_ne_none _), fun _ _ _ => rfl⟩
      | malformed =>
          exact ⟨hopen, .inl hchild, fun h => absurd h (Option.some_ne_none _), fun _ _ _ => rfl⟩
      | message message =>
          obtain ⟨hsame, hkeeps, hends⟩ := nextEvent_spec hasStore s call.storage message
          refine ⟨hsame.trans hopen, ?_, fun h => absurd h (Option.some_ne_none _), ?_⟩
          · refine hkeeps.imp (fun h => h.trans hchild) ?_
            rintro ⟨hstore, taskId, artifact, rfl, hingest⟩
            exact ⟨hreads, hstore, taskId, artifact, hread, hingest⟩
          · rintro event ⟨⟩ hterminal
            exact hends hterminal

end ProcessExecutor

section process

variable {sched : Scheduler ProcessExecutor ProcessCall} {inputs : Nat → StepInput ProcessCall}
  {s₀ : SchedulerState ProcessExecutor} {profile : ResourceProfile} {id : Uuid} {hasStore : Bool}

/-- The step ends an attempt and leaves the executor unfit: the eleventh
timeout, while the task still counts as running, or an artifact that cannot be
ingested. -/
def LosesWorker (hasStore : Bool) (s : SchedulerState ProcessExecutor)
    (input : StepInput ProcessCall) : Prop :=
  s.control.IsWaiting ∧
    ((s.executor.reads = true ∧ input.worker.read = .timedOut ∧ 10 ≤ s.control.missed) ∨
      s.executor.FailsIngest hasStore input.worker)

/-- Between attempts the worker can be given a task. -/
structure ProcessExecutor.Ready (executor : ProcessExecutor) (c : Control) : Prop where
  open_ : executor.shutdown = false
  child : executor.child = true
  idle : ¬ c.IsWaiting → executor.running = false

theorem ProcessExecutor.Ready.step {s : SchedulerState ProcessExecutor}
    {input : StepInput ProcessCall} (hexecutor : sched.executor = processExecutor profile id hasStore)
    (h : s.executor.Ready s.control) (hkeeps : ¬ LosesWorker hasStore s input) :
    (sched.advance input s).executor.Ready (sched.advance input s).control := by
  by_cases hwait : s.control.IsWaiting
  · obtain ⟨n, ids, x, produced, hcontrol⟩ := Control.isWaiting_iff.mp hwait
    obtain ⟨heq, hend⟩ := sched.advance_await input hcontrol
    rw [hexecutor] at heq hend
    obtain ⟨hopen, hchild, hsilent, hterminal⟩ :=
      ProcessExecutor.waitForEvent_spec hasStore input.worker h.open_ h.child
    refine ⟨by rw [heq]; exact hopen, ?_, fun hdone => ?_⟩
    · rw [heq]
      exact hchild.resolve_right fun hfails => hkeeps ⟨hwait, .inr hfails⟩
    · rw [heq]
      rcases hend with hwait' | ⟨hmissed, hnone⟩ | ⟨event, hevent, hkind⟩
      · exact absurd hwait' hdone
      · obtain ⟨hreads, hread⟩ := hsilent hnone
        exact absurd ⟨hwait, .inl ⟨hreads, hread, hmissed⟩⟩ hkeeps
      · exact hterminal event hevent hkind
  · have hidle := h.idle hwait
    have hleaves : ∀ {s' : SchedulerState ProcessExecutor}, Scheduler.Leaves s s' →
        s'.executor.Ready s'.control := by
      intro s' hl
      rw [hl.1]
      exact ⟨h.open_, h.child, fun _ => hidle⟩
    by_cases hsubmit : s.control.Submits
    · obtain ⟨n, ids, x, hcontrol⟩ := Control.submits_iff.mp hsubmit
      rcases sched.advance_submit input hcontrol with ⟨executor, haccepted, heq, hwait'⟩ | hl
      · rw [hexecutor] at haccepted
        obtain ⟨_, _, _, hopen, hchild, _⟩ := ProcessExecutor.submit_eq_ok haccepted
        rw [heq]
        exact ⟨hopen, hchild, fun hdone => absurd hwait' hdone⟩
      · exact hleaves hl
    · exact hleaves (sched.advance_leaves input hsubmit hwait)

/-- Nothing is submitted once a worker is lost. -/
def NoSubmissionAfter {σ ι : Type} (sched : Scheduler σ ι) (inputs : Nat → StepInput ι)
    (s₀ : SchedulerState σ) (loses : SchedulerState σ → StepInput ι → Prop) : Prop :=
  ∀ j k, j < k → loses (sched.states inputs s₀ j) (inputs j) →
    ¬ (sched.states inputs s₀ k).control.Submits

theorem process_ready (hexecutor : sched.executor = processExecutor profile id hasStore)
    (hquiet : Scheduler.Quiet inputs) (hfree : s₀.executor.Free) (k : Nat)
    (hkeeps : ∀ j < k, ¬ LosesWorker hasStore (sched.states inputs s₀ j) (inputs j)) :
    (sched.states inputs s₀ k).executor.Ready (sched.states inputs s₀ k).control := by
  induction k with
  | zero => exact ⟨hfree.open_, hfree.child, fun _ => hfree.idle⟩
  | succ k ih =>
      rw [Scheduler.states_succ_of_quiet hquiet]
      apply ProcessExecutor.Ready.step hexecutor
      · exact ih fun j hj => hkeeps j (Nat.lt_succ_of_lt hj)
      · exact hkeeps k (Nat.lt_succ_self k)

theorem process_accepts (hexecutor : sched.executor = processExecutor profile id hasStore)
    (hquiet : Scheduler.Quiet inputs) (hfree : s₀.executor.Free)
    (hlost : NoSubmissionAfter sched inputs s₀ (LosesWorker hasStore)) :
    sched.Accepted inputs s₀ := by
  intro k n ids x hcontrol
  have hsubmits : (sched.states inputs s₀ k).control.Submits :=
    Control.submits_iff.mpr ⟨n, ids, x, hcontrol⟩
  have hready := process_ready hexecutor hquiet hfree k fun j hj hloses =>
    hlost j k hj hloses hsubmits
  rw [hexecutor]
  apply ProcessExecutor.submit_accepts _ _ hready.open_ hready.child
  apply hready.idle
  rw [hcontrol]
  exact fun h => h

end process

/-! ## The in-process executor

The same for the executor with a thread of its own, which is not free as long as
a runner is at work that was given up. -/

section inProcess

variable {sched : Scheduler InProcessExecutor (List RunnerStep)}
  {inputs : Nat → StepInput (List RunnerStep)} {s₀ : SchedulerState InProcessExecutor}
  {profile : ResourceProfile} {id : Uuid}

/-- An executor without a task. -/
structure InProcessExecutor.Free (s : InProcessExecutor) : Prop where
  open_ : s.shutdown = false
  idle : s.busy = false
  clean : ∀ event ∈ s.events, event.kind.isTerminal = false

/-- The step gives an attempt up while its runner is still at work. -/
def GivesUpRunner (s : SchedulerState InProcessExecutor) (input : StepInput (List RunnerStep)) :
    Prop :=
  s.control.IsWaiting ∧ 10 ≤ s.control.missed ∧ (s.executor.catchUp input.worker).events = [] ∧
    (s.executor.catchUp input.worker).busy = true

/-- Between attempts the runner has returned, and no terminal event is left over. -/
structure InProcessExecutor.Ready (executor : InProcessExecutor) (c : Control) : Prop where
  open_ : executor.shutdown = false
  last : executor.TerminalLast
  free : ¬ c.IsWaiting → executor.Free

theorem InProcessExecutor.Free.terminalLast {s : InProcessExecutor} (h : s.Free) :
    s.TerminalLast := .of_open h.clean

/-- A wait, with the events that the runner has sent meanwhile. -/
theorem InProcessExecutor.Ready.await {s : SchedulerState InProcessExecutor}
    {input : StepInput (List RunnerStep)} (hexecutor : sched.executor = inProcessExecutor profile id)
    (h : s.executor.Ready s.control) (hkeeps : ¬ GivesUpRunner s input)
    (hwait : s.control.IsWaiting) :
    (sched.advance input s).executor.Ready (sched.advance input s).control := by
  obtain ⟨n, ids, x, produced, hcontrol⟩ := Control.isWaiting_iff.mp hwait
  obtain ⟨heq, hend⟩ := sched.advance_await input hcontrol
  rw [hexecutor] at heq hend
  replace heq : (sched.advance input s).executor = (s.executor.waitForEvent input.worker).2 := heq
  have hopen : (s.executor.catchUp input.worker).shutdown = false :=
    (InProcessExecutor.catchUp_shutdown _).trans h.open_
  have hlast : (s.executor.catchUp input.worker).TerminalLast := h.last.catchUp input.worker
  cases hevents : (s.executor.catchUp input.worker).events with
  -- a timeout: the attempt is given up only at the eleventh, with its runner idle
  | nil =>
      have hcall := InProcessExecutor.waitForEvent_of_nil hevents
      rw [heq, hcall]
      refine ⟨hopen, hlast, fun hdone => ?_⟩
      rcases hend with hwait' | ⟨hmissed, _⟩ | ⟨event, hevent, _⟩
      · exact absurd hwait' hdone
      · refine ⟨hopen, ?_, by simp [hevents]⟩
        cases hbusy : (s.executor.catchUp input.worker).busy with
        | false => rfl
        | true => exact absurd ⟨hwait, hmissed, hevents, hbusy⟩ hkeeps
      · replace hevent : (s.executor.waitForEvent input.worker).1 = some event := hevent
        rw [hcall] at hevent
        cases hevent
  -- an event: a terminal one is the last in the queue
  | cons event events =>
      have hcall := InProcessExecutor.waitForEvent_of_cons hevents
      obtain ⟨htail, hterminal⟩ := hlast.tail hevents
      rw [heq, hcall]
      refine ⟨hopen, htail, fun hdone => ?_⟩
      rcases hend with hwait' | ⟨_, hnone⟩ | ⟨other, hevent, hkind⟩
      · exact absurd hwait' hdone
      · replace hnone : (s.executor.waitForEvent input.worker).1 = none := hnone
        rw [hcall] at hnone
        cases hnone
      · replace hevent : (s.executor.waitForEvent input.worker).1 = some other := hevent
        rw [hcall] at hevent
        cases hevent
        obtain ⟨hidle, rfl⟩ := hterminal hkind
        exact ⟨hopen, hidle, by simp⟩

theorem InProcessExecutor.Ready.step {s : SchedulerState InProcessExecutor}
    {input : StepInput (List RunnerStep)} (hexecutor : sched.executor = inProcessExecutor profile id)
    (h : s.executor.Ready s.control) (hkeeps : ¬ GivesUpRunner s input) :
    (sched.advance input s).executor.Ready (sched.advance input s).control := by
  by_cases hwait : s.control.IsWaiting
  · exact h.await hexecutor hkeeps hwait
  · have hfree := h.free hwait
    have hleaves : ∀ {s' : SchedulerState InProcessExecutor}, Scheduler.Leaves s s' →
        s'.executor.Ready s'.control := by
      intro s' hl
      rw [hl.1]
      exact ⟨h.open_, h.last, fun _ => hfree⟩
    by_cases hsubmit : s.control.Submits
    · obtain ⟨n, ids, x, hcontrol⟩ := Control.submits_iff.mp hsubmit
      rcases sched.advance_submit input hcontrol with ⟨executor, haccepted, heq, hwait'⟩ | hl
      · rw [hexecutor] at haccepted
        obtain ⟨hopen, hevents⟩ := InProcessExecutor.submit_eq_ok haccepted
        rw [InProcessExecutor.catchUp_of_idle hfree.idle] at hevents
        rw [heq]
        refine ⟨hopen, .of_open ?_, fun hdone => absurd hwait' hdone⟩
        rw [hevents]
        exact hfree.clean
      · exact hleaves hl
    · exact hleaves (sched.advance_leaves input hsubmit hwait)

theorem inProcess_ready (hexecutor : sched.executor = inProcessExecutor profile id)
    (hquiet : Scheduler.Quiet inputs) (hfree : s₀.executor.Free) (k : Nat)
    (hkeeps : ∀ j < k, ¬ GivesUpRunner (sched.states inputs s₀ j) (inputs j)) :
    (sched.states inputs s₀ k).executor.Ready (sched.states inputs s₀ k).control := by
  induction k with
  | zero => exact ⟨hfree.open_, hfree.terminalLast, fun _ => hfree⟩
  | succ k ih =>
      rw [Scheduler.states_succ_of_quiet hquiet]
      apply InProcessExecutor.Ready.step hexecutor
      · exact ih fun j hj => hkeeps j (Nat.lt_succ_of_lt hj)
      · exact hkeeps k (Nat.lt_succ_self k)

/-- The scheduler never shuts its executor down. -/
theorem inProcess_open (hexecutor : sched.executor = inProcessExecutor profile id)
    (hquiet : Scheduler.Quiet inputs) (hopen : s₀.executor.shutdown = false) (k : Nat) :
    (sched.states inputs s₀ k).executor.shutdown = false := by
  induction k with
  | zero => exact hopen
  | succ k ih =>
      rw [Scheduler.states_succ_of_quiet hquiet]
      by_cases hwait : (sched.states inputs s₀ k).control.IsWaiting
      · obtain ⟨n, ids, x, produced, hcontrol⟩ := Control.isWaiting_iff.mp hwait
        rw [(sched.advance_await (inputs k) hcontrol).1, hexecutor]
        exact (InProcessExecutor.waitForEvent_shutdown _).trans ih
      · by_cases hsubmit : (sched.states inputs s₀ k).control.Submits
        · obtain ⟨n, ids, x, hcontrol⟩ := Control.submits_iff.mp hsubmit
          rcases sched.advance_submit (inputs k) hcontrol with ⟨executor, haccepted, heq, _⟩ | hl
          · rw [hexecutor] at haccepted
            rw [heq]
            exact (InProcessExecutor.submit_eq_ok haccepted).1
          · rw [hl.1]
            exact ih
        · rw [(sched.advance_leaves (inputs k) hsubmit hwait).1]
          exact ih

/-- When a task is submitted after an attempt was given up, the runner has returned. -/
def RunnersReturn (sched : Scheduler InProcessExecutor (List RunnerStep))
    (inputs : Nat → StepInput (List RunnerStep)) (s₀ : SchedulerState InProcessExecutor) : Prop :=
  ∀ j k, j < k → GivesUpRunner (sched.states inputs s₀ j) (inputs j) →
    (sched.states inputs s₀ k).control.Submits →
      ((sched.states inputs s₀ k).executor.catchUp (inputs k).worker).busy = false

theorem inProcess_accepts (hexecutor : sched.executor = inProcessExecutor profile id)
    (hquiet : Scheduler.Quiet inputs) (hfree : s₀.executor.Free)
    (hreturn : RunnersReturn sched inputs s₀) : sched.Accepted inputs s₀ := by
  intro k n ids x hcontrol
  have hsubmits : (sched.states inputs s₀ k).control.Submits :=
    Control.submits_iff.mpr ⟨n, ids, x, hcontrol⟩
  rw [hexecutor]
  apply InProcessExecutor.submit_accepts
  · rw [InProcessExecutor.catchUp_shutdown]
    exact inProcess_open hexecutor hquiet hfree.open_ k
  · by_cases hkeeps : ∀ j < k, ¬ GivesUpRunner (sched.states inputs s₀ j) (inputs j)
    · have hready := inProcess_ready hexecutor hquiet hfree k hkeeps
      have hidle := (hready.free (by rw [hcontrol]; exact fun h => h)).idle
      rw [InProcessExecutor.catchUp_of_idle hidle]
      exact hidle
    · obtain ⟨j, hjk, hgives⟩ : ∃ j < k, GivesUpRunner (sched.states inputs s₀ j) (inputs j) := by
        simpa using hkeeps
      exact hreturn j k hjk hgives hsubmits

end inProcess

/-! ## Both

Submissions that are accepted are all that a run of the scheduler needs to
settle. A lone task with a worker that says nothing is the example for the other
case. -/

/-- **A run settles.** With either executor, whatever its workers answer, every
task of an ordinary run is terminal at the end after at most `max_attempts`
submissions, and no exception leaves it, if no submission follows the loss of a
worker process, or meets a runner whose attempt was given up. -/
theorem run_settles (profile : ResourceProfile) (id : Uuid) (store : SchedulerStateStore)
    (g : TaskGraph) (externalInputs : List ArtifactRef) (pipelineHash : String) :
    (∀ (sched : Scheduler ProcessExecutor ProcessCall) (hasStore : Bool)
        (executor : ProcessExecutor) (s₀ : SchedulerState ProcessExecutor)
        (inputs : Nat → StepInput ProcessCall),
      sched.executor = processExecutor profile id hasStore →
      sched.run store executor g externalInputs pipelineHash = .ok s₀ → executor.Free →
      sched.Ordinary inputs s₀ → NoSubmissionAfter sched inputs s₀ (LosesWorker hasStore) →
        sched.Settles inputs s₀) ∧
    (∀ (sched : Scheduler InProcessExecutor (List RunnerStep)) (executor : InProcessExecutor)
        (s₀ : SchedulerState InProcessExecutor) (inputs : Nat → StepInput (List RunnerStep)),
      sched.executor = inProcessExecutor profile id →
      sched.run store executor g externalInputs pipelineHash = .ok s₀ → executor.Free →
      sched.Ordinary inputs s₀ → RunnersReturn sched inputs s₀ → sched.Settles inputs s₀) := by
  constructor
  · intro sched hasStore executor s₀ inputs hexecutor hrun hfree hordinary hlost
    obtain ⟨_, store', _, rfl⟩ := Scheduler.run_start hrun
    exact hordinary.settles rfl rfl (process_accepts hexecutor hordinary.quiet hfree hlost)
  · intro sched executor s₀ inputs hexecutor hrun hfree hordinary hreturn
    obtain ⟨_, store', _, rfl⟩ := Scheduler.run_start hrun
    exact hordinary.settles rfl rfl (inProcess_accepts hexecutor hordinary.quiet hfree hreturn)

/-! One task, tried twice at most, and a worker that never answers the first time. -/

private def loneGraph : TaskGraph :=
  (TaskGraph.build ⟨9⟩ ⟨8⟩ [{ id := ⟨1⟩, definition := { type := "import" } }] []).toOption.getD
    (.empty ⟨9⟩)

private def processScheduler : Scheduler ProcessExecutor ProcessCall where
  cache := ⟨fun s => s, "", ""⟩
  executor := processExecutor {} ⟨7⟩ false

private def processInputs (read : FrameRead) (_ : Nat) : StepInput ProcessCall where
  worker := { read := read, storage := { sha256Hex := fun _ => "" } }

private def processStart : SchedulerState ProcessExecutor :=
  (processScheduler.run {} {} loneGraph [] "").toOption.getD
    ⟨loneGraph, {}, {}, "", .returned, [], []⟩

private def inProcessScheduler : Scheduler InProcessExecutor (List RunnerStep) where
  cache := ⟨fun s => s, "", ""⟩
  executor := inProcessExecutor {} ⟨7⟩

/-- The runner throws at once. -/
private def inProcessInputs (_ : Nat) : StepInput (List RunnerStep) where
  worker := [.finish (.exception "gone")]

private def inProcessStart : SchedulerState InProcessExecutor :=
  (inProcessScheduler.run {} {} loneGraph [] "").toOption.getD
    ⟨loneGraph, {}, {}, "", .returned, [], []⟩

private theorem loneGraph_ordinary {σ ι : Type} {sched : Scheduler σ ι} {inputs : Nat → StepInput ι}
    {store : SchedulerStateStore} {executor : σ} {s₀ : SchedulerState σ}
    (hrun : sched.run store executor loneGraph [] "" = .ok s₀) (hquiet : Scheduler.Quiet inputs)
    {k : Nat} (hdead : (sched.states inputs s₀ k).control.isLive = false) :
    sched.Ordinary inputs s₀ := by
  obtain ⟨hvalid, store', _, rfl⟩ := Scheduler.run_start hrun
  refine ⟨?_, ?_, ?_, hquiet, Scheduler.responsive_of_dead hquiet hdead⟩
  · show ∀ x ∈ loneGraph.insertionOrder, loneGraph.status x ≠ .running
    decide +kernel
  · exact (TaskGraph.layered_of_validate hvalid).mono (by decide +kernel)
  · show ∀ x ∈ loneGraph.insertionOrder, 1 ≤ (loneGraph.task x).metadata.retry.maxAttempts ∧
      0 ≤ (loneGraph.task x).metadata.attempts
    decide +kernel

/-- The worker exits at once, or the runner throws at once: the task fails after two attempts. -/
theorem crashing_workers_settle :
    processScheduler.Settles (processInputs .eof) processStart ∧
      inProcessScheduler.Settles inProcessInputs inProcessStart := by
  constructor
  · have hrun : processScheduler.run {} {} loneGraph [] "" = .ok processStart :=
      eq_ok_getD _ (by decide +kernel)
    have hquiet : Scheduler.Quiet (processInputs .eof) := fun _ => rfl
    have hdead : (processScheduler.states (processInputs .eof) processStart 17).control.isLive =
        false := by
      decide +kernel
    apply (run_settles {} ⟨7⟩ {} loneGraph [] "").1 processScheduler false {} _ _ rfl hrun
    · exact ⟨rfl, rfl, rfl⟩
    · exact loneGraph_ordinary hrun hquiet hdead
    · -- the worker is never silent, and its artifacts are never ingested
      rintro j k _ ⟨_, ⟨_, hread, _⟩ | ⟨_, hstore, _⟩⟩
      · cases hread
      · cases hstore
  · have hrun : inProcessScheduler.run {} {} loneGraph [] "" = .ok inProcessStart :=
      eq_ok_getD _ (by decide +kernel)
    have hquiet : Scheduler.Quiet inProcessInputs := fun _ => rfl
    have hdead : (inProcessScheduler.states inProcessInputs inProcessStart 17).control.isLive =
        false := by
      decide +kernel
    apply (run_settles {} ⟨7⟩ {} loneGraph [] "").2 inProcessScheduler {} _ _ rfl hrun
    · exact ⟨rfl, rfl, by simp⟩
    · exact loneGraph_ordinary hrun hquiet hdead
    · intro j k _ _ _
      show (InProcessExecutor.runTask _ (.finish (.exception "gone"))).busy = false
      exact InProcessExecutor.runTask_finish _

/-- The eleventh timeout counts as a crash, which is retried, and `Submit` throws. -/
theorem silent_worker_not_settled :
    processScheduler.run {} {} loneGraph [] "" = .ok processStart ∧
      processScheduler.Ordinary (processInputs .timedOut) processStart ∧
        ¬ processScheduler.Settles (processInputs .timedOut) processStart := by
  have hrun : processScheduler.run {} {} loneGraph [] "" = .ok processStart :=
    eq_ok_getD _ (by decide +kernel)
  have hquiet : Scheduler.Quiet (processInputs .timedOut) := fun _ => rfl
  have hthrew : (processScheduler.states (processInputs .timedOut) processStart 22).control =
      .threw ⟨.workerBusy, "worker already has a task in flight (max_concurrency = 1)"⟩ := by
    decide +kernel
  refine ⟨hrun, loneGraph_ordinary hrun hquiet (by rw [hthrew]; rfl), fun h => ?_⟩
  exact h.calm 22 _ hthrew

end SpatialPlatform.Engine
