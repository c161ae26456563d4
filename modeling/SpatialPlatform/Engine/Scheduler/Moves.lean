import SpatialPlatform.Engine.Scheduler.Step

/-!
# What a step of the scheduler can do

`Move` is the scheduler as seen from the graph: which writes it can make from
which position, whatever the executor, the cache and the database answer.
`Coherent` relates the position to the statuses and holds in every reachable
state, `Cancel` calls included. The faithful step refines the moves
(`advance_moves`), and everything said later about statuses is read off them.
-/

namespace SpatialPlatform.Engine

open SpatialPlatform.Core

/-! ## Coherence of position and statuses

The thread stands somewhere in its loops, and the statuses of the tasks fit that
place. `Coherent` says how, position by position; it is what every later
invariant may assume, and every move keeps it. -/

/-- The statuses that the current task can have in each phase. Only at the head
of the dispatch loop can a `Cancel` have come first. -/
def Phase.Allows : Phase → TaskStatus → Prop
  | .cacheHit _, st | .submit, st | .await _ _, st | .markFailed _, st => st = .running
  | .dispatch, st => st = .pending ∨ st = .cancelled
  | .storeOutput _, st | .recordSucceeded _, st | .threadOutputs _, st => st = .succeeded
  | .markPending, st => st = .failed
  | .recordCancelled, st => st = .cancelled

/-- The thread is inside `Execute`. -/
def Control.isLive : Control → Bool
  | .returned | .threw _ => false
  | _ => true

/-- No task is in flight. -/
def NoneRunning (g : TaskGraph) : Prop := ∀ id ∈ g.insertionOrder, g.status id ≠ .running

/-- All dependencies of the task have succeeded. -/
def Eligible (g : TaskGraph) (id : Uuid) : Prop :=
  id ∈ g.insertionOrder ∧ ∀ d ∈ g.dependencies id, g.status d = .succeeded

/-- The tasks of a round that are still to be dispatched. -/
structure Queue (g : TaskGraph) (ids : List Uuid) : Prop where
  nodup : ids.Nodup
  eligible : ∀ id ∈ ids, Eligible g id
  open_ : ∀ id ∈ ids, g.status id = .pending ∨ g.status id = .cancelled

/-- What position and statuses have to do with each other. -/
def Coherent (g : TaskGraph) : Control → Prop
  | .iterate _ | .returned => NoneRunning g
  | .propagate _ ids _ => NoneRunning g ∧ ids ⊆ g.insertionOrder
  | .ready _ ids _ => NoneRunning g ∧ Queue g ids
  | .task _ ids id phase =>
      phase.Allows (g.status id) ∧ (∀ x ∈ g.insertionOrder, g.status x = .running → x = id) ∧
        Eligible g id ∧ id ∉ ids ∧ Queue g ids
  | .threw _ => True

section coherence

variable {g g' : TaskGraph} {id : Uuid} {ids : List Uuid} {state : TaskStatus}

theorem Queue.nil : Queue g [] := ⟨List.nodup_nil, by simp, by simp⟩

theorem Queue.tail (h : Queue g (id :: ids)) : Queue g ids :=
  ⟨(List.nodup_cons.mp h.nodup).2, fun x hx => h.eligible x (List.mem_cons_of_mem _ hx),
    fun x hx => h.open_ x (List.mem_cons_of_mem _ hx)⟩

/-- Coherence looks at shape and statuses only. -/
theorem Coherent.congr (hshape : g'.toTaskShape = g.toTaskShape)
    (hstatus : ∀ x, g'.status x = g.status x) {c : Control} (h : Coherent g c) : Coherent g' c := by
  cases c with
  | iterate n => simpa only [Coherent, NoneRunning, hshape, hstatus] using h
  | propagate n ids p => simpa only [Coherent, NoneRunning, hshape, hstatus] using h
  | ready n ids p =>
      obtain ⟨hnone, hnd, hel, hopen⟩ := h
      refine ⟨?_, hnd, ?_, ?_⟩
      · simpa only [NoneRunning, hshape, hstatus] using hnone
      · simpa only [Eligible, hshape, hstatus] using hel
      · simpa only [hstatus] using hopen
  | task n ids id phase =>
      obtain ⟨hphase, hrun, hid, hnot, hnd, hel, hopen⟩ := h
      refine ⟨?_, ?_, ?_, hnot, hnd, ?_, ?_⟩
      · rwa [hstatus]
      · simpa only [hshape, hstatus] using hrun
      · simpa only [Eligible, hshape, hstatus] using hid
      · simpa only [Eligible, hshape, hstatus] using hel
      · simpa only [hstatus] using hopen
  | returned => simpa only [Coherent, NoneRunning, hshape, hstatus] using h
  | threw e => trivial

/-- Writing a status keeps the eligible tasks eligible unless it takes a success back. -/
theorem Eligible.setState {x : Uuid} (h : Eligible g id)
    (hx : g.status x ≠ .succeeded ∨ state = .succeeded) : Eligible (g.setState x state) id := by
  refine ⟨h.1, fun d hd => ?_⟩
  have hdone := h.2 d hd
  rw [TaskGraph.status_setState]
  split
  · next hdx =>
      rcases hx with hx | hx
      · exact absurd (hdx ▸ hdone) hx
      · exact hx
  · exact hdone

theorem Queue.setState {x : Uuid} (h : Queue g ids)
    (hx : g.status x ≠ .succeeded ∨ state = .succeeded) (hmem : x ∉ ids ∨ state = .cancelled) :
    Queue (g.setState x state) ids := by
  refine ⟨h.nodup, fun id hid => (h.eligible id hid).setState hx, fun id hid => ?_⟩
  rw [TaskGraph.status_setState]
  split
  · next hix =>
      rcases hmem with hmem | hmem
      · exact absurd (hix ▸ hid) hmem
      · exact Or.inr hmem
  · exact h.open_ id hid

theorem NoneRunning.setState {x : Uuid} (h : NoneRunning g) (hstate : state ≠ .running) :
    NoneRunning (g.setState x state) := by
  intro id hid
  rw [TaskGraph.status_setState]
  split
  · exact hstate
  · exact h id hid

/-- Ending the only task in flight leaves none. -/
theorem NoneRunning.of_setState (hrun : ∀ x ∈ g.insertionOrder, g.status x = .running → x = id)
    (hstate : state ≠ .running) : NoneRunning (g.setState id state) := by
  intro x hx
  rw [TaskGraph.status_setState]
  split
  · exact hstate
  · next hne => exact fun h => hne (hrun x hx h)

/-- A task in flight is the current one. -/
theorem onlyRunning_setState (hrun : ∀ x ∈ g.insertionOrder, g.status x = .running → x = id) :
    ∀ x ∈ g.insertionOrder, (g.setState id state).status x = .running → x = id := by
  intro x hx h
  rw [TaskGraph.status_setState] at h
  split at h
  · assumption
  · exact hrun x hx h

/-- `Execute` starts coherent on a graph without running tasks. -/
theorem Coherent.start (h : NoneRunning g) : Coherent g (.iterate 0) := h

theorem Queue.readyTasks (g : TaskGraph) : Queue g g.readyTasks where
  nodup := g.nodup_readyTasks
  eligible x hx := by
    obtain ⟨hmem, _, hdeps⟩ := TaskGraph.mem_readyTasks.mp hx
    exact ⟨hmem, hdeps⟩
  open_ x hx := Or.inl (TaskGraph.mem_readyTasks.mp hx).2.1

end coherence

/-! ## Moves

The scheduler without database, executor and cache: what its thread can do to
the graph, with the position before and after. What the others would decide is
left open. -/

/-- The error `TaskStateMachine::Transition` raises when a cancelled task is to be dispatched. -/
def cancelledDispatched : ProjectError :=
  ⟨.internal, "illegal task state transition cancelled -> running"⟩

/-- The moves of the scheduler's own thread, with the graph and the position
before and after, and the task submitted, if any. -/
inductive Move (g : TaskGraph) : Control → TaskGraph → Control → Option Uuid → Prop
  | enter {n} (h : n < 10000) :
      Move g (.iterate n) g (.propagate n g.insertionOrder false) none
  | exhaust {n} (h : ¬ n < 10000) : Move g (.iterate n) g .returned none
  | propagate {n id ids p} (h : g.dependencyFailed id = true) :
      Move g (.propagate n (id :: ids) p)
        (g.setState id (g.task id).metadata.failure.status) (.propagate n ids true) none
  | pass {n id ids p} (h : g.dependencyFailed id = false) :
      Move g (.propagate n (id :: ids) p) g (.propagate n ids p) none
  | finish {n p} (h : g.allTerminal = true) : Move g (.propagate n [] p) g .returned none
  | snapshot {n p} (h : g.allTerminal = false) :
      Move g (.propagate n [] p) g (.ready n g.readyTasks p) none
  | again {n} : Move g (.ready n [] true) g (.iterate (n + 1)) none
  | stall {n} : Move g (.ready n [] false) g (.threw stalled) none
  | miss {n id ids p} : Move g (.ready n (id :: ids) p) g (.task n ids id .dispatch) none
  | hit {n id ids p} (output) (h : g.status id = .pending) :
      Move g (.ready n (id :: ids) p) (g.setState id .running) (.task n ids id (.cacheHit output))
        none
  | hitCancelled {n id ids p} (h : g.status id = .cancelled) :
      Move g (.ready n (id :: ids) p) g (.threw cancelledDispatched) none
  | replay {n id ids output} (h : g.status id = .running) :
      Move g (.task n ids id (.cacheHit output))
        ((g.setOutputs id [output]).setState id .succeeded)
        (.task n ids id (.threadOutputs (g.task id).outputs)) none
  | dispatch {n id ids} (h : g.status id = .pending) :
      Move g (.task n ids id .dispatch) (g.setState id .running) (.task n ids id .submit) none
  | dispatchCancelled {n id ids} (h : g.status id = .cancelled) :
      Move g (.task n ids id .dispatch) g (.threw cancelledDispatched) none
  | submit {n id ids} (h : g.status id = .running) :
      Move g (.task n ids id .submit) g (.task n ids id (.await [] 0)) (some id)
  | refuse {n id ids} (error) : Move g (.task n ids id .submit) g (.threw error) none
  | wait {n id ids produced missed} (produced' missed') :
      Move g (.task n ids id (.await produced missed)) g
        (.task n ids id (.await produced' missed')) none
  | complete {n id ids produced missed} (h : g.status id = .running) :
      Move g (.task n ids id (.await produced missed))
        ((g.setOutputs id produced).setState id .succeeded)
        (.task n ids id (.storeOutput (g.task id).outputs)) none
  | fail {n id ids produced missed} (recoverable : Bool) :
      Move g (.task n ids id (.await produced missed)) (g.countAttempt id)
        (.task n ids id (.markFailed (recoverable &&
          (g.task id).metadata.attempts + 1 < (g.task id).metadata.retry.maxAttempts))) none
  | abandon {n id ids produced missed} (h : g.status id = .running) :
      Move g (.task n ids id (.await produced missed))
        ((g.setOutputs id []).setState id .cancelled) (.task n ids id .recordCancelled) none
  | stored {n id ids declared} :
      Move g (.task n ids id (.storeOutput declared)) g (.task n ids id (.recordSucceeded declared))
        none
  | recorded {n id ids declared} :
      Move g (.task n ids id (.recordSucceeded declared)) g
        (.task n ids id (.threadOutputs declared)) none
  | thread {n id ids declared} :
      Move g (.task n ids id (.threadOutputs declared))
        (g.threadOutputsToDependents id declared (g.task id).outputs) (.ready n ids true) none
  | markFailed {n id ids} (h : g.status id = .running) :
      Move g (.task n ids id (.markFailed true)) (g.setState id .failed) (.task n ids id .markPending)
        none
  | giveUp {n id ids} (h : g.status id = .running) :
      Move g (.task n ids id (.markFailed false)) (g.setState id .failed) (.ready n ids true) none
  | retry {n id ids} (h : g.status id = .failed) :
      Move g (.task n ids id .markPending) (g.setState id .pending) (.task n ids id .dispatch) none
  | recordedCancelled {n id ids} :
      Move g (.task n ids id .recordCancelled) g (.ready n ids true) none
  | idle {c} (h : c.isLive = false) : Move g c g c none

/-! ## Moves keep coherence

A case for each constructor of `Move`. Most of them move the current task on by
one phase and its status with it; the cases are sorted by whether the task stays
current. -/

section coherence

variable {g g' : TaskGraph} {n : Nat} {ids : List Uuid} {id : Uuid} {phase phase' : Phase}
  {state : TaskStatus} {p : Bool}

theorem Coherent.setPhase (h : Coherent g (.task n ids id phase))
    (hphase : phase'.Allows (g.status id)) : Coherent g (.task n ids id phase') :=
  ⟨hphase, h.2⟩

theorem Coherent.setOutputs {c : Control} (h : Coherent g c) (outputs : List ArtifactRef) :
    Coherent (g.setOutputs id outputs) c :=
  h.congr (g.toTaskShape_setOutputs id outputs) fun x => by simp

/-- The current task changes its status and stays current. -/
theorem Coherent.setState_task (h : Coherent g (.task n ids id phase))
    (hstate : g.status id ≠ .succeeded ∨ state = .succeeded) (hphase : phase'.Allows state) :
    Coherent (g.setState id state) (.task n ids id phase') := by
  obtain ⟨_, hrun, hid, hnot, hq⟩ := h
  refine ⟨?_, onlyRunning_setState hrun, hid.setState hstate, hnot,
    hq.setState hstate (Or.inl hnot)⟩
  rwa [TaskGraph.status_setState, if_pos rfl]

/-- The current task ends and the round goes on. -/
theorem Coherent.setState_ready (h : Coherent g (.task n ids id phase))
    (hstate : g.status id ≠ .succeeded ∨ state = .succeeded) (hne : state ≠ .running) :
    Coherent (g.setState id state) (.ready n ids p) :=
  let ⟨_, hrun, _, hnot, hq⟩ := h
  ⟨NoneRunning.of_setState hrun hne, hq.setState hstate (Or.inl hnot)⟩

/-- The current task has ended and the round goes on. -/
theorem Coherent.ready (h : Coherent g (.task n ids id phase)) (hne : g.status id ≠ .running) :
    Coherent g (.ready n ids p) := by
  obtain ⟨_, hrun, _, _, hq⟩ := h
  refine ⟨fun x hx hxrun => ?_, hq⟩
  have hxid := hrun x hx hxrun
  exact hne (hxid ▸ hxrun)

theorem Move.coherent {c c' : Control} {submitted : Option Uuid}
    (h : Move g c g' c' submitted) (hc : Coherent g c) : Coherent g' c' := by
  cases h with
  | enter _ => exact ⟨hc, List.Subset.refl _⟩
  | exhaust _ => exact hc
  | @propagate n id ids p h =>
      refine ⟨hc.1.setState (FailurePolicy.status_ne_running _), fun x hx => ?_⟩
      exact hc.2 (List.mem_cons_of_mem _ hx)
  | @pass n id ids p h => exact ⟨hc.1, fun x hx => hc.2 (List.mem_cons_of_mem _ hx)⟩
  | finish _ => exact hc.1
  | snapshot _ => exact ⟨hc.1, Queue.readyTasks g⟩
  | again => exact hc.1
  | stall => trivial
  | @miss n id ids p =>
      obtain ⟨hnone, hq⟩ := hc
      exact ⟨hq.open_ id List.mem_cons_self, fun x hx hrun => absurd hrun (hnone x hx),
        hq.eligible id List.mem_cons_self, (List.nodup_cons.mp hq.nodup).1, hq.tail⟩
  -- the task leaves the queue and is in flight, so nobody else may be
  | @hit n id ids p output h =>
      obtain ⟨hnone, hq⟩ := hc
      have hne : g.status id ≠ .succeeded ∨ TaskStatus.running = .succeeded := Or.inl (by simp [h])
      have hnot := (List.nodup_cons.mp hq.nodup).1
      refine ⟨by simp [Phase.Allows], ?_, (hq.eligible id List.mem_cons_self).setState hne, hnot,
        hq.tail.setState hne (Or.inl hnot)⟩
      exact onlyRunning_setState fun x hx hrun => absurd hrun (hnone x hx)
  | hitCancelled _ => trivial
  | replay h => exact (hc.setOutputs _).setState_task (Or.inr rfl) rfl
  | dispatch h => exact hc.setState_task (Or.inl (by simp [h])) rfl
  | dispatchCancelled _ => trivial
  | submit h => exact hc.setPhase h
  | refuse error => trivial
  | wait produced' missed' => exact hc.setPhase hc.1
  | complete h => exact (hc.setOutputs _).setState_task (Or.inr rfl) rfl
  | @fail _ id _ _ _ recoverable =>
      have hg := hc.congr (g.toTaskShape_countAttempt id) fun x => by simp
      exact hg.setPhase hg.1
  | abandon h => exact (hc.setOutputs _).setState_task (Or.inl (by simp [h])) rfl
  | stored => exact hc.setPhase hc.1
  | recorded => exact hc.setPhase hc.1
  -- the task has ended, and the round goes on with the queue
  | thread =>
      have hne : g.status _ = .succeeded := hc.1
      exact (hc.ready (by simp [hne])).congr (by simp) fun x => by simp
  | markFailed h => exact hc.setState_task (Or.inl (by simp [h])) rfl
  | giveUp h => exact hc.setState_ready (Or.inl (by simp [h])) (by simp)
  | retry h => exact hc.setState_task (Or.inl (by simp [h])) (Or.inl rfl)
  | recordedCancelled =>
      have hne : g.status _ = .cancelled := hc.1
      exact hc.ready (by simp [hne])
  | idle _ => exact hc

/-- `Cancel` on a pending task keeps coherence wherever the thread stands. -/
theorem Coherent.cancelled {c : Control} (h : Coherent g c) (hpending : g.status id = .pending) :
    Coherent (g.setState id .cancelled) c := by
  have hne : g.status id ≠ .succeeded ∨ TaskStatus.cancelled = .succeeded :=
    Or.inl (by simp [hpending])
  cases c with
  | iterate n => exact NoneRunning.setState h (by simp)
  | returned => exact NoneRunning.setState h (by simp)
  | propagate n ids p => exact ⟨h.1.setState (by simp), h.2⟩
  | ready n ids p => exact ⟨h.1.setState (by simp), h.2.setState hne (Or.inr rfl)⟩
  | threw e => trivial
  | task n ids x phase =>
      obtain ⟨hphase, hrun, hx, hnot, hq⟩ := h
      refine ⟨?_, fun y hy hyrun => ?_, hx.setState hne, hnot, hq.setState hne (Or.inr rfl)⟩
      · rw [TaskGraph.status_setState]
        split
        · next hxid =>
            -- only the head of the dispatch loop allows a pending task
            rw [hxid, hpending] at hphase
            cases phase with
            | dispatch => exact Or.inr rfl
            | _ => simp [Phase.Allows] at hphase
        · exact hphase
      · rw [TaskGraph.status_setState] at hyrun
        split at hyrun
        · cases hyrun
        · exact hrun y hy hyrun

end coherence

/-! ## The step refines the moves

The functions of the source, from the inside out: each does one move of the
graph, with the submission as the label. From here on a run of the scheduler is
a sequence of moves and cancellations. -/

/-- A legal `Mark`. -/
theorem SchedulerState.mark_of_legal {σ : Type} {s : SchedulerState σ} {id : Uuid}
    {target : TaskStatus} (next : Control)
    (h : TaskStatus.isLegal (s.graph.status id) target = true) :
    s.mark id target next =
      { s with
        graph := s.graph.setState id target
        store := s.store.upsertTask s.graph.jobId ((s.graph.setState id target).task id)
        marks := s.marks ++ [(id, s.graph.status id, target)]
        control := next } := by
  simp [mark, TaskStatus.transition, h]

theorem SchedulerState.mark_of_illegal {σ : Type} {s : SchedulerState σ} {id : Uuid}
    {target : TaskStatus} (next : Control)
    (h : TaskStatus.isLegal (s.graph.status id) target = false) :
    s.mark id target next = s.throw ⟨.internal, "illegal task state transition " ++
      (s.graph.status id).name ++ " -> " ++ target.name⟩ := by
  simp [mark, TaskStatus.transition, h]

/-- `Mark` goes on as told, or throws. -/
theorem SchedulerState.mark_control {σ : Type} (s : SchedulerState σ) (id : Uuid)
    (target : TaskStatus) (next : Control) :
    (s.mark id target next).control = next ∨
      ∃ error, (s.mark id target next).control = .threw error := by
  unfold mark
  split
  · next error _ => exact .inr ⟨error, rfl⟩
  · exact .inl rfl

theorem SchedulerState.mark_executor {σ : Type} (s : SchedulerState σ) (id : Uuid)
    (target : TaskStatus) (next : Control) : (s.mark id target next).executor = s.executor := by
  unfold mark
  split <;> rfl

/-- `s'` is `s` after a move of the graph, with the submission recorded. -/
def SchedulerState.Moves {σ : Type} (s s' : SchedulerState σ) : Prop :=
  ∃ submitted, Move s.graph s.control s'.graph s'.control submitted ∧
    s'.submissions =
      s.submissions ++ (submitted.map (s.graph.request s.runPipelineHash)).toList ∧
    s'.runPipelineHash = s.runPipelineHash


section refinement

variable {σ ι : Type} (sched : Scheduler σ ι) (input : StepInput ι) {s s' : SchedulerState σ}

theorem SchedulerState.Moves.quiet {c : Control} (hcontrol : s.control = c)
    (h : Move s.graph c s'.graph s'.control none) (hs : s'.submissions = s.submissions)
    (hh : s'.runPipelineHash = s.runPipelineHash) : s.Moves s' :=
  ⟨none, hcontrol ▸ h, by simpa using hs, hh⟩

theorem Scheduler.tryCacheHit_moves {n : Nat} {ids : List Uuid} {id : Uuid} {p : Bool}
    (hcontrol : s.control = .ready n (id :: ids) p) (hc : Coherent s.graph s.control) :
    s.Moves (sched.tryCacheHit input s n ids id) := by
  rw [hcontrol] at hc
  have hopen := hc.2.open_ id List.mem_cons_self
  unfold tryCacheHit
  split
  · exact .quiet hcontrol Move.miss rfl rfl
  · split
    · exact .quiet hcontrol Move.miss rfl rfl
    · next store _ _ output _ =>
        rcases hopen with hpending | hcancelled
        · rw [SchedulerState.mark_of_legal _ (by simp [hpending, TaskStatus.isLegal])]
          exact .quiet hcontrol (Move.hit output hpending) rfl rfl
        · rw [SchedulerState.mark_of_illegal _ (by simp [hcancelled, TaskStatus.isLegal])]
          rw [hcancelled]
          exact .quiet hcontrol (Move.hitCancelled hcancelled) rfl rfl

theorem Scheduler.awaitEvent_moves {n : Nat} {ids : List Uuid} {id : Uuid}
    {produced : List ArtifactRef} {missed : Nat}
    (hcontrol : s.control = .task n ids id (.await produced missed))
    (hc : Coherent s.graph s.control) :
    s.Moves (sched.awaitEvent input s n ids id produced missed) := by
  rw [hcontrol] at hc
  have hrun : s.graph.status id = .running := hc.1
  -- a crash that was synthesised, or a failure that was reported
  have hfail : ∀ (executor : σ) (error : ErrorRecord),
      s.Moves (sched.failed { s with executor := executor } n ids id error) := by
    intro executor error
    refine .quiet hcontrol ?_ rfl rfl
    simpa [failed, SchedulerState.goto, SchedulerState.recordRun,
      TaskGraph.task_countAttempt] using Move.fail error.recoverable
  unfold awaitEvent
  split
  · split
    · exact hfail _ _
    · exact .quiet hcontrol (Move.wait produced (missed + 1)) rfl rfl
  · next event executor _ =>
      split
      · cases event.kind with
        | artifactProduced ref =>
            exact .quiet hcontrol (Move.wait (produced ++ [ref]) missed) rfl rfl
        | completed =>
            simp only [handleEvent]
            rw [SchedulerState.mark_of_legal _ (by simp [hrun, TaskStatus.isLegal])]
            exact .quiet hcontrol (Move.complete hrun) rfl rfl
        | failed code message recoverable => exact hfail _ _
        | cancelled =>
            simp only [handleEvent]
            rw [SchedulerState.mark_of_legal _ (by simp [hrun, TaskStatus.isLegal])]
            exact .quiet hcontrol (Move.abandon hrun) rfl rfl
        | progress _ | log _ | heartbeat =>
            exact .quiet hcontrol (Move.wait produced missed) rfl rfl
      -- an event of another task
      · refine .quiet hcontrol ?_ rfl rfl
        simpa only [hcontrol] using Move.wait produced missed

theorem Scheduler.dispatchAndAwait_moves {n : Nat} {ids : List Uuid} {id : Uuid} {phase : Phase}
    (hcontrol : s.control = .task n ids id phase) (hc : Coherent s.graph s.control) :
    s.Moves (sched.dispatchAndAwait input s n ids id phase) := by
  have hallows := hc
  rw [hcontrol] at hallows
  have hallows : phase.Allows (s.graph.status id) := hallows.1
  cases phase with
  | cacheHit output =>
      have hrun : s.graph.status id = .running := hallows
      simp only [dispatchAndAwait]
      rw [SchedulerState.mark_of_legal _ (by simp [hrun, TaskStatus.isLegal])]
      exact .quiet hcontrol (Move.replay hrun) rfl rfl
  | dispatch =>
      simp only [dispatchAndAwait]
      rcases hallows with hpending | hcancelled
      · rw [if_neg (by simp [hpending]),
          SchedulerState.mark_of_legal _ (by simp [hpending, TaskStatus.isLegal])]
        exact .quiet hcontrol (Move.dispatch hpending) rfl rfl
      -- a `Cancel` came first, and `Mark` throws
      · rw [if_neg (by simp [hcancelled]),
          SchedulerState.mark_of_illegal _ (by simp [hcancelled, TaskStatus.isLegal])]
        rw [hcancelled]
        exact .quiet hcontrol (Move.dispatchCancelled hcancelled) rfl rfl
  | submit =>
      simp only [dispatchAndAwait]
      split
      · next error _ =>
          -- `Submit` throws, and the exception leaves `Execute`
          exact .quiet hcontrol (Move.refuse error) rfl rfl
      · refine ⟨some id, ?_, rfl, rfl⟩
        simpa only [hcontrol] using Move.submit hallows
  | await produced missed => exact sched.awaitEvent_moves input hcontrol hc
  | storeOutput declared =>
      simp only [dispatchAndAwait]
      split
      all_goals
        exact .quiet hcontrol Move.stored rfl rfl
  | recordSucceeded declared =>
      exact .quiet hcontrol Move.recorded rfl rfl
  | threadOutputs declared =>
      exact .quiet hcontrol Move.thread rfl rfl
  | markFailed retryable =>
      have hrun : s.graph.status id = .running := hallows
      cases retryable with
      | true =>
          simp only [dispatchAndAwait]
          rw [SchedulerState.mark_of_legal _ (by simp [hrun, TaskStatus.isLegal])]
          exact .quiet hcontrol (Move.markFailed hrun) rfl rfl
      | false =>
          simp only [dispatchAndAwait]
          rw [SchedulerState.mark_of_legal _ (by simp [hrun, TaskStatus.isLegal])]
          exact .quiet hcontrol (Move.giveUp hrun) rfl rfl
  | markPending =>
      have hfailed : s.graph.status id = .failed := hallows
      simp only [dispatchAndAwait]
      rw [SchedulerState.mark_of_legal _ (by simp [hfailed, TaskStatus.isLegal])]
      exact .quiet hcontrol (Move.retry hfailed) rfl rfl
  | recordCancelled =>
      exact .quiet hcontrol Move.recordedCancelled rfl rfl

/-- **Refinement.** From a coherent state, the scheduler's own thread does a move of the graph. -/
theorem Scheduler.advance_moves (hc : Coherent s.graph s.control) :
    s.Moves (sched.advance input s) := by
  unfold advance
  split
  · next n hcontrol =>
      split
      · next hn =>
          exact .quiet hcontrol (Move.enter hn) rfl rfl
      · next hn =>
          exact .quiet hcontrol (Move.exhaust hn) rfl rfl
  · next n id ids p hcontrol =>
      split
      · next hfailed =>
          -- the task is still pending, so every status of the policy is legal
          have hpending := (TaskGraph.dependencyFailed_iff.mp hfailed).1
          have hlegal : TaskStatus.isLegal (s.graph.status id)
              (s.graph.task id).metadata.failure.status = true := by
            rw [hpending]
            cases (s.graph.task id).metadata.failure <;> rfl
          rw [SchedulerState.mark_of_legal _ hlegal]
          exact .quiet hcontrol (Move.propagate hfailed) rfl rfl
      · next hfailed =>
          exact .quiet hcontrol (Move.pass (by simpa using hfailed)) rfl rfl
  · next n p hcontrol =>
      split
      · next hall =>
          exact .quiet hcontrol (Move.finish hall) rfl rfl
      · next hall =>
          exact .quiet hcontrol (Move.snapshot (by simpa using hall)) rfl rfl
  · next n id ids p hcontrol => exact sched.tryCacheHit_moves input hcontrol hc
  · next n p hcontrol =>
      cases p with
      | true =>
          exact .quiet hcontrol Move.again rfl rfl
      | false =>
          exact .quiet hcontrol Move.stall rfl rfl
  · next n ids id phase hcontrol => exact sched.dispatchAndAwait_moves input hcontrol hc
  · next hcontrol => exact .quiet rfl (Move.idle (by simp [hcontrol, Control.isLive])) rfl rfl
  · next error hcontrol => exact .quiet rfl (Move.idle (by simp [hcontrol, Control.isLive])) rfl rfl

end refinement

end SpatialPlatform.Engine
