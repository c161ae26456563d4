import Mathlib.Data.Prod.Lex
import SpatialPlatform.Lib.Machine
import SpatialPlatform.Engine.Scheduler.Moves

/-!
# Runs of the scheduler

`states` is the endless run of one scheduler against an environment. The
invariant rule (`states_induct`) asks for one move and for one cancellation; the
rest is done here once.
-/

namespace SpatialPlatform.Engine

open SpatialPlatform.Core SpatialPlatform.Lib

/-! ## What no move changes

Frame lemmas: what the moves leave of the graph, and of the tasks that have
ended. Each is a case analysis of the moves. -/

section frame

variable {g g' : TaskGraph} {c c' : Control} {submitted : Option Uuid}

theorem Move.toTaskShape (h : Move g c g' c' submitted) : g'.toTaskShape = g.toTaskShape := by
  cases h <;> simp

/-- Outside `Execute` nothing moves. -/
theorem Move.eq_of_dead (h : Move g c g' c' submitted) (hdead : c.isLive = false) :
    g' = g ∧ c' = c := by
  cases h with
  | idle _ => exact ⟨rfl, rfl⟩
  | _ => simp [Control.isLive] at hdead

/-- Of the metadata only the attempts change, and only those of a task that has just failed. -/
theorem Move.metadata (h : Move g c g' c' submitted) (x : Uuid) :
    (g'.task x).metadata = (g.task x).metadata ∨
      ∃ n ids produced missed, c = .task n ids x (.await produced missed) ∧
        g' = g.countAttempt x := by
  cases h with
  | @fail n id ids produced missed recoverable =>
      rcases eq_or_ne x id with rfl | hne
      · exact Or.inr ⟨_, _, _, _, rfl, rfl⟩
      · left
        rw [TaskGraph.task_countAttempt, if_neg hne]
  | _ => simp

/-- Only the submission of a task is labelled with it. -/
theorem Move.of_submitted {x : Uuid} (h : Move g c g' c' (some x)) :
    ∃ n ids, c = .task n ids x .submit ∧ g' = g := by
  cases h with
  | submit _ => exact ⟨_, _, rfl, rfl⟩

/-- A wait begins with a submission. -/
theorem Move.of_await {n : Nat} {ids : List Uuid} {x : Uuid} {produced : List ArtifactRef}
    {missed : Nat} (h : Move g c g' (.task n ids x (.await produced missed)) submitted) :
    produced = [] ∨ ∃ produced' missed', c = .task n ids x (.await produced' missed') := by
  cases h with
  | submit _ => exact .inl rfl
  | wait _ _ => exact .inr ⟨_, _, rfl⟩
  | idle hdead => cases hdead

/-- A success is final. -/
theorem Move.succeeded (h : Move g c g' c' submitted) {x : Uuid}
    (hx : g.status x = .succeeded) : g'.status x = .succeeded := by
  have hother : ∀ {id : Uuid} {state : TaskStatus}, g.status id ≠ .succeeded →
      (g.setState id state).status x = .succeeded := by
    intro id state hid
    rw [TaskGraph.status_setState, if_neg, hx]
    rintro rfl
    exact hid hx
  cases h with
  | propagate hfailed => exact hother (by simp [(TaskGraph.dependencyFailed_iff.mp hfailed).1])
  | hit _ hpending | dispatch hpending => exact hother (by simp [hpending])
  | replay _ | complete _ =>
      rw [TaskGraph.status_setState, TaskGraph.status_setOutputs]
      split
      · rfl
      · exact hx
  | @abandon n id ids produced missed hrun =>
      have hne : x ≠ id := fun heq => by simp [← heq, hx] at hrun
      rw [TaskGraph.status_setState, if_neg hne, TaskGraph.status_setOutputs, hx]
  | markFailed hrun | giveUp hrun => exact hother (by simp [hrun])
  | retry hfailed => exact hother (by simp [hfailed])
  | fail _ => rwa [TaskGraph.status_countAttempt]
  | thread => rwa [TaskGraph.status_threadOutputsToDependents]
  | _ => exact hx

/-- A task that has succeeded keeps its outputs. -/
theorem Move.outputs_of_succeeded (h : Move g c g' c' submitted) {x : Uuid}
    (hx : g.status x = .succeeded) : (g'.task x).outputs = (g.task x).outputs := by
  have hother : ∀ {id : Uuid}, g.status id = .running → x ≠ id := by
    rintro id hrun rfl
    simp [hx] at hrun
  cases h with
  | replay hrun | complete hrun | abandon hrun =>
      have hne := hother hrun
      simp [TaskGraph.task_setState, TaskGraph.task_setOutputs, hne]
  | propagate _ | hit _ _ | dispatch _ | markFailed _ | giveUp _ | retry _ =>
      rw [TaskGraph.task_setState]
      split
      · next heq => rw [heq]
      · rfl
  | fail _ =>
      rw [TaskGraph.task_countAttempt]
      split
      · next heq => rw [heq]
      · rfl
  | thread =>
      rw [TaskGraph.task_threadOutputsToDependents]
      split <;> rfl
  | _ => rfl

theorem Move.retry_eq (h : Move g c g' c' submitted) (x : Uuid) :
    (g'.task x).metadata.retry = (g.task x).metadata.retry := by
  rcases h.metadata x with heq | ⟨_, _, _, _, _, rfl⟩
  · rw [heq]
  · simp [TaskGraph.task_countAttempt]

theorem Move.isCacheable_eq (h : Move g c g' c' submitted) (x : Uuid) :
    TaskCache.isCacheable (g'.task x) = TaskCache.isCacheable (g.task x) := by
  rcases h.metadata x with heq | ⟨_, _, _, _, _, rfl⟩
  · rw [TaskCache.isCacheable, heq, TaskCache.isCacheable]
  · simp [TaskGraph.task_countAttempt, TaskCache.isCacheable]

theorem Move.failure_eq (h : Move g c g' c' submitted) (x : Uuid) :
    (g'.task x).metadata.failure = (g.task x).metadata.failure := by
  rcases h.metadata x with heq | ⟨_, _, _, _, _, rfl⟩
  · rw [heq]
  · simp [TaskGraph.task_countAttempt]

end frame

/-! ## Cancellations -/

namespace Scheduler

variable {σ ι : Type} (sched : Scheduler σ ι)

/-- What one call of `Cancel` does to graph, position and history. -/
theorem cancel_spec (s : SchedulerState σ) (call : CancelCall ι) :
    (sched.cancel s call).control = s.control ∧
      (sched.cancel s call).submissions = s.submissions ∧
      (sched.cancel s call).runPipelineHash = s.runPipelineHash ∧
      ((sched.cancel s call).graph = s.graph ∨
        (s.graph.status call.taskId = .pending ∧ call.taskId ∈ s.graph.insertionOrder ∧
          s.control ≠ .returned ∧
          (sched.cancel s call).graph = s.graph.setState call.taskId .cancelled)) := by
  unfold cancel
  split
  · exact ⟨rfl, rfl, rfl, Or.inl rfl⟩
  · next hin =>
      obtain ⟨hlive, hmem⟩ := not_or.mp hin
      split
      · next hpending =>
          rw [SchedulerState.mark_of_legal _ (by simp [hpending, TaskStatus.isLegal])]
          exact ⟨rfl, rfl, rfl, Or.inr ⟨hpending, not_not.mp hmem, hlive, rfl⟩⟩
      · exact ⟨rfl, rfl, rfl, Or.inl rfl⟩
      · exact ⟨rfl, rfl, rfl, Or.inl rfl⟩

/-- The invariant rule for the calls of `Cancel` in one step. -/
theorem cancels_induct {Inv : TaskGraph → Control → Prop}
    (hcancel : ∀ g c id, Inv g c → id ∈ g.insertionOrder → g.status id = .pending →
      Inv (g.setState id .cancelled) c)
    (calls : List (CancelCall ι)) {s : SchedulerState σ} (h : Inv s.graph s.control) :
    let s' := calls.foldl sched.cancel s
    Inv s'.graph s'.control ∧ s'.control = s.control ∧ s'.submissions = s.submissions ∧
      s'.runPipelineHash = s.runPipelineHash := by
  induction calls generalizing s with
  | nil => exact ⟨h, rfl, rfl, rfl⟩
  | cons call calls ih =>
      obtain ⟨hcontrol, hsub, hhash, hgraph⟩ := sched.cancel_spec s call
      have hinv : Inv (sched.cancel s call).graph (sched.cancel s call).control := by
        rw [hcontrol]
        rcases hgraph with heq | ⟨hpending, hmem, _, heq⟩
        · rwa [heq]
        · rw [heq]
          exact hcancel _ _ _ h hmem hpending
      obtain ⟨hend, hcontrol', hsub', hhash'⟩ := ih hinv
      exact ⟨hend, hcontrol'.trans hcontrol, hsub'.trans hsub, hhash'.trans hhash⟩

/-! ## Runs

A run is the list of its states, and `states_induct` the rule by which every
invariant of the later modules is proved: it holds at the start, and a step
keeps it. -/

/-- The states of a run. -/
def states (inputs : Nat → StepInput ι) (s₀ : SchedulerState σ) (k : Nat) : SchedulerState σ :=
  trace sched.step inputs s₀ k

variable {sched} {inputs : Nat → StepInput ι} {s₀ : SchedulerState σ}

@[simp] theorem states_zero : sched.states inputs s₀ 0 = s₀ := rfl

theorem states_succ (k : Nat) :
    sched.states inputs s₀ (k + 1) = sched.step (inputs k) (sched.states inputs s₀ k) :=
  trace_succ _ _ _ k

/-- `Run` validates the graph, saves it and starts at the first round. -/
theorem run_start {store : SchedulerStateStore} {executor : σ} {g : TaskGraph}
    {externalInputs : List ArtifactRef} {pipelineHash : String}
    (h : sched.run store executor g externalInputs pipelineHash = .ok s₀) :
    g.validate [sched.executor.profile] externalInputs = .ok () ∧
      ∃ store', store.saveGraph g = .ok store' ∧
        s₀ =
          { graph := g
            store := store'
            executor := executor
            runPipelineHash := pipelineHash
            control := .iterate 0 } := by
  unfold run at h
  cases hv : g.validate [sched.executor.profile] externalInputs with
  | error e => simp [hv, bind, Except.bind] at h
  | ok u =>
      cases hs : store.saveGraph g with
      | error e => simp [hv, hs, bind, Except.bind] at h
      | ok store' =>
          simp only [hv, hs, bind, Except.bind, pure, Except.pure, Except.ok.injEq] at h
          exact ⟨rfl, store', rfl, h.symm⟩

/-- What `Run` hands to `Execute`. -/
theorem run_eq_ok {store : SchedulerStateStore} {executor : σ} {g : TaskGraph}
    {externalInputs : List ArtifactRef} {pipelineHash : String}
    (h : sched.run store executor g externalInputs pipelineHash = .ok s₀) :
    g.validate [sched.executor.profile] externalInputs = .ok () ∧ s₀.graph = g ∧
      s₀.control = .iterate 0 ∧ s₀.submissions = [] := by
  obtain ⟨hvalid, store', _, rfl⟩ := run_start h
  exact ⟨hvalid, rfl, rfl, rfl⟩

/-- One step, seen from graph and position: cancellations, then a move. -/
theorem step_cases (input : StepInput ι) {s : SchedulerState σ}
    {Inv : TaskGraph → Control → Prop} (hc : Coherent s.graph s.control)
    (hinv : Inv s.graph s.control)
    (hcancel : ∀ g c id, Coherent g c → Inv g c → id ∈ g.insertionOrder → g.status id = .pending →
      Inv (g.setState id .cancelled) c) :
    ∃ g submitted, Coherent g s.control ∧ Inv g s.control ∧
      Move g s.control (sched.step input s).graph (sched.step input s).control submitted ∧
      (sched.step input s).submissions =
        s.submissions ++ (submitted.map (g.request s.runPipelineHash)).toList ∧
      (sched.step input s).runPipelineHash = s.runPipelineHash := by
  have hboth : ∀ g c id, Coherent g c ∧ Inv g c → id ∈ g.insertionOrder →
      g.status id = .pending →
      Coherent (g.setState id .cancelled) c ∧ Inv (g.setState id .cancelled) c :=
    fun g c id h hmem hp => ⟨h.1.cancelled hp, hcancel g c id h.1 h.2 hmem hp⟩
  obtain ⟨⟨hc', hinv'⟩, hcontrol, hsub, hhash⟩ :=
    sched.cancels_induct hboth input.cancels ⟨hc, hinv⟩
  obtain ⟨submitted, hmove, hsub', hhash'⟩ := sched.advance_moves input hc'
  rw [hcontrol] at hc' hinv' hmove
  rw [hsub, hhash] at hsub'
  rw [hhash] at hhash'
  exact ⟨_, submitted, hc', hinv', hmove, hsub', hhash'⟩

variable (sched inputs) in
/-- The invariant rule for whole runs. -/
theorem states_induct (Inv : TaskGraph → Control → Prop)
    (hmove : ∀ g c g' c' submitted, Coherent g c → Inv g c → Move g c g' c' submitted → Inv g' c')
    (hcancel : ∀ g c id, Coherent g c → Inv g c → id ∈ g.insertionOrder → g.status id = .pending →
      Inv (g.setState id .cancelled) c)
    (hc : Coherent s₀.graph s₀.control) (h₀ : Inv s₀.graph s₀.control) (k : Nat) :
    Coherent (sched.states inputs s₀ k).graph (sched.states inputs s₀ k).control ∧
      Inv (sched.states inputs s₀ k).graph (sched.states inputs s₀ k).control := by
  induction k with
  | zero => exact ⟨hc, h₀⟩
  | succ k ih =>
      obtain ⟨g, submitted, hcg, hinv, hm, _⟩ := step_cases (inputs k) ih.1 ih.2 hcancel
      rw [states_succ]
      exact ⟨hm.coherent hcg, hmove _ _ _ _ _ hcg hinv hm⟩

/-- After the end of a run without further cancellations nothing changes. -/
theorem states_eq_of_dead (hquiet : ∀ k, (inputs k).cancels = []) {j k : Nat} (hjk : j ≤ k)
    (hdead : (sched.states inputs s₀ j).control.isLive = false) :
    sched.states inputs s₀ k = sched.states inputs s₀ j := by
  induction hjk with
  | refl => rfl
  | @step k _ ih =>
      rw [states_succ, step, hquiet k, List.foldl_nil, ih]
      unfold advance
      split <;> simp_all [Control.isLive]

/-- What holds up to the end of a run holds in every state. -/
theorem forall_states_of_dead (hquiet : ∀ k, (inputs k).cancels = []) {j : Nat}
    (hdead : (sched.states inputs s₀ j).control.isLive = false) {P : SchedulerState σ → Prop}
    (h : ∀ k ≤ j, P (sched.states inputs s₀ k)) (k : Nat) : P (sched.states inputs s₀ k) := by
  rcases Nat.le_total k j with hkj | hjk
  · exact h k hkj
  · rw [states_eq_of_dead hquiet hjk hdead]
    exact h j (Nat.le_refl j)

end Scheduler

end SpatialPlatform.Engine
