import SpatialPlatform.Lib.Dag
import SpatialPlatform.Engine.Scheduler.Reports

/-!
# The scheduler computes the recursive semantics of the DAG

`semantics` says, by recursion over the dependencies, how every task ends when
each dispatched task ends in a given outcome. A run of the scheduler without
cancellations and cache hits reaches exactly these statuses, and submits exactly
the tasks whose dependencies succeed.
-/

namespace SpatialPlatform.Engine

open SpatialPlatform.Core SpatialPlatform.Lib

namespace TaskGraph

/-! ## The semantics

How the tasks of a graph end, by recursion over the layers and without a
scheduler. It looks at nothing but dependencies, policies and the outcome of
each task on its own. -/

/-- How a task ends, given how its dependencies end. A task that was terminal
before the run is left alone. -/
def verdict (g : TaskGraph) (outcome : Uuid → TaskStatus) (x : Uuid) (final : Uuid → TaskStatus) :
    TaskStatus :=
  if (g.status x).isTerminal then g.status x
  else if ∀ d ∈ g.dependencies x, final d = .succeeded then outcome x
  else (g.task x).metadata.failure.status

/-- How every task ends. A validated graph has no more layers than tasks, so the
recursion is deep enough. -/
def semantics (g : TaskGraph) (outcome : Uuid → TaskStatus) : Uuid → TaskStatus :=
  Dag.solve (g.verdict outcome) .pending g.insertionOrder.length

variable {g : TaskGraph} {outcome : Uuid → TaskStatus}

theorem verdict_local (g : TaskGraph) (outcome : Uuid → TaskStatus) :
    Dag.Local g.dependencies (g.verdict outcome) := by
  intro x f f' h
  have hiff : (∀ d ∈ g.dependencies x, f d = .succeeded) ↔
      ∀ d ∈ g.dependencies x, f' d = .succeeded :=
    forall₂_congr fun d hd => by rw [h d hd]
  simp only [verdict, hiff]

/-- The defining equation of the semantics. -/
theorem semantics_eq (hlayered : g.Layered g.insertionOrder.length) {x : Uuid}
    (hx : x ∈ g.insertionOrder) : g.semantics outcome x = g.verdict outcome x (g.semantics outcome) :=
  let ⟨_, hlayer, hbound⟩ := hlayered
  Dag.solve_eq (verdict_local g outcome) hlayer (hbound x hx)

theorem semantics_of_terminal (hlayered : g.Layered g.insertionOrder.length) {x : Uuid}
    (hx : x ∈ g.insertionOrder) (hterm : (g.status x).isTerminal = true) :
    g.semantics outcome x = g.status x := by
  rw [semantics_eq hlayered hx, verdict, if_pos hterm]

theorem semantics_of_succeeded (hlayered : g.Layered g.insertionOrder.length) {x : Uuid}
    (hx : x ∈ g.insertionOrder) (hopen : (g.status x).isTerminal = false)
    (hdeps : ∀ d ∈ g.dependencies x, g.semantics outcome d = .succeeded) :
    g.semantics outcome x = outcome x := by
  rw [semantics_eq hlayered hx, verdict, if_neg (by simp [hopen]), if_pos hdeps]

theorem semantics_of_failed (hlayered : g.Layered g.insertionOrder.length) {x d : Uuid}
    (hx : x ∈ g.insertionOrder) (hopen : (g.status x).isTerminal = false)
    (hd : d ∈ g.dependencies x) (hfail : g.semantics outcome d ≠ .succeeded) :
    g.semantics outcome x = (g.task x).metadata.failure.status := by
  rw [semantics_eq hlayered hx, verdict, if_neg (by simp [hopen]),
    if_neg fun hall => hfail (hall d hd)]

/-- The same tasks and dependencies, added in another order. -/
structure SameDag (g g' : TaskGraph) : Prop where
  order : ∀ x, x ∈ g'.insertionOrder ↔ x ∈ g.insertionOrder
  task : ∀ x ∈ g.insertionOrder, g'.task x = g.task x
  dependencies : ∀ x d, d ∈ g'.dependencies x ↔ d ∈ g.dependencies x

theorem SameDag.acyclic {g' : TaskGraph} (h : g.SameDag g') (hacyclic : g.Acyclic) : g'.Acyclic :=
  let ⟨layer, hlayer⟩ := hacyclic
  ⟨layer, fun x d hd => hlayer x d ((h.dependencies x d).mp hd)⟩

/-- The semantics does not see the order in which a graph was put together. -/
theorem SameDag.semantics_eq {g' : TaskGraph} (h : g.SameDag g')
    (hlayered : g.Layered g.insertionOrder.length)
    (hlayered' : g'.Layered g'.insertionOrder.length) {x : Uuid} (hx : x ∈ g.insertionOrder) :
    g'.semantics outcome x = g.semantics outcome x := by
  obtain ⟨layer, hlayer, _⟩ := id hlayered
  refine Dag.solution_unique (verdict_local g outcome) hlayer
    (fun y d _ hd => (g.mem_of_dependency y d hd).2) (fun y hy => ?_)
    (fun y hy => TaskGraph.semantics_eq hlayered hy) x hx
  have hiff : (∀ d ∈ g'.dependencies y, g'.semantics outcome d = .succeeded) ↔
      ∀ d ∈ g.dependencies y, g'.semantics outcome d = .succeeded :=
    forall_congr' fun d => by rw [h.dependencies]
  rw [TaskGraph.semantics_eq hlayered' ((h.order y).mpr hy)]
  simp only [verdict, status, h.task y hy]
  exact if_congr Iff.rfl rfl (if_congr hiff rfl rfl)

end TaskGraph

/-! ## Following a run

The invariant `Follows`: whatever has ended, has ended as the semantics says,
and what was submitted has dependencies that succeed. It is kept by each move;
only those that decide a dispatch need an argument, and there the status is the
outcome of the task. -/

/-- The task has been handed to the executor in this dispatch. -/
def Phase.isSubmitted : Phase → Bool
  | .cacheHit _ | .dispatch | .submit => false
  | _ => true

/-- The thread is between the two marks of a retry. -/
def Control.Retries (c : Control) (x : Uuid) : Prop := ∃ n ids, c = .task n ids x .markPending

/-- What a run from `g₀` keeps: statuses that are terminal are the ones of the
semantics, and the submitted tasks are those whose dependencies succeed. -/
structure Follows (g₀ : TaskGraph) (outcome : Uuid → TaskStatus) (g : TaskGraph) (c : Control)
    (submitted : List Uuid) : Prop where
  shape : g.toTaskShape = g₀.toTaskShape
  failure : ∀ x, (g.task x).metadata.failure = (g₀.task x).metadata.failure
  /-- Tasks that were terminal before the run are out of it. -/
  initial : ∀ x ∈ g₀.insertionOrder, (g₀.status x).isTerminal = true →
    g.status x = g₀.status x ∧ ∀ n ids phase, c ≠ .task n ids x phase
  terminal : ∀ x ∈ g₀.insertionOrder, (g.status x).isTerminal = true → ¬ c.Retries x →
    g.status x = g₀.semantics outcome x
  justified : ∀ x ∈ submitted, x ∈ g₀.insertionOrder ∧ (g₀.status x).isTerminal = false ∧
    ∀ d ∈ g₀.dependencies x, g₀.semantics outcome d = .succeeded
  /-- A task that has ended was submitted, or some dependency of it did not succeed. -/
  covered : ∀ x ∈ g₀.insertionOrder, (g₀.status x).isTerminal = false →
    ((g.status x).isTerminal = true ∨
      ∃ n ids phase, c = .task n ids x phase ∧ phase.isSubmitted = true) →
    x ∈ submitted ∨ ∃ d ∈ g₀.dependencies x, g₀.semantics outcome d ≠ .succeeded

theorem Follows.start {g : TaskGraph} {outcome : Uuid → TaskStatus}
    (hlayered : g.Layered g.insertionOrder.length) : Follows g outcome g (.iterate 0) [] where
  shape := rfl
  failure _ := rfl
  initial x _ hterm := ⟨rfl, by simp⟩
  terminal x hx hterm _ := (TaskGraph.semantics_of_terminal hlayered hx hterm).symm
  justified := by simp
  covered x _ hopen hcov := by
    rcases hcov with hterm | ⟨n, ids, phase, hc, _⟩
    · simp [hopen] at hterm
    · cases hc

section step

variable {g₀ g g' : TaskGraph} {outcome : Uuid → TaskStatus} {c c' : Control}
  {submitted submitted' : List Uuid} {id : Uuid}

/-- Only a failed task is between the two marks of a retry. -/
theorem Coherent.failed_of_retries (h : Coherent g c) (hretry : c.Retries id) :
    g.status id = .failed := by
  obtain ⟨n, ids, rfl⟩ := hretry
  exact h.1

theorem Control.not_retries_of_ne {n : Nat} {ids : List Uuid} {x : Uuid} {phase : Phase}
    (hne : x ≠ id) : ¬ (Control.task n ids id phase).Retries x := by
  rintro ⟨n', ids', heq⟩
  cases heq
  exact hne rfl

/-- All dependencies of an eligible task succeed in the semantics. -/
theorem Follows.dependencies_succeed (h : Follows g₀ outcome g c submitted) (hc : Coherent g c)
    (hid : Eligible g id) : ∀ d ∈ g₀.dependencies id, g₀.semantics outcome d = .succeeded := by
  intro d hd
  rw [← h.shape] at hd
  have hdone := hid.2 d hd
  have hmem : d ∈ g₀.insertionOrder := h.shape ▸ (g.mem_of_dependency id d hd).2
  rw [← h.terminal d hmem (by simp [hdone]), hdone]
  intro hretry
  simp [hc.failed_of_retries hretry] at hdone

theorem Follows.semantics_eq_outcome (h : Follows g₀ outcome g c submitted) (hc : Coherent g c)
    (hlayered : g₀.Layered g₀.insertionOrder.length) (hid : Eligible g id)
    (hopen : (g₀.status id).isTerminal = false) : g₀.semantics outcome id = outcome id :=
  TaskGraph.semantics_of_succeeded hlayered (h.shape ▸ hid.1) hopen (h.dependencies_succeed hc hid)

/-- The current task is not one of those that were terminal before the run. -/
theorem Follows.open_current {n : Nat} {ids : List Uuid} {phase : Phase}
    (h : Follows g₀ outcome g (.task n ids id phase) submitted)
    (hc : Coherent g (.task n ids id phase)) : (g₀.status id).isTerminal = false := by
  rw [← Bool.not_eq_true]
  intro hterm
  have hid : id ∈ g₀.insertionOrder := h.shape ▸ hc.2.2.1.1
  exact (h.initial id hid hterm).2 n ids phase rfl

theorem Follows.open_of_pending (h : Follows g₀ outcome g c submitted)
    (hid : id ∈ g.insertionOrder) (hpending : g.status id = .pending) :
    (g₀.status id).isTerminal = false := by
  rw [← Bool.not_eq_true]
  intro hterm
  have hst := (h.initial id (h.shape ▸ hid) hterm).1
  simp [← hst, hpending] at hterm

/-- A move that touches no status and starts no task. -/
theorem Follows.quiet (h : Follows g₀ outcome g c submitted)
    (hcurrent : ∀ n ids x phase, c' ≠ .task n ids x phase) (hretry : ∀ x, ¬ c.Retries x) :
    Follows g₀ outcome g c' submitted where
  shape := h.shape
  failure := h.failure
  initial x hx hterm := ⟨(h.initial x hx hterm).1, fun n ids phase => hcurrent n ids x phase⟩
  terminal x hx hterm _ := h.terminal x hx hterm (hretry x)
  justified := h.justified
  covered x hx hopen hcov := by
    rcases hcov with hterm | ⟨n, ids, phase, hc, _⟩
    · exact h.covered x hx hopen (Or.inl hterm)
    · exact absurd hc (hcurrent n ids x phase)

/-- A move that touches the one task `id`. -/
theorem Follows.update (h : Follows g₀ outcome g c submitted)
    (hshape : g'.toTaskShape = g.toTaskShape)
    (hfailure : ∀ x, (g'.task x).metadata.failure = (g.task x).metadata.failure)
    (hstatus : ∀ x, x ≠ id → g'.status x = g.status x)
    (hcurrent : ∀ n ids x phase, c' = .task n ids x phase → x = id)
    (hretry : ∀ x, x ≠ id → ¬ c.Retries x) (hopen : (g₀.status id).isTerminal = false)
    (hterminal : (g'.status id).isTerminal = true → ¬ c'.Retries id →
      g'.status id = g₀.semantics outcome id)
    (hsub : submitted ⊆ submitted')
    (hjust : ∀ x ∈ submitted', x ∈ submitted ∨ x = id ∧ x ∈ g₀.insertionOrder ∧
      ∀ d ∈ g₀.dependencies x, g₀.semantics outcome d = .succeeded)
    (hcovered : ((g'.status id).isTerminal = true ∨
        ∃ n ids phase, c' = .task n ids id phase ∧ phase.isSubmitted = true) →
      id ∈ submitted' ∨ ∃ d ∈ g₀.dependencies id, g₀.semantics outcome d ≠ .succeeded) :
    Follows g₀ outcome g' c' submitted' where
  shape := hshape.trans h.shape
  failure x := (hfailure x).trans (h.failure x)
  initial x hx hterm := by
    have hne : x ≠ id := fun heq => by simp [heq, hopen] at hterm
    refine ⟨(hstatus x hne).trans (h.initial x hx hterm).1, fun n ids phase hc => ?_⟩
    exact hne (hcurrent n ids x phase hc)
  terminal x hx hterm hret := by
    rcases eq_or_ne x id with rfl | hne
    · exact hterminal hterm hret
    · rw [hstatus x hne] at hterm ⊢
      exact h.terminal x hx hterm (hretry x hne)
  justified x hx := by
    rcases hjust x hx with hmem | ⟨rfl, hmem, hdeps⟩
    · exact h.justified x hmem
    · exact ⟨hmem, hopen, hdeps⟩
  covered x hx hxopen hcov := by
    rcases eq_or_ne x id with rfl | hne
    · exact hcovered hcov
    · rcases hcov with hterm | ⟨n, ids, phase, hc, _⟩
      · rw [hstatus x hne] at hterm
        exact (h.covered x hx hxopen (Or.inl hterm)).imp_left fun hmem => hsub hmem
      · exact absurd (hcurrent n ids x phase hc) hne

/-- A move of the current task that submits nothing: only its own status and phase matter. -/
theorem Follows.update_current {n : Nat} {ids : List Uuid} {phase : Phase}
    (h : Follows g₀ outcome g (.task n ids id phase) submitted)
    (hc : Coherent g (.task n ids id phase)) (hsubmitted : phase.isSubmitted = true)
    (hshape : g'.toTaskShape = g.toTaskShape)
    (hfailure : ∀ x, (g'.task x).metadata.failure = (g.task x).metadata.failure)
    (hstatus : ∀ x, x ≠ id → g'.status x = g.status x)
    (hcurrent : ∀ n ids x phase, c' = .task n ids x phase → x = id)
    (hterminal : (g'.status id).isTerminal = true → ¬ c'.Retries id →
      g'.status id = g₀.semantics outcome id) :
    Follows g₀ outcome g' c' submitted := by
  have hopen := h.open_current hc
  refine h.update hshape hfailure hstatus hcurrent (fun x hne => Control.not_retries_of_ne hne)
    hopen hterminal (List.Subset.refl _) (fun x hx => Or.inl hx) fun _ => ?_
  exact h.covered id (h.shape ▸ hc.2.2.1.1) hopen (Or.inr ⟨n, ids, phase, rfl, hsubmitted⟩)

theorem Move.follows (hlayered : g₀.Layered g₀.insertionOrder.length) {label : Option Uuid}
    (hm : Move g c g' c' label) (hc : Coherent g c) (hu : Uncancelled g c)
    (h : Follows g₀ outcome g c submitted) (hdec : c.Decides outcome)
    (hdec' : c'.Decides outcome) (hmiss : ¬ c.IsCacheHit) (hmiss' : ¬ c'.IsCacheHit) :
    Follows g₀ outcome g' c' (submitted ++ label.toList) := by
  have hshape := hm.toTaskShape
  have hfailure := hm.failure_eq
  have hother : ∀ {id : Uuid} {state : TaskStatus} (x : Uuid), x ≠ id →
      (g.setState id state).status x = g.status x := by
    intro id state x hne
    rw [TaskGraph.status_setState, if_neg hne]
  have hother' : ∀ {id : Uuid} {state : TaskStatus} {outputs : List ArtifactRef} (x : Uuid),
      x ≠ id → ((g.setOutputs id outputs).setState id state).status x = g.status x := by
    intro id state outputs x hne
    rw [TaskGraph.status_setState, if_neg hne, TaskGraph.status_setOutputs]
  have hcurrent : ∀ {n ids id phase} n' ids' x phase',
      Control.task n ids id phase = .task n' ids' x phase' → x = id := by
    rintro n ids id phase n' ids' x phase' ⟨⟩
    rfl
  have hnone : ∀ {n ids p id} n' ids' x phase',
      Control.ready n ids p = .task n' ids' x phase' → x = id := by
    intro n ids p id n' ids' x phase' heq
    cases heq
  cases hm with
  | enter _ | exhaust _ | pass _ | finish _ | snapshot _ | again | stall | hitCancelled _ =>
      rw [Option.toList_none, List.append_nil]
      -- no task changes its status in these
      exact h.quiet (by simp) (by simp [Control.Retries])
  | dispatchCancelled _ | refuse _ =>
      rw [Option.toList_none, List.append_nil]
      exact h.quiet (by simp) (by simp [Control.Retries])
  | idle hdead =>
      rw [Option.toList_none, List.append_nil]
      exact h
  | @propagate n id ids p hfailed =>
      -- the dependency that lets the task down has already ended as the semantics says
      obtain ⟨hpending, d, hd, hterm, hne⟩ := TaskGraph.dependencyFailed_iff.mp hfailed
      have hid : id ∈ g.insertionOrder := hc.2 List.mem_cons_self
      have hopen := h.open_of_pending hid hpending
      have hnoretry : ∀ x, ¬ (Control.propagate n (id :: ids) p).Retries x := by
        simp [Control.Retries]
      have hd₀ : d ∈ g₀.dependencies id := h.shape ▸ hd
      have hsem : g₀.semantics outcome d ≠ .succeeded := by
        rw [← h.terminal d (h.shape ▸ (g.mem_of_dependency id d hd).2) hterm (hnoretry d)]
        exact hne
      rw [Option.toList_none, List.append_nil]
      refine h.update hshape hfailure hother (by simp) (fun x _ => hnoretry x) hopen ?_
        (List.Subset.refl _) (fun x hx => Or.inl hx) fun _ => Or.inr ⟨d, hd₀, hsem⟩
      intro _ _
      rw [TaskGraph.status_setState, if_pos rfl, h.failure,
        TaskGraph.semantics_of_failed hlayered (h.shape ▸ hid) hopen hd₀ hsem]
  | @miss n id ids p =>
      have hpending := hu id List.mem_cons_self
      have hopen := h.open_of_pending (hc.2.eligible id List.mem_cons_self).1 hpending
      rw [Option.toList_none, List.append_nil]
      refine h.update rfl (fun _ => rfl) (fun _ _ => rfl) hcurrent (by simp [Control.Retries])
        hopen (by simp [hpending]) (List.Subset.refl _) (fun x hx => Or.inl hx) ?_
      rintro (hterm | ⟨n', ids', phase, heq, hphase⟩)
      · simp [hpending] at hterm
      · cases heq
        cases hphase
  | hit output _ => exact absurd ⟨_, _, _, output, rfl⟩ hmiss'
  | replay _ => exact absurd ⟨_, _, _, _, rfl⟩ hmiss
  | @dispatch n id ids hpending =>
      rw [Option.toList_none, List.append_nil]
      refine h.update hshape hfailure hother hcurrent (fun x hne => Control.not_retries_of_ne hne)
        (h.open_current hc) (by simp) (List.Subset.refl _) (fun x hx => Or.inl hx) ?_
      rintro (hterm | ⟨n', ids', phase, heq, hphase⟩)
      · simp at hterm
      · cases heq
        cases hphase
  | @submit n id ids hrun =>
      -- the submission is recorded, so its dependencies have to succeed in the semantics
      have hid : id ∈ g₀.insertionOrder := h.shape ▸ hc.2.2.1.1
      rw [Option.toList_some]
      refine h.update rfl (fun _ => rfl) (fun _ _ => rfl) hcurrent
        (fun x hne => Control.not_retries_of_ne hne) (h.open_current hc) (by simp [hrun])
        (List.subset_append_left _ _) (fun x hx => ?_) fun _ => Or.inl (by simp)
      refine (List.mem_append.mp hx).imp_right fun hx => ?_
      obtain rfl := List.mem_singleton.mp hx
      exact ⟨rfl, hid, h.dependencies_succeed hc hc.2.2.1⟩
  | wait _ _ | fail _ =>
      rw [Option.toList_none, List.append_nil]
      have hrun : g.status _ = .running := hc.1
      exact h.update_current hc rfl hshape hfailure (by simp) hcurrent (by simp [hrun])
  | @complete n id ids produced missed hrun =>
      rw [Option.toList_none, List.append_nil]
      refine h.update_current hc rfl hshape hfailure hother' hcurrent fun _ _ => ?_
      -- the semantics takes the outcome of the task, since its dependencies succeed
      rw [h.semantics_eq_outcome hc hlayered hc.2.2.1 (h.open_current hc),
        hdec' (id, _) rfl, TaskGraph.status_setState, if_pos rfl]
  | @abandon n id ids produced missed hrun =>
      rw [Option.toList_none, List.append_nil]
      refine h.update_current hc rfl hshape hfailure hother' hcurrent fun _ _ => ?_
      rw [h.semantics_eq_outcome hc hlayered hc.2.2.1 (h.open_current hc),
        hdec' (id, _) rfl, TaskGraph.status_setState, if_pos rfl]
  | stored | recorded =>
      rw [Option.toList_none, List.append_nil]
      refine h.update_current hc rfl hshape hfailure (by simp) hcurrent fun hterm _ => ?_
      exact h.terminal _ (h.shape ▸ hc.2.2.1.1) hterm (by simp [Control.Retries])
  | @thread n id ids declared =>
      rw [Option.toList_none, List.append_nil]
      refine h.update_current hc rfl hshape hfailure (by simp) hnone fun hterm _ => ?_
      rw [TaskGraph.status_threadOutputsToDependents] at hterm ⊢
      exact h.terminal id (h.shape ▸ hc.2.2.1.1) hterm (by simp [Control.Retries])
  | recordedCancelled =>
      rw [Option.toList_none, List.append_nil]
      refine h.update_current hc rfl hshape hfailure (by simp) hnone fun hterm _ => ?_
      exact h.terminal _ (h.shape ▸ hc.2.2.1.1) hterm (by simp [Control.Retries])
  | @markFailed n id ids hrun =>
      rw [Option.toList_none, List.append_nil]
      -- marked failed for the moment, the task may still be retried
      exact h.update_current hc rfl hshape hfailure hother hcurrent fun _ hnot =>
        absurd ⟨n, ids, rfl⟩ hnot
  | @giveUp n id ids hrun =>
      rw [Option.toList_none, List.append_nil]
      refine h.update_current hc rfl hshape hfailure hother hnone fun _ _ => ?_
      rw [h.semantics_eq_outcome hc hlayered hc.2.2.1 (h.open_current hc),
        hdec (id, _) rfl, TaskGraph.status_setState, if_pos rfl]
  | retry _ =>
      rw [Option.toList_none, List.append_nil]
      exact h.update_current hc rfl hshape hfailure hother hcurrent (by simp)

end step

/-! ## Runs

The outcomes come from what the executor reports, by the retry policy. A run
that returns has ended all its tasks, so the invariant at its end is the whole
semantics. -/

namespace Scheduler

variable {σ ι : Type} {sched : Scheduler σ ι} {inputs : Nat → StepInput ι} {s₀ : SchedulerState σ}

variable (sched) in
theorem states_isCacheable (hquiet : Quiet inputs) (hc : Coherent s₀.graph s₀.control) (k : Nat)
    (x : Uuid) : TaskCache.isCacheable ((sched.states inputs s₀ k).graph.task x) =
      TaskCache.isCacheable (s₀.graph.task x) := by
  induction k with
  | zero => rfl
  | succ k ih =>
      obtain ⟨_, hmove, _⟩ := moves_of_quiet sched hquiet hc k
      exact (hmove.isCacheable_eq x).trans ih

/-- Without cacheable tasks nothing is replayed. -/
theorem not_isCacheHit (hquiet : Quiet inputs) (hc : Coherent s₀.graph s₀.control)
    (h₀ : s₀.control = .iterate 0)
    (hcache : ∀ x ∈ s₀.graph.insertionOrder, TaskCache.isCacheable (s₀.graph.task x) = false)
    (k : Nat) : ¬ (sched.states inputs s₀ k).control.IsCacheHit := by
  rintro ⟨n, ids, id, output, hcontrol⟩
  cases k with
  | zero => simp [h₀] at hcontrol
  | succ k =>
      obtain ⟨_, hmove, _⟩ := moves_of_quiet sched hquiet hc k
      have hck : Coherent (sched.states inputs s₀ k).graph _ := states_coherent hc k
      rw [hcontrol] at hmove
      generalize hprev : (sched.states inputs s₀ k).control = c at hmove
      generalize (sched.states inputs s₀ (k + 1)).graph = g' at hmove
      cases hmove with
      | @hit _ _ _ p _ _ =>
          rw [hprev] at hck
          have hid := (hck.2.eligible id List.mem_cons_self).1
          rw [states_toTaskShape hc k] at hid
          have hnot := (states_isCacheable sched hquiet hc k id).trans (hcache id hid)
          rw [states_succ_of_quiet hquiet, advance, hprev] at hcontrol
          simp [tryCacheHit, TaskCache.lookup_of_not_cacheable _ _ _ _ hnot] at hcontrol
      | idle hdead => simp [Control.isLive] at hdead

theorem states_follows (outcome : Uuid → TaskStatus) (hquiet : Quiet inputs)
    (hc : Coherent s₀.graph s₀.control) (h₀ : s₀.control = .iterate 0) (hsub : s₀.submissions = [])
    (hlayered : s₀.graph.Layered s₀.graph.insertionOrder.length)
    (hcache : ∀ x ∈ s₀.graph.insertionOrder, TaskCache.isCacheable (s₀.graph.task x) = false)
    (hdec : ∀ k, (sched.states inputs s₀ k).control.Decides outcome) (k : Nat) :
    Follows s₀.graph outcome (sched.states inputs s₀ k).graph (sched.states inputs s₀ k).control
      ((sched.states inputs s₀ k).submissions.map TaskRequest.taskId) := by
  induction k with
  | zero =>
      rw [states_zero, h₀, hsub]
      exact Follows.start hlayered
  | succ k ih =>
      obtain ⟨label, hmove, hsubs, _⟩ := moves_of_quiet sched hquiet hc k
      obtain ⟨_, hu⟩ := unblocked_of_quiet sched hquiet hc h₀ hlayered.acyclic k
      have hstep := hmove.follows hlayered (states_coherent hc k) hu ih (hdec k) (hdec (k + 1))
        (not_isCacheHit hquiet hc h₀ hcache k) (not_isCacheHit hquiet hc h₀ hcache (k + 1))
      have hids : (sched.states inputs s₀ (k + 1)).submissions.map TaskRequest.taskId =
          (sched.states inputs s₀ k).submissions.map TaskRequest.taskId ++ label.toList := by
        rw [hsubs, List.map_append]
        cases label <;> rfl
      rw [hids]
      exact hstep

/-- The final outcome of a task is a function of its id: the executor takes each
submission, each wait for it is left, and what it reports of the attempts at a
task is settled by the retry policy of the task as that function says. -/
structure Determined (sched : Scheduler σ ι) (inputs : Nat → StepInput ι) (s₀ : SchedulerState σ)
    (outcome : Uuid → TaskStatus) : Prop where
  accepted : sched.Accepted inputs s₀
  responsive : sched.Responsive inputs s₀
  settled : ∀ k x status, (s₀.graph.task x).metadata.retry.settle (s₀.graph.task x).metadata.attempts
    (endsOf x (sched.reports inputs s₀ k)) = some status → outcome x = status

/-- **The scheduler computes the semantics.** `Run` on a validated graph without
cacheable tasks returns with every task in the status of the recursive
semantics; a task is submitted exactly if all its dependencies end succeeded;
and the semantics does not depend on the order in which the graph was put
together. -/
theorem run_returns_semantics {store : SchedulerStateStore} {executor : σ} {g : TaskGraph}
    {externalInputs : List ArtifactRef} {pipelineHash : String}
    (hrun : sched.run store executor g externalInputs pipelineHash = .ok s₀)
    (hlayers : g.Layered 10000) (hidle : NoneRunning g)
    (hcache : ∀ x ∈ g.insertionOrder, TaskCache.isCacheable (g.task x) = false)
    (hquiet : Quiet inputs) {outcome : Uuid → TaskStatus}
    (hworker : sched.Determined inputs s₀ outcome) :
    (∃ k, (sched.states inputs s₀ k).control = .returned ∧
      ∀ x ∈ g.insertionOrder,
        (sched.states inputs s₀ k).graph.status x = g.semantics outcome x ∧
        (x ∈ (sched.states inputs s₀ k).submissions.map TaskRequest.taskId ↔
          (g.status x).isTerminal = false ∧
            ∀ d ∈ g.dependencies x, (sched.states inputs s₀ k).graph.status d = .succeeded)) ∧
      ∀ g', g.SameDag g' → ∀ x ∈ g.insertionOrder,
        g'.semantics outcome x = g.semantics outcome x := by
  obtain ⟨hvalid, rfl, h₀, hsub⟩ := run_eq_ok hrun
  have hlayered := TaskGraph.layered_of_validate hvalid
  have hc : Coherent s₀.graph s₀.control := by
    rw [h₀]
    exact Coherent.start hidle
  -- the run returns, as its waits are left and its submissions accepted
  obtain ⟨k, hk⟩ := exists_returned_of_quiet hquiet hc h₀ hlayered.acyclic hworker.accepted
    hworker.responsive
  -- what the executor reports decides every dispatch, by the retry policy
  have hdecides := decides_of_reports hquiet hc h₀ hlayered.acyclic
    (not_isCacheHit hquiet hc h₀ hcache) hworker.settled
  have hfollows := states_follows outcome hquiet hc h₀ hsub hlayered hcache hdecides k
  have hterm := allTerminal_of_returned hc h₀ hlayers hk
  -- all tasks have ended, so the invariant says how
  have hfinal : ∀ x ∈ s₀.graph.insertionOrder,
      (sched.states inputs s₀ k).graph.status x = s₀.graph.semantics outcome x := fun x hx =>
    hfollows.terminal x hx (hterm x hx) (by simp [Control.Retries, hk])
  refine ⟨⟨k, hk, fun x hx => ⟨hfinal x hx, ?_⟩⟩, fun g' hsame x hx => ?_⟩
  · have hdeps : (∀ d ∈ s₀.graph.dependencies x,
          (sched.states inputs s₀ k).graph.status d = .succeeded) ↔
        ∀ d ∈ s₀.graph.dependencies x, s₀.graph.semantics outcome d = .succeeded :=
      forall₂_congr fun d hd => by rw [hfinal d (s₀.graph.mem_of_dependency x d hd).2]
    rw [hdeps]
    constructor
    · exact fun hmem => (hfollows.justified x hmem).2
    · rintro ⟨hopen, hall⟩
      refine (hfollows.covered x hx hopen (Or.inl (hterm x hx))).resolve_right ?_
      rintro ⟨d, hd, hne⟩
      exact hne (hall d hd)
  -- the semantics depends on the graph, and not on how it was put together
  · obtain ⟨order, horder⟩ :=
      TaskShape.topologicalOrder_eq_ok_iff.mpr (hsame.acyclic hlayered.acyclic)
    exact hsame.semantics_eq hlayered (TaskShape.topologicalOrder_eq_ok horder) hx

/-! A chain of two tasks and one beside it; the worker fails the first of the chain. -/

private def chainGraph : TaskGraph :=
  let first : TaskInstance := { id := ⟨1⟩, definition := { type := "import" }, outputs := ["a"] }
  let second : TaskInstance := { id := ⟨2⟩, definition := { type := "match" }, inputs := ["a"] }
  let beside : TaskInstance := { id := ⟨3⟩, definition := { type := "report" } }
  (TaskGraph.build ⟨9⟩ ⟨8⟩ [second, first, beside] [(⟨2⟩, ⟨1⟩)]).toOption.getD (.empty ⟨9⟩)

private def chainScheduler : Scheduler (List WorkerEvent) Unit where
  cache := ⟨id, "", ""⟩
  executor := .deterministic {} ⟨7⟩ fun request =>
    if request.taskId = ⟨1⟩ then [.failed "WORKER_CRASHED" "gone" true] else [.completed]

private def chainInputs (_ : Nat) : StepInput Unit := { worker := () }

private def chainStart : SchedulerState (List WorkerEvent) :=
  (chainScheduler.run {} [] chainGraph [] "").toOption.getD
    ⟨chainGraph, {}, [], "", .returned, [], []⟩

private def chainOutcome (id : Uuid) : TaskStatus := if id = ⟨1⟩ then .failed else .succeeded

/-- The first task of the chain is tried twice. -/
private theorem chain_reports : chainScheduler.reports chainInputs chainStart 36 =
    [(⟨1⟩, .failed true), (⟨1⟩, .failed true), (⟨3⟩, .completed)] := by
  decide +kernel

/-- What it reports for the first task is retried once and then final. -/
private theorem chain_settled (x : Uuid) (status : TaskStatus)
    (h : (chainStart.graph.task x).metadata.retry.settle (chainStart.graph.task x).metadata.attempts
      (endsOf x (chainScheduler.reports chainInputs chainStart 36)) = some status) :
    chainOutcome x = status := by
  rw [chain_reports] at h
  by_cases hfirst : x = ⟨1⟩
  · subst hfirst
    revert h status
    decide +kernel
  by_cases hbeside : x = ⟨3⟩
  · subst hbeside
    revert h status
    decide +kernel
  · simp only [endsOf, List.filterMap_cons, List.filterMap_nil, if_neg (Ne.symm hfirst),
      if_neg (Ne.symm hbeside)] at h
    cases h

theorem chain_returns :
    ∃ k, (chainScheduler.states chainInputs chainStart k).control = .returned ∧
      (chainScheduler.states chainInputs chainStart k).graph.status ⟨2⟩ = .skipped := by
  have hrun : chainScheduler.run {} [] chainGraph [] "" = .ok chainStart :=
    eq_ok_getD _ (by decide +kernel)
  have hquiet : Quiet chainInputs := fun _ => rfl
  have hdead : (chainScheduler.states chainInputs chainStart 36).control.isLive = false := by
    decide +kernel
  have hworker : chainScheduler.Determined chainInputs chainStart chainOutcome :=
    ⟨fun _ _ _ _ _ => ⟨_, rfl⟩, responsive_of_dead hquiet hdead,
      settled_of_dead hquiet hdead chain_settled⟩
  have hlayers : chainGraph.Layered 10000 :=
    (TaskGraph.layered_of_validate (run_eq_ok hrun).1).mono (by decide +kernel)
  obtain ⟨⟨k, hk, hfinal⟩, _⟩ := run_returns_semantics hrun hlayers
    (by unfold NoneRunning; decide +kernel) (by decide +kernel) hquiet hworker
  refine ⟨k, hk, ?_⟩
  rw [(hfinal ⟨2⟩ (by decide +kernel)).1]
  decide +kernel

end Scheduler

end SpatialPlatform.Engine
