import SpatialPlatform.Core.Sha256
import SpatialPlatform.Engine.Cache.Entries

/-!
# A run with a warm cache

`TryCacheHit` replays one output, the first one of the execution that filled the
cache. A run that is served from the cache is compared here with the run that
filled it, with a worker for which the end of a task depends on the task and its
inputs alone.

* `agree_iff_replaysAt` — the two runs end with the same statuses, outputs and
  inputs exactly when each output that is replayed is all that executing its
  task produces, whatever the cache holds.
* `warm_run_agrees_iff` — for a cache that the first run has filled: exactly
  when each task that is served from it produces one output.
* `second_output_lost` — a task with two outputs, run twice.
-/

namespace SpatialPlatform.Engine

open SpatialPlatform.Core

/-- The task that is about to be served from the cache. -/
def Control.served : Control → Option Uuid
  | .task _ _ id (.cacheHit _) => some id
  | _ => none

/-- The tasks of two graphs have the same statuses, outputs and inputs. -/
def TaskGraph.Agree (g g' : TaskGraph) : Prop :=
  ∀ x ∈ g.insertionOrder, g'.status x = g.status x ∧
    (g'.task x).outputs = (g.task x).outputs ∧ (g'.task x).inputs = (g.task x).inputs

instance (g g' : TaskGraph) : Decidable (g.Agree g') :=
  inferInstanceAs (Decidable (∀ x ∈ g.insertionOrder, g'.status x = g.status x ∧
    (g'.task x).outputs = (g.task x).outputs ∧ (g'.task x).inputs = (g.task x).inputs))

theorem TaskGraph.agree_of_unattempted {g g' : TaskGraph} (h : g.unattempted = g'.unattempted) :
    g.Agree g' := by
  intro x _
  rw [← g.status_unattempted, ← g.outputs_unattempted, ← g.inputs_unattempted, h]
  exact ⟨rfl, rfl, rfl⟩

namespace Scheduler

variable {σ ι : Type} {sched : Scheduler σ ι} {inputs : Nat → StepInput ι} {s₀ : SchedulerState σ}
  {work : Work}

/-- No `Cancel` arrives, and the worker takes each task, answers, and ends it as `work` says. -/
structure Performs (sched : Scheduler σ ι) (inputs : Nat → StepInput ι) (s₀ : SchedulerState σ)
    (work : Work) : Prop where
  quiet : Quiet inputs
  accepted : sched.Accepted inputs s₀
  responsive : sched.Responsive inputs s₀
  executes : ∀ k, (sched.states inputs s₀ k).control.Executes work (sched.states inputs s₀ k).graph

/-- In the `k`-th state, what is about to be replayed is what executing the task produces. -/
def ReplaysAt (sched : Scheduler σ ι) (inputs : Nat → StepInput ι) (s₀ : SchedulerState σ)
    (work : Work) (k : Nat) : Prop :=
  (sched.states inputs s₀ k).control.Replays work (sched.states inputs s₀ k).graph

theorem states_followsRounds (hc : Coherent s₀.graph s₀.control) (h₀ : s₀.control = .iterate 0)
    (hacyclic : s₀.graph.Acyclic) (hworker : sched.Performs inputs s₀ work) {k : Nat}
    (hreplays : ∀ j < k, sched.ReplaysAt inputs s₀ work j) :
    FollowsRounds work s₀.graph (sched.states inputs s₀ k).graph
      (sched.states inputs s₀ k).control := by
  induction k with
  | zero =>
      rw [states_zero, h₀]
      exact ⟨0, rfl⟩
  | succ k ih =>
      obtain ⟨_, hmove, _⟩ := moves_of_quiet sched hworker.quiet hc k
      obtain ⟨_, hu⟩ := unblocked_of_quiet sched hworker.quiet hc h₀ hacyclic k
      have hfollows := ih fun j hj => hreplays j (Nat.lt_succ_of_lt hj)
      exact hfollows.move hmove hu (hworker.executes k) (hworker.executes (k + 1))
        (hreplays k (Nat.lt_succ_self k))

/-- What has succeeded stays as it is. -/
theorem states_of_succeeded (hquiet : Quiet inputs) (hc : Coherent s₀.graph s₀.control) {j k : Nat}
    (hjk : j ≤ k) {x : Uuid} (hx : (sched.states inputs s₀ j).graph.status x = .succeeded) :
    (sched.states inputs s₀ k).graph.status x = .succeeded ∧
      ((sched.states inputs s₀ k).graph.task x).outputs =
        ((sched.states inputs s₀ j).graph.task x).outputs := by
  induction hjk with
  | refl => exact ⟨hx, rfl⟩
  | @step k _ ih =>
      obtain ⟨hstatus, houtputs⟩ := ih
      obtain ⟨_, hmove, _⟩ := moves_of_quiet sched hquiet hc k
      exact ⟨hmove.succeeded hstatus, (hmove.outputs_of_succeeded hstatus).trans houtputs⟩

/-- The end of a task whose output is replayed, in a run that has executed it. -/
theorem ended_of_reaches {g₀ start g : TaskGraph} {n : Nat} {id : Uuid} {ids : List Uuid} {p : Bool}
    (h : Reaches work g₀ (start, .ready n (id :: ids) p)) (hnot : id ∉ ids)
    (hend : Reaches work g₀ (g, .returned)) :
    g.status id = (work id (start.task id).inputs).status ∧
      ∀ outputs, work id (start.task id).inputs = .succeeded outputs →
        (g.task id).outputs = outputs := by
  obtain ⟨m, hm⟩ := (h.step rfl).until hend
  have hended : Ended id (rounds work (start, .ready n (id :: ids) p)) := by
    refine ⟨?_, ?_⟩
    · show ((start.finish id _).status id).isTerminal = true
      rw [TaskGraph.status_finish]
      cases work id (start.task id).inputs <;> rfl
    · rintro _ _ _ ⟨⟩
      exact hnot
  obtain ⟨_, hstatus, houtputs⟩ := hended.iterate work m
  rw [hm] at hstatus houtputs
  constructor
  · exact hstatus.trans (start.status_finish id _)
  · intro outputs hwork
    refine houtputs.trans ?_
    simp only [rounds, hwork]
    exact start.outputs_finish id outputs

/-- What `TryCacheHit` replays is what the task has afterwards. -/
theorem states_of_cacheHit (hquiet : Quiet inputs) (hc : Coherent s₀.graph s₀.control) {k n : Nat}
    {ids : List Uuid} {x : Uuid} {output : ArtifactRef}
    (hcontrol : (sched.states inputs s₀ k).control = .task n ids x (.cacheHit output)) :
    (sched.states inputs s₀ (k + 1)).graph.status x = .succeeded ∧
      ((sched.states inputs s₀ (k + 1)).graph.task x).outputs = [output] := by
  have hck : Coherent (sched.states inputs s₀ k).graph _ := states_coherent hc k
  rw [hcontrol] at hck
  have hrun : (sched.states inputs s₀ k).graph.status x = .running := hck.1
  rw [states_succ_of_quiet hquiet]
  simp only [advance, hcontrol, dispatchAndAwait]
  rw [SchedulerState.mark_of_legal _ (by simp [hrun, TaskStatus.isLegal])]
  simp [TaskGraph.task_setState, TaskGraph.task_setOutputs]

/-- If a run ends like the rounds, what it replays first is what they end the task with. -/
theorem replaysAt_of_agree (hc : Coherent s₀.graph s₀.control) (h₀ : s₀.control = .iterate 0)
    (hacyclic : s₀.graph.Acyclic) (hworker : sched.Performs inputs s₀ work) {g : TaskGraph}
    (hend : Reaches work s₀.graph (g.unattempted, .returned))
    (hshape : g.toTaskShape = s₀.graph.toTaskShape) {j k : Nat}
    (hk : (sched.states inputs s₀ k).control = .returned)
    (hagree : g.Agree (sched.states inputs s₀ k).graph)
    (hreplays : ∀ i < j, sched.ReplaysAt inputs s₀ work i) : sched.ReplaysAt inputs s₀ work j := by
  have hfollows := states_followsRounds hc h₀ hacyclic hworker hreplays
  unfold ReplaysAt Control.Replays
  split
  next n ids x output hcontrol =>
    rw [hcontrol] at hfollows
    obtain ⟨start, p, hreach, _, hg⟩ := hfollows
    have hcj : Coherent (sched.states inputs s₀ j).graph _ := states_coherent hc j
    rw [hcontrol] at hcj
    obtain ⟨hstatus, houtputs⟩ := ended_of_reaches hreach hcj.2.2.2.1 hend
    -- a scheduler that has returned does not move, so the replay was before
    have hlater : j + 1 ≤ k := by
      by_contra hlt
      have hdead := states_eq_of_dead hworker.quiet (Nat.le_of_lt_succ (Nat.lt_of_not_le hlt))
        (by rw [hk]; rfl)
      rw [hdead, hk] at hcontrol
      cases hcontrol
    obtain ⟨hdone, hreplayed⟩ := states_of_cacheHit hworker.quiet hc hcontrol
    obtain ⟨hdone', hkept⟩ := states_of_succeeded hworker.quiet hc hlater hdone
    have hmem : x ∈ g.insertionOrder := by
      rw [hshape, ← states_toTaskShape hc j]
      exact hcj.2.2.1.1
    obtain ⟨hsame, hsameOutputs, _⟩ := hagree x hmem
    have hsucceeded : (work x (start.task x).inputs).status = .succeeded :=
      hstatus.symm.trans (hsame.symm.trans hdone')
    rw [(TaskGraph.task_of_unattempted hg).1]
    cases hwork : work x (start.task x).inputs with
    | succeeded outputs =>
        have hfinal : (g.task x).outputs = outputs := houtputs outputs hwork
        rw [← hfinal, ← hsameOutputs, hkept, hreplayed]
    | failed =>
        rw [hwork] at hsucceeded
        cases hsucceeded
    | cancelled =>
        rw [hwork] at hsucceeded
        cases hsucceeded
  next => trivial

/-- Two runs of a graph that both return end with the same statuses, outputs and
inputs exactly when all that the second one replays is what executing its task
produces; the first one executes its tasks, or replays no more than that. -/
theorem agree_iff_replaysAt {s₀' : SchedulerState σ} {inputs' : Nat → StepInput ι}
    (hc : Coherent s₀.graph s₀.control) (hgraph : s₀'.graph = s₀.graph)
    (h₀ : s₀.control = .iterate 0) (h₀' : s₀'.control = .iterate 0)
    (hacyclic : s₀.graph.Acyclic) (hworker : sched.Performs inputs s₀ work)
    (hworker' : sched.Performs inputs' s₀' work)
    (hexecuted : ∀ k, sched.ReplaysAt inputs s₀ work k) {k k' : Nat}
    (hk : (sched.states inputs s₀ k).control = .returned)
    (hk' : (sched.states inputs' s₀' k').control = .returned) :
    (sched.states inputs s₀ k).graph.Agree (sched.states inputs' s₀' k').graph ↔
      ∀ j, sched.ReplaysAt inputs' s₀' work j := by
  have hacyclic' : s₀'.graph.Acyclic := by rwa [hgraph]
  have hc' : Coherent s₀'.graph s₀'.control := by rwa [hgraph, h₀', ← h₀]
  have hend := states_followsRounds hc h₀ hacyclic hworker fun j (_ : j < k) => hexecuted j
  rw [hk, ← hgraph] at hend
  constructor
  · intro hagree j
    have hshape : (sched.states inputs s₀ k).graph.toTaskShape = s₀'.graph.toTaskShape :=
      (states_toTaskShape hc k).trans (congrArg TaskGraph.toTaskShape hgraph.symm)
    -- the first replay that is not what executing produces would show in the end
    induction j using Nat.strongRecOn with
    | _ j ih => exact replaysAt_of_agree hc' h₀' hacyclic' hworker' hend hshape hk' hagree ih
  · intro hreplays
    have hend' := states_followsRounds hc' h₀' hacyclic' hworker' fun j (_ : j < k') => hreplays j
    rw [hk'] at hend'
    exact TaskGraph.agree_of_unattempted (Reaches.returned_unique hend hend')

/-! ## The cache that a run leaves

The cold run stores one output for each of its tasks, so what the warm run
replays is a list of one output. Both runs then follow the same rounds, unless a
replayed task has produced another number of outputs. -/

/-- In the `k`-th state, a task that is about to be served from the cache is one
that ends with one output when it is executed. -/
def ServesSingle (sched : Scheduler σ ι) (inputs : Nat → StepInput ι) (s₀ : SchedulerState σ)
    (work : Work) (k : Nat) : Prop :=
  ∀ served ∈ (sched.states inputs s₀ k).control.served,
    (work served ((sched.states inputs s₀ k).graph.task served).inputs).outputs.length = 1

theorem Stocked.replaysAt_iff {k : Nat} {hashOf : Uuid → ArtifactRef} {g₀ : TaskGraph}
    (h : Stocked sched.cache hashOf g₀ work (sched.states inputs s₀ k))
    (hdetermines : sched.cache.Determines g₀ work) :
    sched.ReplaysAt inputs s₀ work k ↔ sched.ServesSingle inputs s₀ work k := by
  unfold ReplaysAt ServesSingle
  by_cases hhit : ∃ n ids x output,
      (sched.states inputs s₀ k).control = .task n ids x (.cacheHit output)
  · obtain ⟨n, ids, x, output, hcontrol⟩ := hhit
    obtain ⟨rest, hwork⟩ := h.replayed hdetermines hcontrol
    simp [hcontrol, Control.Replays, Control.served, hwork, Ending.outputs]
  · -- nothing is served, and nothing has to be replayed
    refine iff_of_true ?_ fun served hserved => ?_
    · unfold Control.Replays
      split
      · next n ids x output hcontrol => exact absurd ⟨n, ids, x, output, hcontrol⟩ hhit
      · trivial
    · unfold Control.served at hserved
      split at hserved
      · next n ids x output hcontrol => exact absurd ⟨n, ids, x, output, hcontrol⟩ hhit
      · cases hserved

/-- A run with the cache that a first run from an empty cache has filled ends
with the same statuses, outputs and inputs as that run exactly when each task
that is served from the cache produces one output when it is executed. A task
that is served in the first run already does so. -/
theorem warm_run_agrees_iff {store store' : SchedulerStateStore} {executor executor' : σ}
    {g : TaskGraph} {externalInputs : List ArtifactRef} {pipelineHash : String}
    {inputs' : Nat → StepInput ι} {s₀' : SchedulerState σ} {hashOf : Uuid → ArtifactRef} {k : Nat}
    (hcold : sched.run store executor g externalInputs pipelineHash = .ok s₀)
    (hempty : ∀ key, store.cacheEntries key = none)
    (hk : (sched.states inputs s₀ k).control = .returned)
    (hwarm : sched.run store' executor' g externalInputs pipelineHash = .ok s₀')
    (hfilled : store'.cacheEntries = (sched.states inputs s₀ k).store.cacheEntries)
    (hidle : NoneRunning g) (hworker : sched.Performs inputs s₀ work)
    (hworker' : sched.Performs inputs' s₀' work)
    (hnames : ∀ j, (inputs j).artifacts.Names hashOf)
    (hnames' : ∀ j, (inputs' j).artifacts.Names hashOf)
    (hdetermines : sched.cache.Determines g work)
    (hsingle : ∀ j, sched.ServesSingle inputs s₀ work j) :
    ∃ k', (sched.states inputs' s₀' k').control = .returned ∧
      ((sched.states inputs s₀ k).graph.Agree (sched.states inputs' s₀' k').graph ↔
        ∀ j, sched.ServesSingle inputs' s₀' work j) := by
  obtain ⟨hvalid, hgraph, h₀, _⟩ := run_eq_ok hcold
  obtain ⟨_, hgraph', h₀', _⟩ := run_eq_ok hwarm
  have hacyclic := (TaskGraph.layered_of_validate hvalid).acyclic
  have hc : Coherent s₀.graph s₀.control := by
    rw [h₀, hgraph]
    exact Coherent.start hidle
  have hc' : Coherent s₀'.graph s₀'.control := by
    rw [h₀', hgraph']
    exact Coherent.start hidle
  obtain ⟨k', hk'⟩ := exists_returned_of_quiet hworker'.quiet hc' h₀' (hgraph' ▸ hacyclic)
    hworker'.accepted hworker'.responsive
  -- both runs keep the cache stocked; the warm one begins with what the cold one has left
  have hstocked := fun j => states_stocked hworker.quiet hc hnames hworker.executes
    (Stocked.start hcold fun {key entry} hentry => nomatch (hempty key).symm.trans hentry) j
  have hstocked' := fun j => states_stocked hworker'.quiet hc' hnames' hworker'.executes
    (Stocked.start hwarm fun {key entry} hentry => (hstocked k).entries (hfilled ▸ hentry)) j
  -- the cold run replays what executing produces
  have hexecuted : ∀ j, sched.ReplaysAt inputs s₀ work j := fun j =>
    ((hstocked j).replaysAt_iff hdetermines).mpr (hsingle j)
  refine ⟨k', hk', ?_⟩
  rw [agree_iff_replaysAt hc (hgraph'.trans hgraph.symm) h₀ h₀' (hgraph ▸ hacyclic) hworker hworker'
    hexecuted hk hk']
  exact forall_congr' fun j => (hstocked' j).replaysAt_iff hdetermines

/-! A task whose outputs are cached, and one that takes them; both runs see the same artifacts. -/

private def featuresGraph : TaskGraph :=
  let features : TaskInstance :=
    { id := ⟨1⟩
      definition := { type := "features" }
      outputs := ["a"]
      metadata := { deterministic := true } }
  let matching : TaskInstance := { id := ⟨2⟩, definition := { type := "match" }, inputs := ["a"] }
  (TaskGraph.build ⟨9⟩ ⟨8⟩ [features, matching] [(⟨2⟩, ⟨1⟩)]).toOption.getD (.empty ⟨9⟩)

/-- The worker reports the given refs for the first task. -/
private def featuresScheduler (refs : List ArtifactRef) : Scheduler (List WorkerEvent) Unit where
  cache := ⟨sha256HexString, "engine", ""⟩
  executor := .deterministic {} ⟨7⟩ fun request =>
    if request.taskId = ⟨1⟩ then refs.map .artifactProduced ++ [.completed] else [.completed]

private def featuresWork (refs : List ArtifactRef) : Work := fun id _ =>
  .succeeded (if id = ⟨1⟩ then refs else [])

private def featuresHash (artifactId : Uuid) : ArtifactRef :=
  if artifactId = ⟨11⟩ then "left" else "right"

private def featuresInput : StepInput Unit where
  artifacts :=
    { manifestHash := fun artifactId => some (featuresHash artifactId)
      artifactByHash := fun hash => [⟨11⟩, ⟨12⟩].find? (featuresHash · = hash) }
  worker := ()

private def featuresInputs (_ : Nat) : StepInput Unit := featuresInput

private def featuresStart (refs : List ArtifactRef) (store : SchedulerStateStore) :
    SchedulerState (List WorkerEvent) :=
  ((featuresScheduler refs).run store [] featuresGraph [] "").toOption.getD
    ⟨featuresGraph, {}, [], "", .returned, [], []⟩

private def featuresRun (refs : List ArtifactRef) (store : SchedulerStateStore) (k : Nat) :
    SchedulerState (List WorkerEvent) :=
  (featuresScheduler refs).states featuresInputs (featuresStart refs store) k

/-- The database of the second run: the cache that the first one has left. -/
private def filled (refs : List ArtifactRef) : SchedulerStateStore where
  cacheEntries := (featuresRun refs {} 30).store.cacheEntries

private theorem featuresNames : featuresInput.artifacts.Names featuresHash where
  manifest := Option.some.inj
  index hindex := by
    simpa using List.find?_some hindex

/-- The run has returned after thirty steps; its tasks end as expected, and no
other task than the first is served from the cache. -/
private def FeaturesRun (refs : List ArtifactRef) (store : SchedulerStateStore) : Prop :=
  (featuresRun refs store 30).control = .returned ∧
    ∀ k ≤ 30, (featuresRun refs store k).control.Executes (featuresWork refs)
      (featuresRun refs store k).graph ∧ ∀ x ∈ (featuresRun refs store k).control.served, x = ⟨1⟩

private instance (refs : List ArtifactRef) (store : SchedulerStateStore) :
    Decidable (FeaturesRun refs store) := by
  unfold FeaturesRun
  infer_instance

section

variable {refs : List ArtifactRef} {store : SchedulerStateStore}

private theorem FeaturesRun.dead (h : FeaturesRun refs store) :
    (featuresRun refs store 30).control.isLive = false := by
  rw [h.1]
  rfl

private theorem FeaturesRun.performs (h : FeaturesRun refs store) :
    (featuresScheduler refs).Performs featuresInputs (featuresStart refs store)
      (featuresWork refs) where
  quiet := fun _ => rfl
  accepted := fun _ _ _ _ _ => ⟨_, rfl⟩
  responsive := responsive_of_dead (fun _ => rfl) h.dead
  executes := forall_states_of_dead (fun _ => rfl) h.dead
    (P := fun s => s.control.Executes (featuresWork refs) s.graph) fun k hk => (h.2 k hk).1

private theorem FeaturesRun.servesSingle {ref : ArtifactRef} (h : FeaturesRun [ref] store) (k : Nat) :
    (featuresScheduler [ref]).ServesSingle featuresInputs (featuresStart [ref] store)
      (featuresWork [ref]) k := by
  revert k
  apply forall_states_of_dead (fun _ => rfl) h.dead (P := fun s => ∀ served ∈ s.control.served,
    (featuresWork [ref] served (s.graph.task served).inputs).outputs.length = 1)
  intro k hk served hserved
  rw [(h.2 k hk).2 served hserved]
  rfl

end

/-- One output is replayed as it was produced. -/
theorem single_output_kept :
    ∃ k, (featuresRun ["left"] (filled ["left"]) k).control = .returned ∧
      (featuresRun ["left"] {} 30).graph.Agree (featuresRun ["left"] (filled ["left"]) k).graph := by
  have hcold : (featuresScheduler ["left"]).run {} [] featuresGraph [] "" =
      .ok (featuresStart ["left"] {}) :=
    eq_ok_getD _ (by decide +kernel)
  have hwarm : (featuresScheduler ["left"]).run (filled ["left"]) [] featuresGraph [] "" =
      .ok (featuresStart ["left"] (filled ["left"])) :=
    eq_ok_getD _ (by decide +kernel)
  have hfilled : (filled ["left"]).cacheEntries =
      ((featuresScheduler ["left"]).states featuresInputs (featuresStart ["left"] {})
        30).store.cacheEntries := by
    simp only [filled, featuresRun]
  have hidle : NoneRunning featuresGraph := by
    unfold NoneRunning
    decide +kernel
  -- the first task is the only one that is cacheable, and ends alike on all inputs
  have hdetermines : (featuresScheduler ["left"]).cache.Determines featuresGraph
      (featuresWork ["left"]) := by
    have hfirst : ∀ x ∈ featuresGraph.insertionOrder,
        TaskCache.isCacheable (featuresGraph.task x) → x = ⟨1⟩ := by
      decide +kernel
    intro x hx x' hx' _ _ hcacheable hcacheable' _
    rw [hfirst x hx hcacheable, hfirst x' hx' hcacheable']
    rfl
  have hfirst : FeaturesRun ["left"] {} := by decide +kernel
  have hsecond : FeaturesRun ["left"] (filled ["left"]) := by decide +kernel
  obtain ⟨k, hk, hagree⟩ := warm_run_agrees_iff hcold (fun _ => rfl) hfirst.1 hwarm hfilled hidle
    hfirst.performs hsecond.performs (fun _ => featuresNames) (fun _ => featuresNames) hdetermines
    hfirst.servesSingle
  exact ⟨k, hk, hagree.mpr hsecond.servesSingle⟩

/-- The second of two outputs is not replayed, and the other task does not get it. -/
theorem second_output_lost :
    (featuresScheduler ["left", "right"]).run {} [] featuresGraph [] "" =
        .ok (featuresStart ["left", "right"] {}) ∧
      (featuresScheduler ["left", "right"]).run (filled ["left", "right"]) [] featuresGraph [] "" =
        .ok (featuresStart ["left", "right"] (filled ["left", "right"])) ∧
      FeaturesRun ["left", "right"] {} ∧ FeaturesRun ["left", "right"] (filled ["left", "right"]) ∧
      ¬ (featuresRun ["left", "right"] {} 30).graph.Agree
        (featuresRun ["left", "right"] (filled ["left", "right"]) 30).graph := by
  refine ⟨eq_ok_getD _ ?_, eq_ok_getD _ ?_, ?_⟩
  all_goals decide +kernel

end Scheduler

end SpatialPlatform.Engine
