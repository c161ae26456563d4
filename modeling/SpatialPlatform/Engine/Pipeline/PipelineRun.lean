import SpatialPlatform.Engine.Pipeline.PipelineCompiler
import SpatialPlatform.Engine.Scheduler.Handover

/-!
# The data flow of a compiled pipeline

A plan knows the outputs of its stages only by placeholders. In a run the
scheduler hands the produced refs from stage to stage.

* `stage_requests` — every request of a run is that of a stage whose
  predecessors have all succeeded, on what the stage before it has produced, and
  the stages come in their order.
-/

namespace SpatialPlatform.Engine

open SpatialPlatform.Core SpatialPlatform.Lib

/-- What a stage takes from the one before it: the refs that were produced, each
where it appears first, and the placeholder if there are none. -/
def handover (placeholder : ArtifactRef) (produced : List ArtifactRef) : List ArtifactRef :=
  if produced.isEmpty then [placeholder] else appendMissing [] produced

theorem threadInputs_placeholder (placeholder : ArtifactRef) (produced : List ArtifactRef) :
    TaskGraph.threadInputs [placeholder] produced [placeholder] = handover placeholder produced := by
  rw [threadInputs_eq]
  cases produced with
  | nil => simp [handover, carry, appendMissing]
  | cons ref produced => simp [handover, carry, appendMissing]

namespace PipelineCompiler

/-- The inputs of the stage at a position, in a run that has come to a graph. -/
def runInputs (fresh : Nat → Uuid) (pipeline : PipelineDefinition) (externalInputs : List ArtifactRef)
    (g : TaskGraph) : Nat → List ArtifactRef
  | 0 => externalInputs
  | i + 1 => (pipeline.stages[i]?.map fun stage =>
      handover (placeholderRef pipeline.id stage.id) (g.task (fresh i)).outputs).getD []

/-- The request for the stage at a position. -/
def stageRequest (c : PipelineCompiler) (fresh : Nat → Uuid) (pipeline : PipelineDefinition)
    (config : Json) (plan : ExecutionPlan) (g : TaskGraph) (i : Nat) (stage : PipelineStage) :
    TaskRequest where
  taskId := fresh i
  taskType := stage.taskType
  inputRefs := runInputs fresh pipeline plan.externalInputs g i
  expectedOutputRefs := [placeholderRef pipeline.id stage.id]
  configJson := c.json.dump none (stageConfig pipeline config stage)
  pipelineHash := plan.pipelineHash
  workspace := "temp/" ++ formatUuid plan.jobId ++ "/" ++ formatUuid (fresh i)

variable {c : PipelineCompiler} {fresh : Nat → Uuid} {pipeline : PipelineDefinition}
  {externalInputs : List ArtifactRef} {config : Json} {implementation : String} {graph : TaskGraph}
  {stages : List PlanStage}

section chain

variable (h : c.IsChain fresh pipeline externalInputs config implementation pipeline.stages.length
  graph stages)
include h

theorem IsChain.pending {x : Uuid} (hx : x ∈ graph.insertionOrder) : graph.status x = .pending := by
  obtain ⟨i, hi, rfl⟩ := (h.mem_order_iff x).mp hx
  rw [TaskGraph.status, h.task i hi _ (List.getElem?_eq_getElem hi)]
  rfl

theorem IsChain.inOrder : graph.InOrder := by
  intro x hpending _ _ d hd
  exact absurd (h.pending (graph.mem_of_dependency x d hd).1) hpending

/-- Before a stage that has been reached, every stage has succeeded. -/
theorem IsChain.succeeded_before {g : TaskGraph} (hshape : g.toTaskShape = graph.toTaskShape)
    (horder : g.InOrder) {i : Nat} (hi : i < pipeline.stages.length)
    (hdone : ∀ d ∈ graph.dependencies (fresh i), g.status d = .succeeded) :
    ∀ j < i, g.status (fresh j) = .succeeded := by
  induction i with
  | zero => simp
  | succ i ih =>
      have hlast : g.status (fresh i) = .succeeded := by
        apply hdone
        rw [h.dependencies (i + 1) hi]
        exact List.mem_singleton_self _
      intro j hj
      rcases Nat.lt_succ_iff_lt_or_eq.mp hj with hlt | rfl
      · refine ih (Nat.lt_of_succ_lt hi) (fun d hd => ?_) j hlt
        rw [← hshape] at hd
        exact horder (fresh i) (by simp [hlast]) (by simp [hlast])
          (by rw [hlast]; exact (FailurePolicy.status_ne_succeeded _).symm) d hd
      · exact hlast

/-- What the stage at a position has been handed. -/
theorem IsChain.inputsAfter {g : TaskGraph} {done : List Uuid} (hnodup : done.Nodup) {i : Nat}
    (hi : i < pipeline.stages.length) (hdone : ∀ d ∈ graph.dependencies (fresh i), d ∈ done) :
    graph.inputsAfter g (fresh i) done = runInputs fresh pipeline externalInputs g i := by
  have htask := h.task i hi _ (List.getElem?_eq_getElem hi)
  unfold TaskGraph.inputsAfter
  rw [h.dependencies i hi] at hdone ⊢
  cases i with
  | zero =>
      rw [htask]
      simp [chainDependencies, runInputs, chainTask, stageTask, chainInputs]
  | succ i =>
      have hi' : i < pipeline.stages.length := Nat.lt_of_succ_lt hi
      have hbefore := List.getElem?_eq_getElem hi'
      have hone : done.filter (· ∈ chainDependencies fresh (i + 1)) = [fresh i] := by
        simp only [chainDependencies, List.mem_singleton]
        rw [List.filter_eq, List.count_eq_one_of_mem hnodup (hdone _ (List.mem_singleton_self _)),
          List.replicate_one]
      rw [hone, htask, List.foldl_cons, List.foldl_nil, h.task i hi' _ hbefore]
      simp [runInputs, chainTask, stageTask, chainInputs, hbefore, threadInputs_placeholder]

end chain

/-! ## Runs

What the handover of outputs says of any graph, for a chain: a stage has one
dependency, the stage before it. That the stages are requested in their order is
an induction over the steps. -/

section runs

variable {σ ι : Type} {sched : Scheduler σ ι} {inputs : Nat → StepInput ι} {s₀ : SchedulerState σ}
  {store : SchedulerStateStore} {executor : σ} {plan : ExecutionPlan}

variable (sched inputs) in
/-- The states of a run of a plan keep the shape of its graph and the order of its stages. -/
theorem IsChain.states (h : c.IsChain fresh pipeline externalInputs config implementation
      pipeline.stages.length plan.graph plan.stages)
    (hrun : sched.run store executor plan.graph plan.externalInputs plan.pipelineHash = .ok s₀)
    (k : Nat) :
    Coherent s₀.graph s₀.control ∧
      (sched.states inputs s₀ k).graph.toTaskShape = plan.graph.toTaskShape ∧
        (sched.states inputs s₀ k).graph.InOrder := by
  obtain ⟨-, hgraph, hcontrol, -⟩ := Scheduler.run_eq_ok hrun
  have hc : Coherent s₀.graph s₀.control := by
    rw [hgraph, hcontrol]
    exact Coherent.start fun x hx => by simp [h.pending hx]
  refine ⟨hc, ?_, ?_⟩
  · rw [← hgraph]
    exact Scheduler.states_toTaskShape hc k
  · apply Scheduler.states_inOrder sched inputs hc
    rw [hgraph]
    exact h.inOrder

variable (sched inputs) in
/-- The requests of a run, stage by stage. -/
theorem IsChain.requests (h : c.IsChain fresh pipeline plan.externalInputs config implementation
      pipeline.stages.length plan.graph plan.stages) (hjob : plan.graph.jobId = plan.jobId)
    (hrun : sched.run store executor plan.graph plan.externalInputs plan.pipelineHash = .ok s₀)
    (k : Nat) : ∀ request ∈ (sched.states inputs s₀ k).submissions, ∃ i stage,
      pipeline.stages[i]? = some stage ∧
        (∀ j < i, (sched.states inputs s₀ k).graph.status (fresh j) = .succeeded) ∧
        request = c.stageRequest fresh pipeline config plan (sched.states inputs s₀ k).graph i stage := by
  intro request hmem
  obtain ⟨-, hshape, horder⟩ := h.states sched inputs hrun k
  obtain ⟨hhanded, hrequests⟩ := Scheduler.run_handed sched inputs hrun (fun x hx => h.pending hx) k
  obtain ⟨hid, hdeps, heq⟩ := hrequests request hmem
  obtain ⟨i, hi, hfresh⟩ := (h.mem_order_iff _).mp hid
  have hstage := List.getElem?_eq_getElem hi
  rw [← hfresh] at hdeps heq
  refine ⟨i, _, hstage, ?_, ?_⟩
  · exact h.succeeded_before hshape horder hi fun d hd => hhanded.succeeded (hdeps d hd)
  · rw [heq, h.inputsAfter hhanded.nodup hi hdeps]
    simp only [TaskGraph.request, h.task i hi _ hstage, hjob]
    rfl

/-- **The data flow of a pipeline.** In every run of a compiled plan, whatever
the worker, the cache and the callers of `Cancel` do: each request is for a
stage whose predecessors have all succeeded. It has the type, the configuration
and the declared output of the stage, and as inputs the external ones for the
first stage, and else what the stage before has produced, or its placeholder if
that was nothing. The stages are requested in their order. -/
theorem stage_requests {jobId : Uuid} {configJson : String} {workerCapabilities : List String}
    (hplan : c.compile jobId fresh pipeline externalInputs configJson workerCapabilities
      implementation = .ok plan)
    (hrun : sched.run store executor plan.graph plan.externalInputs plan.pipelineHash = .ok s₀) :
    ∃ config, c.Reads configJson config ∧ ∀ k,
      (∀ request ∈ (sched.states inputs s₀ k).submissions, ∃ i stage,
        pipeline.stages[i]? = some stage ∧
          (∀ j < i, (sched.states inputs s₀ k).graph.status (fresh j) = .succeeded) ∧
          request =
            c.stageRequest fresh pipeline config plan (sched.states inputs s₀ k).graph i stage) ∧
      (sched.states inputs s₀ k).submissions.Pairwise fun earlier later =>
        ∃ i j, i ≤ j ∧ j < pipeline.stages.length ∧ earlier.taskId = fresh i ∧ later.taskId = fresh j := by
  obtain ⟨config, hreads, hchain, hjob, hinputs⟩ := compile_isChain hplan
  rw [← hinputs] at hchain
  have hrequests := hchain.requests sched inputs hjob hrun
  refine ⟨config, hreads, fun k => ⟨hrequests k, ?_⟩⟩
  obtain ⟨hc, -, -⟩ := hchain.states sched inputs hrun 0
  induction k with
  | zero =>
      obtain ⟨-, -, -, hsub⟩ := Scheduler.run_eq_ok hrun
      rw [Scheduler.states_zero, hsub]
      exact List.Pairwise.nil
  | succ k ih =>
      obtain ⟨new, hsubs, hrunning⟩ := Scheduler.exists_submitted sched inputs hc k
      rw [hsubs, List.pairwise_append]
      refine ⟨ih, by cases new <;> simp, ?_⟩
      intro earlier hearlier later hlater
      have hlater' : later ∈ new := by simpa using hlater
      -- the later stage is running, so it is not one of those before the earlier one
      obtain ⟨i, stage, hi, hbefore, rfl⟩ := hrequests (k + 1) earlier
        (by rw [hsubs]; exact List.mem_append_left _ hearlier)
      obtain ⟨j, stage', hj, -, rfl⟩ := hrequests (k + 1) later
        (by rw [hsubs]; exact List.mem_append_right _ hlater)
      refine ⟨i, j, Nat.le_of_not_lt fun hlt => ?_, (List.getElem?_eq_some_iff.mp hj).1, rfl, rfl⟩
      have hrun' : (sched.states inputs s₀ (k + 1)).graph.status (fresh j) = .running :=
        hrunning _ hlater'
      rw [hbefore j hlt] at hrun'
      cases hrun'

/-! Two stages; the worker reports one ref twice for each. -/

private def flowPlan : ExecutionPlan :=
  (twoStagesCompiler.compile ⟨9⟩ (fun i => ⟨i + 1⟩) twoStages ["image"] "\x7b\x7d"
    ["reconstruction", "feature_extraction"] "inprocess").toOption.getD
      ⟨"", "", "", "", "", [], [], ⟨9⟩, .empty ⟨9⟩⟩

private def flowScheduler : Scheduler (List WorkerEvent) Unit where
  cache := twoStagesCompiler.cache
  executor := .deterministic {} ⟨7⟩ fun _ =>
    [.artifactProduced "points", .artifactProduced "log", .artifactProduced "points", .completed]

private def flowStart : SchedulerState (List WorkerEvent) :=
  (flowScheduler.run {} [] flowPlan.graph flowPlan.externalInputs flowPlan.pipelineHash).toOption.getD
    ⟨flowPlan.graph, {}, [], "", .returned, [], []⟩

private def flowInputs (_ : Nat) : StepInput Unit := { worker := () }

/-- The second stage gets each of the refs once, and its own configuration. -/
theorem stage_requests_two :
    (∃ request ∈ (flowScheduler.states flowInputs flowStart 40).submissions,
      request.inputRefs = ["points", "log"] ∧ request.configJson = stageText "reconstruct") ∧
    ∀ request ∈ (flowScheduler.states flowInputs flowStart 40).submissions,
      ∃ (i : Nat) (stage : PipelineStage), twoStages.stages[i]? = some stage ∧
        request.taskId = ⟨i + 1⟩ ∧ request.taskType = stage.taskType := by
  have hplan : twoStagesCompiler.compile ⟨9⟩ (fun i => ⟨i + 1⟩) twoStages ["image"] "\x7b\x7d"
      ["reconstruction", "feature_extraction"] "inprocess" = .ok flowPlan :=
    eq_ok_getD _ (by decide +kernel)
  have hrun : flowScheduler.run {} [] flowPlan.graph flowPlan.externalInputs flowPlan.pipelineHash =
      .ok flowStart := eq_ok_getD _ (by decide +kernel)
  refine ⟨by decide +kernel, ?_⟩
  have hall := @stage_requests _ _ _ _ _ _ _ flowScheduler flowInputs _ _ _ _ _ _ _ hplan hrun
  obtain ⟨config, -, hall⟩ := hall
  intro request hmem
  obtain ⟨i, stage, hstage, -, rfl⟩ := (hall 40).1 request hmem
  exact ⟨i, stage, hstage, rfl, rfl⟩

end runs

end PipelineCompiler

end SpatialPlatform.Engine
