import SpatialPlatform.Core.Json
import SpatialPlatform.Core.Sha256
import SpatialPlatform.Engine.Cache.TaskCache
import SpatialPlatform.Engine.Task.Serialization
import SpatialPlatform.Lib.Positions

/-!
# The pipeline compiler

`engine/pipeline/pipeline_compiler.cpp`, with the records of
`pipeline_definition.h` and `execution_plan.h`: a list of stages becomes a graph
of tasks, each of which takes the declared output of the one before it. The
artifact kinds of a stage, which the compiler only copies, and the time are left
out. `fresh` are the ids that `GenerateUuid` hands out to the tasks.

* `compile_chain` — when a definition compiles, that the plan is a chain of the
  stages with one task each, and when its graph passes the validation of a run.
-/

namespace SpatialPlatform.Engine

open SpatialPlatform.Core SpatialPlatform.Lib

/-! ## Definitions and plans

The compiler checks, and then makes a task for each stage, with an edge to the
one before. The JSON library and the hash are parameters; identifiers come from
a function of the position. -/

/-- `PipelineStage`. -/
structure PipelineStage where
  id : String
  capability : String
  taskType : String
  cache : CachePolicy := .cacheable
  deriving DecidableEq, Repr

/-- `PipelineDefinition`. -/
structure PipelineDefinition where
  id : String
  version : String
  gitCommit : String
  stages : List PipelineStage
  deriving DecidableEq, Repr

/-- `PlanStage`. -/
structure PlanStage where
  stageId : String
  capability : String
  implementation : String
  taskType : String
  configHash : String
  taskHash : String
  taskId : Uuid
  deriving DecidableEq, Repr

/-- `ExecutionPlan`. -/
structure ExecutionPlan where
  pipelineId : String
  pipelineVersion : String
  gitCommit : String
  pipelineHash : String
  configHash : String
  externalInputs : List ArtifactRef
  stages : List PlanStage
  jobId : Uuid
  graph : TaskGraph

/-- What leaves `Compile`: a structured error, or an exception of the JSON library. -/
inductive CompileException where
  | project (error : ProjectError)
  | json (error : JsonException)
  deriving DecidableEq, Repr

/-- `HasCapabilities`. -/
def hasCapabilities (workerCapabilities required : List String) : Bool :=
  required.all (· ∈ workerCapabilities)

/-- `PipelineCompiler`, with the two libraries that it calls. -/
structure PipelineCompiler where
  sha256Hex : String → String
  json : JsonLibrary
  producerVersion : String
  engineGitCommit : String

namespace PipelineCompiler

/-- `JoinSorted`. -/
def joinSorted (refs : List ArtifactRef) : String :=
  String.join ((refs.insertionSort (· ≤ ·)).map (· ++ "|"))

/-- `PlaceholderRef`. -/
def placeholderRef (pipelineId stageId : String) : ArtifactRef :=
  pipelineId ++ "/" ++ stageId ++ "/output"

/-- The text that `PipelineHash` hashes. -/
def pipelineText (pipeline : PipelineDefinition) (configHash : String)
    (externalInputs : List ArtifactRef) : String :=
  pipeline.id ++ "|" ++ pipeline.version ++ "|" ++ pipeline.gitCommit ++ "|" ++ configHash ++ "|" ++
    joinSorted externalInputs

variable (c : PipelineCompiler)

/-- The cache that computes the hashes of the tasks. -/
def cache : TaskCache := ⟨c.sha256Hex, c.producerVersion, c.engineGitCommit⟩

/-- `ConfigHash`. -/
def configHash (configJson : String) : String := c.sha256Hex configJson

/-- `PipelineHash`. -/
def pipelineHash (pipeline : PipelineDefinition) (configHash : String)
    (externalInputs : List ArtifactRef) : String :=
  c.sha256Hex (pipelineText pipeline configHash externalInputs)

/-- The configuration of a run, parsed. Only `parse_error` is caught. -/
def parseConfig (configJson : String) : Except CompileException Json :=
  if configJson.isEmpty then .ok (.object [])
  else match c.json.parse configJson with
    | .ok config => .ok config
    | .error (.parseError _) =>
        .error (.project ⟨.validationDomain, "invalid pipeline configuration JSON"⟩)
    | .error (.outOfRange what) => .error (.json (.outOfRange what))

/-- The checks before any task is made; the configuration comes out parsed. -/
def check (pipeline : PipelineDefinition) (externalInputs : List ArtifactRef) (configJson : String)
    (workerCapabilities : List String) : Except CompileException Json :=
  if pipeline.stages.isEmpty then
    .error (.project ⟨.validationDomain, "pipeline '" ++ pipeline.id ++ "' has no stages"⟩)
  else if externalInputs.isEmpty then
    .error (.project ⟨.validationDomain,
      "pipeline '" ++ pipeline.id ++ "' requires at least one external input"⟩)
  else do
    let config ← c.parseConfig configJson
    match pipeline.stages.find? fun stage => !hasCapabilities workerCapabilities [stage.capability] with
    | some stage =>
        .error (.project ⟨.validationDomain, "pipeline '" ++ pipeline.id ++
          "': no worker advertises capability '" ++ stage.capability ++ "' (stage '" ++ stage.id ++ "')"⟩)
    | none => .ok config

/-- The effective configuration of a stage. -/
def stageConfig (pipeline : PipelineDefinition) (config : Json) (stage : PipelineStage) : Json :=
  .object [("pipeline_id", .str pipeline.id), ("pipeline_version", .str pipeline.version),
    ("stage", .str stage.id), ("config", config)]

/-- The task of a stage, before it has an id. -/
def stageTask (pipeline : PipelineDefinition) (config : Json) (inputs : List ArtifactRef)
    (stage : PipelineStage) : TaskInstance where
  id := .nil
  definition := { type := stage.taskType, requirements := { cores := 1 } }
  inputs := inputs
  outputs := [placeholderRef pipeline.id stage.id]
  configJson := c.json.dump none (stageConfig pipeline config stage)
  metadata := { deterministic := true, cache := stage.cache }

/-- What the loop over the stages has made so far. -/
structure Progress where
  graph : TaskGraph
  stages : List PlanStage := []
  previousPlaceholder : String := ""

/-- The edge to the task before. -/
def linkPrevious (g : TaskGraph) (stages : List PlanStage) (taskId : Uuid) :
    Except ProjectError TaskGraph :=
  match stages.getLast? with
  | none => .ok g
  | some previous => g.addDependency taskId previous.taskId

/-- One turn of the loop. -/
def addStage (fresh : Nat → Uuid) (pipeline : PipelineDefinition) (externalInputs : List ArtifactRef)
    (config : Json) (implementation : String) (p : Progress) (stage : PipelineStage) :
    Except ProjectError Progress := do
  let inputs := if p.stages.isEmpty then externalInputs else [p.previousPlaceholder]
  let (g, taskId) ← p.graph.addTask (fresh p.stages.length) (c.stageTask pipeline config inputs stage)
  let g ← linkPrevious g p.stages taskId
  let task ← g.getTask taskId
  let configHash := c.sha256Hex task.configJson
  return {
    graph := g
    stages := p.stages ++ [{
      stageId := stage.id
      capability := stage.capability
      implementation := implementation
      taskType := stage.taskType
      configHash := configHash
      taskHash := c.cache.computeKey stage.taskType task.inputs configHash
      taskId := taskId }]
    previousPlaceholder := placeholderRef pipeline.id stage.id }

/-- `Compile`. -/
def compile (jobId : Uuid) (fresh : Nat → Uuid) (pipeline : PipelineDefinition)
    (externalInputs : List ArtifactRef) (configJson : String) (workerCapabilities : List String)
    (implementation : String) : Except CompileException ExecutionPlan := do
  let config ← c.check pipeline externalInputs configJson workerCapabilities
  let p ← (pipeline.stages.foldlM
    (c.addStage fresh pipeline externalInputs config implementation)
    { graph := .empty jobId }).mapError .project
  let configHash := c.configHash configJson
  return {
    pipelineId := pipeline.id
    pipelineVersion := pipeline.version
    gitCommit := pipeline.gitCommit
    pipelineHash := c.pipelineHash pipeline configHash externalInputs
    configHash := configHash
    externalInputs := externalInputs
    stages := p.stages
    jobId := jobId
    graph := p.graph }

/-! ## Chains

The invariant of the loop over the stages: the stages so far are a chain, and
the last of them is the one that the next will depend on. A turn keeps it, and
fails only where the new id is taken. -/

/-- The tasks that the task at a position waits for. -/
def chainDependencies (fresh : Nat → Uuid) : Nat → List Uuid
  | 0 => []
  | i + 1 => [fresh i]

/-- The inputs of the task at a position. -/
def chainInputs (pipeline : PipelineDefinition) (externalInputs : List ArtifactRef) :
    Nat → List ArtifactRef
  | 0 => externalInputs
  | i + 1 => (pipeline.stages[i]?.map fun stage => placeholderRef pipeline.id stage.id).toList

/-- The task of the stage at a position. -/
def chainTask (fresh : Nat → Uuid) (pipeline : PipelineDefinition) (externalInputs : List ArtifactRef)
    (config : Json) (i : Nat) (stage : PipelineStage) : TaskInstance :=
  { c.stageTask pipeline config (chainInputs pipeline externalInputs i) stage with id := fresh i }

/-- The record of the stage at a position. -/
def chainStage (fresh : Nat → Uuid) (pipeline : PipelineDefinition) (externalInputs : List ArtifactRef)
    (config : Json) (implementation : String) (i : Nat) (stage : PipelineStage) : PlanStage where
  stageId := stage.id
  capability := stage.capability
  implementation := implementation
  taskType := stage.taskType
  configHash := c.cache.configHash (c.chainTask fresh pipeline externalInputs config i stage)
  taskHash := c.cache.taskKey (c.chainTask fresh pipeline externalInputs config i stage)
  taskId := fresh i

/-- The first `n` stages have become a chain. -/
structure IsChain (fresh : Nat → Uuid) (pipeline : PipelineDefinition)
    (externalInputs : List ArtifactRef) (config : Json) (implementation : String) (n : Nat)
    (graph : TaskGraph) (stages : List PlanStage) : Prop where
  order : graph.insertionOrder = (List.range n).map fresh
  dependencies : ∀ i < n, graph.dependencies (fresh i) = chainDependencies fresh i
  task : ∀ i < n, ∀ stage, pipeline.stages[i]? = some stage →
    graph.task (fresh i) = c.chainTask fresh pipeline externalInputs config i stage
  stages : stages = (pipeline.stages.take n).mapIdx
    (c.chainStage fresh pipeline externalInputs config implementation)

/-- What the loop over the stages keeps. -/
structure Compiled (jobId : Uuid) (fresh : Nat → Uuid) (pipeline : PipelineDefinition)
    (externalInputs : List ArtifactRef) (config : Json) (implementation : String) (n : Nat)
    (p : Progress) : Prop where
  chain : c.IsChain fresh pipeline externalInputs config implementation n p.graph p.stages
  job : p.graph.jobId = jobId
  previous : chainInputs pipeline externalInputs n =
    if p.stages.isEmpty then externalInputs else [p.previousPlaceholder]

variable {c} {jobId : Uuid} {fresh : Nat → Uuid} {pipeline : PipelineDefinition}
  {externalInputs : List ArtifactRef} {config : Json} {implementation : String}

theorem Compiled.start : c.Compiled jobId fresh pipeline externalInputs config implementation 0
    { graph := .empty jobId } where
  chain := ⟨rfl, by simp, by simp, rfl⟩
  job := rfl
  previous := rfl

theorem IsChain.mem_order {n i : Nat} {graph : TaskGraph} {stages : List PlanStage}
    (h : c.IsChain fresh pipeline externalInputs config implementation n graph stages) (hi : i < n) :
    fresh i ∈ graph.insertionOrder := by
  rw [h.order]
  exact List.mem_map.mpr ⟨i, List.mem_range.mpr hi, rfl⟩

theorem IsChain.length_stages {n : Nat} {graph : TaskGraph} {stages : List PlanStage}
    (h : c.IsChain fresh pipeline externalInputs config implementation n graph stages)
    (hn : n ≤ pipeline.stages.length) : stages.length = n := by
  rw [h.stages, List.length_mapIdx, List.length_take, Nat.min_eq_left hn]

/-- The position of the next task is free when its id is new. -/
theorem IsChain.mem_order_iff {n : Nat} {graph : TaskGraph} {stages : List PlanStage}
    (h : c.IsChain fresh pipeline externalInputs config implementation n graph stages) (id : Uuid) :
    id ∈ graph.insertionOrder ↔ ∃ i < n, fresh i = id := by
  rw [h.order, List.mem_map]
  simp only [List.mem_range]

/-- The last stage so far. -/
theorem IsChain.getLast?_stages {n : Nat} {graph : TaskGraph} {stages : List PlanStage}
    (h : c.IsChain fresh pipeline externalInputs config implementation (n + 1) graph stages)
    (hn : n < pipeline.stages.length) :
    ∃ previous, stages.getLast? = some previous ∧ previous.taskId = fresh n := by
  have hlast : stages[n]? = some (c.chainStage fresh pipeline externalInputs config implementation n
      pipeline.stages[n]) := by
    rw [h.stages, List.getElem?_mapIdx, List.getElem?_take_of_lt (Nat.lt_succ_self n),
      List.getElem?_eq_getElem hn]
    rfl
  refine ⟨c.chainStage fresh pipeline externalInputs config implementation n pipeline.stages[n], ?_, rfl⟩
  rw [List.getLast?_eq_getElem?, h.length_stages hn, Nat.add_sub_cancel, hlast]

/-- The new task has no dependency yet, and gets the one before it. -/
theorem linkPrevious_spec {n : Nat} {graph g : TaskGraph} {stages : List PlanStage}
    (h : c.IsChain fresh pipeline externalInputs config implementation n graph stages)
    (hn : n ≤ pipeline.stages.length) (hnew : fresh n ∉ graph.insertionOrder)
    (horder : g.insertionOrder = graph.insertionOrder ++ [fresh n])
    (hdeps : g.dependencies = graph.dependencies) :
    ∃ g', linkPrevious g stages (fresh n) = .ok g' ∧ g'.insertionOrder = g.insertionOrder ∧
      g'.jobId = g.jobId ∧ g'.task = g.task ∧
      g'.dependencies =
        Function.update graph.dependencies (fresh n) (chainDependencies fresh n) := by
  have hnone : graph.dependencies (fresh n) = [] :=
    List.eq_nil_iff_forall_not_mem.mpr fun d hd => hnew (graph.mem_of_dependency _ _ hd).1
  cases n with
  | zero =>
      have hnil : stages = [] := List.eq_nil_of_length_eq_zero (h.length_stages hn)
      refine ⟨g, by simp [linkPrevious, hnil], rfl, rfl, rfl, ?_⟩
      rw [hdeps, chainDependencies, ← hnone, Function.update_eq_self]
  | succ n =>
      obtain ⟨previous, hlast, hid⟩ := h.getLast?_stages hn
      have hmem : fresh n ∈ g.insertionOrder := by
        rw [horder]
        exact List.mem_append_left _ (h.mem_order (Nat.lt_succ_self n))
      have hself : fresh (n + 1) ∈ g.insertionOrder := by
        rw [horder]
        exact List.mem_append_right _ (List.mem_singleton_self _)
      obtain ⟨g', hadd⟩ := TaskGraph.exists_addDependency hself hmem
      obtain ⟨-, horder', hjob', htask', hdeps'⟩ := TaskGraph.addDependency_eq_ok hadd
      refine ⟨g', by simp [linkPrevious, hlast, hid, hadd], horder', hjob', htask', ?_⟩
      rw [hdeps', hdeps, hnone]
      rfl

/-- One turn with an id that is not taken: the chain is longer by one. -/
theorem exists_addStage {n : Nat} {p : Progress}
    (h : c.Compiled jobId fresh pipeline externalInputs config implementation n p)
    {stage : PipelineStage} (hstage : pipeline.stages[n]? = some stage)
    (hnew : fresh n ∉ p.graph.insertionOrder) :
    ∃ p', c.addStage fresh pipeline externalInputs config implementation p stage = .ok p' ∧
      c.Compiled jobId fresh pipeline externalInputs config implementation (n + 1) p' := by
  obtain ⟨hn, hget⟩ := List.getElem?_eq_some_iff.mp hstage
  have hlength := h.chain.length_stages hn.le
  have htask : { c.stageTask pipeline config (if p.stages.isEmpty then externalInputs
      else [p.previousPlaceholder]) stage with id := fresh n } =
      c.chainTask fresh pipeline externalInputs config n stage := by
    rw [chainTask, h.previous]
  -- `AddTask` takes the task, since its identifier is new
  obtain ⟨g₁, hadd⟩ : ∃ g₁, p.graph.addTask (fresh p.stages.length) (c.stageTask pipeline config
      (if p.stages.isEmpty then externalInputs else [p.previousPlaceholder]) stage) =
      .ok (g₁, fresh n) := by
    rw [hlength]
    exact ⟨_, dif_neg hnew⟩
  obtain ⟨-, -, horder₁, hjob₁, hdeps₁, htask₁⟩ := TaskGraph.addTask_eq_ok hadd
  replace horder₁ : g₁.insertionOrder = p.graph.insertionOrder ++ [fresh n] := by
    rw [horder₁, hlength]
    rfl
  replace htask₁ : g₁.task = Function.update p.graph.task (fresh n)
      (c.chainTask fresh pipeline externalInputs config n stage) := by
    rw [htask₁, ← htask, hlength]
    rfl
  -- `AddDependency` ties it to the task before it
  obtain ⟨g₂, hlink, horder₂, hjob₂, htask₂, hdeps₂⟩ :=
    linkPrevious_spec h.chain hn.le hnew horder₁ hdeps₁
  have hget₂ : g₂.getTask (fresh n) =
      .ok (c.chainTask fresh pipeline externalInputs config n stage) := by
    rw [TaskGraph.getTask, if_pos (by rw [horder₂, horder₁]; simp), htask₂, htask₁,
      Function.update_self]
  have hturn : c.addStage fresh pipeline externalInputs config implementation p stage = .ok
      { graph := g₂
        stages := p.stages ++
          [c.chainStage fresh pipeline externalInputs config implementation n stage]
        previousPlaceholder := placeholderRef pipeline.id stage.id } := by
    simp only [addStage, hadd, hlink, hget₂, bind, Except.bind]
    rfl
  -- the chain is one task longer; what stands before the new task is as it was
  refine ⟨_, hturn, ⟨?_, ?_, ?_, ?_⟩, ?_, ?_⟩
  · rw [horder₂, horder₁, h.chain.order, List.range_succ, List.map_append, List.map_singleton]
  · intro i hi
    rw [hdeps₂]
    rcases Nat.lt_succ_iff_lt_or_eq.mp hi with hlt | rfl
    · have hne : fresh i ≠ fresh n := fun heq => hnew (heq ▸ h.chain.mem_order hlt)
      rw [Function.update_of_ne hne, h.chain.dependencies i hlt]
    · rw [Function.update_self]
  · intro i hi other hother
    rw [htask₂, htask₁]
    rcases Nat.lt_succ_iff_lt_or_eq.mp hi with hlt | rfl
    · have hne : fresh i ≠ fresh n := fun heq => hnew (heq ▸ h.chain.mem_order hlt)
      rw [Function.update_of_ne hne, h.chain.task i hlt other hother]
    · rw [hstage] at hother
      cases hother
      rw [Function.update_self]
  · have hlen : (pipeline.stages.take n).length = n := by
      rw [List.length_take, Nat.min_eq_left hn.le]
    rw [List.take_add_one, hstage, Option.toList_some, List.mapIdx_append, ← h.chain.stages, hlen]
    simp
  · rw [hjob₂, hjob₁, h.job]
  · simp [chainInputs, hstage]

/-- The turn succeeds exactly when the id is new. -/
theorem addStage_spec {n : Nat} {p : Progress}
    (h : c.Compiled jobId fresh pipeline externalInputs config implementation n p)
    {stage : PipelineStage} (hstage : pipeline.stages[n]? = some stage) :
    ((∃ p', c.addStage fresh pipeline externalInputs config implementation p stage = .ok p') ↔
        ∀ i < n, fresh i ≠ fresh n) ∧
      ∀ p', c.addStage fresh pipeline externalInputs config implementation p stage = .ok p' →
        c.Compiled jobId fresh pipeline externalInputs config implementation (n + 1) p' := by
  obtain ⟨hn, -⟩ := List.getElem?_eq_some_iff.mp hstage
  have hfree : fresh n ∉ p.graph.insertionOrder ↔ ∀ i < n, fresh i ≠ fresh n := by
    rw [h.chain.mem_order_iff]
    simp
  have hid : ∀ p', c.addStage fresh pipeline externalInputs config implementation p stage = .ok p' →
      fresh n ∉ p.graph.insertionOrder := by
    intro p' hok
    obtain ⟨⟨g, id⟩, hadd, -⟩ := bind_eq_ok_iff.mp hok
    have := (TaskGraph.addTask_eq_ok hadd).1
    rw [h.chain.length_stages hn.le] at this
    exact this
  refine ⟨⟨?_, ?_⟩, ?_⟩
  · rintro ⟨p', hok⟩
    exact hfree.mp (hid p' hok)
  · intro hnew
    obtain ⟨p', hok, -⟩ := exists_addStage h hstage (hfree.mpr hnew)
    exact ⟨p', hok⟩
  · intro p' hok
    obtain ⟨p'', hok', hcompiled⟩ := exists_addStage h hstage (hid p' hok)
    rw [hok] at hok'
    cases hok'
    exact hcompiled

/-! ## The graph passes validation

A chain has no cycle since positions are a layering, and its inputs are declared
by the task before. What is left of the validation is whether some worker has a
core. -/

/-- What each of the three parts of `Validate` asks. -/
theorem validate_eq_ok_iff {g : TaskGraph} {workerPool : List ResourceProfile} :
    g.validate workerPool externalInputs = .ok () ↔ (∃ order, g.topologicalOrder = .ok order) ∧
      (∀ id ∈ g.insertionOrder, ∀ ref ∈ (g.task id).inputs,
        g.checkInput externalInputs id ref = .ok ()) ∧
      ∀ id ∈ g.insertionOrder, g.checkResources workerPool id = .ok () := by
  unfold TaskGraph.validate
  rw [bind_eq_ok_iff, ← TaskGraph.forM_eq_ok_iff]
  constructor
  · rintro ⟨order, horder, hrest⟩
    obtain ⟨⟨⟩, hinputs, hresources⟩ := bind_eq_ok_iff.mp hrest
    refine ⟨⟨order, horder⟩, fun id hid => ?_, hresources⟩
    exact TaskGraph.forM_eq_ok_iff.mp (TaskGraph.forM_eq_ok_iff.mp hinputs id hid)
  · rintro ⟨⟨order, horder⟩, hinputs, hresources⟩
    refine ⟨order, horder, bind_eq_ok_iff.mpr ⟨⟨⟩, ?_, hresources⟩⟩
    exact TaskGraph.forM_eq_ok_iff.mpr fun id hid => TaskGraph.forM_eq_ok_iff.mpr (hinputs id hid)

section validation

variable {n : Nat} {graph : TaskGraph} {stages : List PlanStage}
  (h : c.IsChain fresh pipeline externalInputs config implementation n graph stages)
include h

/-- A task stands in the order at its position. -/
theorem IsChain.idxOf_order {i : Nat} (hi : i < n) : graph.insertionOrder.idxOf (fresh i) = i := by
  have hlen : i < graph.insertionOrder.length := by
    rw [h.order, List.length_map, List.length_range]
    exact hi
  have hget : graph.insertionOrder[i] = fresh i := by simp [h.order]
  rw [← hget]
  exact graph.nodup_order.idxOf_getElem i hlen

theorem IsChain.acyclic : graph.Acyclic := by
  refine ⟨fun id => graph.insertionOrder.idxOf id, fun t d hd => ?_⟩
  obtain ⟨i, hi, rfl⟩ := (h.mem_order_iff t).mp (graph.mem_of_dependency t d hd).1
  rw [h.dependencies i hi] at hd
  cases i with
  | zero => cases hd
  | succ i =>
      obtain rfl := List.mem_singleton.mp hd
      show graph.insertionOrder.idxOf (fresh i) < graph.insertionOrder.idxOf (fresh (i + 1))
      rw [h.idxOf_order hi, h.idxOf_order (Nat.lt_of_succ_lt hi)]
      exact Nat.lt_succ_self i

/-- Every input is an external one, or the declared output of the task before and of no other. -/
theorem IsChain.checkInput (hn : n ≤ pipeline.stages.length) {id : Uuid}
    (hid : id ∈ graph.insertionOrder) {ref : ArtifactRef} (href : ref ∈ (graph.task id).inputs) :
    graph.checkInput externalInputs id ref = .ok () := by
  obtain ⟨i, hi, rfl⟩ := (h.mem_order_iff id).mp hid
  have hstage := List.getElem?_eq_getElem (Nat.lt_of_lt_of_le hi hn)
  rw [h.task i hi _ hstage] at href
  change ref ∈ chainInputs pipeline externalInputs i at href
  cases i with
  | zero =>
      have hnone : graph.producers (fresh 0) ref = 0 := by
        rw [TaskGraph.producers, h.dependencies 0 hi]
        rfl
      simp [TaskGraph.checkInput, hnone, show ref ∈ externalInputs from href]
  | succ i =>
      have hi' : i < n := Nat.lt_of_succ_lt hi
      have hbefore := List.getElem?_eq_getElem (Nat.lt_of_lt_of_le hi' hn)
      rw [chainInputs, hbefore] at href
      obtain rfl : ref = placeholderRef pipeline.id pipeline.stages[i].id := by simpa using href
      have hone : graph.producers (fresh (i + 1))
          (placeholderRef pipeline.id pipeline.stages[i].id) = 1 := by
        rw [TaskGraph.producers, h.dependencies (i + 1) hi, chainDependencies, List.map_singleton,
          h.task i hi' _ hbefore]
        simp [chainTask, stageTask]
      simp [TaskGraph.checkInput, hone]

/-- A chain is valid on the pools where some worker has a core to spare. -/
theorem IsChain.validate_iff (hn : n ≤ pipeline.stages.length) (hpos : 0 < n)
    (workerPool : List ResourceProfile) :
    graph.validate workerPool externalInputs = .ok () ↔
      ∃ profile ∈ workerPool, fits { cores := 1 } profile.capacity = true := by
  have hresources : ∀ id ∈ graph.insertionOrder, (graph.checkResources workerPool id = .ok () ↔
      ∃ profile ∈ workerPool, fits { cores := 1 } profile.capacity = true) := by
    intro id hid
    obtain ⟨i, hi, rfl⟩ := (h.mem_order_iff id).mp hid
    rw [TaskGraph.checkResources, h.task i hi _ (List.getElem?_eq_getElem (Nat.lt_of_lt_of_le hi hn)),
      ← List.any_eq_true]
    cases hfit : workerPool.any fun profile => fits { cores := 1 } profile.capacity with
    | true => exact iff_of_true (if_pos hfit) rfl
    | false =>
        refine iff_of_false (fun hok => ?_) (by simp)
        rw [if_neg (by simpa [chainTask, stageTask] using hfit)] at hok
        cases hok
  rw [validate_eq_ok_iff]
  constructor
  · rintro ⟨-, -, hall⟩
    exact (hresources _ (h.mem_order hpos)).mp (hall _ (h.mem_order hpos))
  · intro hroom
    exact ⟨TaskShape.topologicalOrder_eq_ok_iff.mpr h.acyclic,
      fun id hid ref href => h.checkInput hn hid href, fun id hid => (hresources id hid).mpr hroom⟩

end validation

/-! ## Compilation

The checks, then the loop by the rule for positions, then the graph. -/

/-- What the configuration of a run is read as. -/
def Reads (c : PipelineCompiler) (configJson : String) (config : Json) : Prop :=
  if configJson.isEmpty then config = .object [] else c.json.parse configJson = .ok config

theorem exists_reads_iff {configJson : String} : (∃ config, c.Reads configJson config) ↔
    configJson.isEmpty ∨ ∃ config, c.json.parse configJson = .ok config := by
  unfold Reads
  by_cases hempty : configJson.isEmpty <;> simp [hempty]

theorem parseConfig_eq_ok_iff {configJson : String} :
    c.parseConfig configJson = .ok config ↔ c.Reads configJson config := by
  unfold parseConfig Reads
  split
  · rw [Except.ok.injEq, eq_comm]
  · cases c.json.parse configJson with
    | ok value => simp
    | error e => cases e <;> simp

theorem check_eq_ok_iff {configJson : String} {workerCapabilities : List String} :
    c.check pipeline externalInputs configJson workerCapabilities = .ok config ↔
      pipeline.stages ≠ [] ∧ externalInputs ≠ [] ∧ c.Reads configJson config ∧
        ∀ stage ∈ pipeline.stages, stage.capability ∈ workerCapabilities := by
  unfold check
  split
  · next hempty => simp [List.isEmpty_iff.mp hempty]
  · next hstages =>
      split
      · next hempty => simp [List.isEmpty_iff.mp hempty]
      · next hinputs =>
          rw [List.isEmpty_iff] at hstages hinputs
          simp only [hstages, hinputs, ne_eq, not_false_eq_true, true_and, bind_eq_ok_iff,
            parseConfig_eq_ok_iff]
          constructor
          · rintro ⟨read, hread, hfind⟩
            split at hfind
            · cases hfind
            · next hnone =>
                cases hfind
                exact ⟨hread, by simpa [hasCapabilities] using hnone⟩
          · rintro ⟨hread, hall⟩
            refine ⟨config, hread, ?_⟩
            split
            · next stage hsome =>
                have hmem := hall stage (List.mem_of_find?_eq_some hsome)
                have hlacks := List.find?_some hsome
                simp [hasCapabilities, hmem] at hlacks
            · rfl

/-- The loop over all stages: it fails only where an id comes twice, and leaves a chain. -/
theorem foldlM_addStage (c : PipelineCompiler) (jobId : Uuid) (fresh : Nat → Uuid)
    (pipeline : PipelineDefinition) (externalInputs : List ArtifactRef) (config : Json)
    (implementation : String) :
    let turns := pipeline.stages.foldlM
      (c.addStage fresh pipeline externalInputs config implementation) { graph := .empty jobId }
    ((∃ p, turns = .ok p) ↔ ∀ j < pipeline.stages.length, ∀ i < j, fresh i ≠ fresh j) ∧
      ∀ p, turns = .ok p → c.Compiled jobId fresh pipeline externalInputs config implementation
        pipeline.stages.length p := by
  apply foldlM_position
    (P := fun n p => c.Compiled jobId fresh pipeline externalInputs config implementation n p)
  · intro n stage p hstage h
    exact (addStage_spec h hstage).1
  · intro n stage p p' hstage h
    exact (addStage_spec h hstage).2 p'
  · exact Compiled.start

/-- A compilation, taken apart. -/
theorem compile_eq_ok_iff {configJson : String} {workerCapabilities : List String}
    {plan : ExecutionPlan} :
    c.compile jobId fresh pipeline externalInputs configJson workerCapabilities implementation =
        .ok plan ↔
      ∃ config, c.check pipeline externalInputs configJson workerCapabilities = .ok config ∧
        ∃ p, pipeline.stages.foldlM (c.addStage fresh pipeline externalInputs config implementation)
            { graph := .empty jobId } = .ok p ∧
          plan =
            { pipelineId := pipeline.id
              pipelineVersion := pipeline.version
              gitCommit := pipeline.gitCommit
              pipelineHash := c.pipelineHash pipeline (c.configHash configJson) externalInputs
              configHash := c.configHash configJson
              externalInputs := externalInputs
              stages := p.stages
              jobId := jobId
              graph := p.graph } := by
  unfold compile
  simp only [bind_eq_ok_iff, mapError_eq_ok_iff, pure, Except.pure, Except.ok.injEq,
    eq_comm (b := plan)]

/-- What comes out is a chain. -/
theorem compile_isChain {configJson : String} {workerCapabilities : List String}
    {plan : ExecutionPlan} (h : c.compile jobId fresh pipeline externalInputs configJson
      workerCapabilities implementation = .ok plan) :
    ∃ config, c.Reads configJson config ∧
      c.IsChain fresh pipeline externalInputs config implementation pipeline.stages.length plan.graph
        plan.stages ∧ plan.graph.jobId = plan.jobId ∧ plan.externalInputs = externalInputs := by
  obtain ⟨config, hcheck, p, hturns, rfl⟩ := compile_eq_ok_iff.mp h
  have hcompiled :=
    (foldlM_addStage c jobId fresh pipeline externalInputs config implementation).2 p hturns
  exact ⟨config, (check_eq_ok_iff.mp hcheck).2.2.1, hcompiled.chain, hcompiled.job, rfl⟩

/-- **A plan is a chain of its stages.** A definition compiles exactly when it
has stages, some external input, a configuration that parses and workers for
every capability, and no id is handed out twice. Then the tasks are those of the
stages in their order, the first one on the external inputs and each other one
behind the task before it, on the output which that task declares; and the graph
is valid on the pools where some worker has a core to spare. -/
theorem compile_chain (c : PipelineCompiler) (jobId : Uuid) (fresh : Nat → Uuid)
    (pipeline : PipelineDefinition) (externalInputs : List ArtifactRef) (configJson : String)
    (workerCapabilities : List String) (implementation : String) :
    ((∃ plan, c.compile jobId fresh pipeline externalInputs configJson workerCapabilities
        implementation = .ok plan) ↔
      pipeline.stages ≠ [] ∧ externalInputs ≠ [] ∧
        (configJson.isEmpty ∨ ∃ config, c.json.parse configJson = .ok config) ∧
        (∀ stage ∈ pipeline.stages, stage.capability ∈ workerCapabilities) ∧
        ∀ j < pipeline.stages.length, ∀ i < j, fresh i ≠ fresh j) ∧
    ∀ plan, c.compile jobId fresh pipeline externalInputs configJson workerCapabilities
        implementation = .ok plan →
      plan.jobId = jobId ∧ plan.graph.jobId = jobId ∧ plan.externalInputs = externalInputs ∧
      plan.configHash = c.sha256Hex configJson ∧
      plan.pipelineHash = c.pipelineHash pipeline (c.sha256Hex configJson) externalInputs ∧
      (∃ config, c.Reads configJson config ∧ c.IsChain fresh pipeline externalInputs config
        implementation pipeline.stages.length plan.graph plan.stages) ∧
      ∀ workerPool, plan.graph.validate workerPool externalInputs = .ok () ↔
        ∃ profile ∈ workerPool, fits { cores := 1 } profile.capacity = true := by
  constructor
  -- the checks come first, then a turn for each stage, which needs a new identifier
  · rw [← exists_reads_iff]
    constructor
    · rintro ⟨plan, hplan⟩
      obtain ⟨config, hcheck, p, hturns, -⟩ := compile_eq_ok_iff.mp hplan
      obtain ⟨hstages, hinputs, hreads, hcapable⟩ := check_eq_ok_iff.mp hcheck
      exact ⟨hstages, hinputs, ⟨config, hreads⟩, hcapable,
        (foldlM_addStage c jobId fresh pipeline externalInputs config implementation).1.mp ⟨p, hturns⟩⟩
    · rintro ⟨hstages, hinputs, ⟨config, hreads⟩, hcapable, hnew⟩
      obtain ⟨p, hturns⟩ :=
        (foldlM_addStage c jobId fresh pipeline externalInputs config implementation).1.mpr hnew
      exact ⟨_, compile_eq_ok_iff.mpr
        ⟨config, check_eq_ok_iff.mpr ⟨hstages, hinputs, hreads, hcapable⟩, p, hturns, rfl⟩⟩
  · intro plan hplan
    obtain ⟨config, hreads, hchain, hjob, -⟩ := compile_isChain hplan
    obtain ⟨config', hcheck, p, hturns, rfl⟩ := compile_eq_ok_iff.mp hplan
    have hpos := List.length_pos_iff.mpr (check_eq_ok_iff.mp hcheck).1
    exact ⟨rfl, hjob, rfl, rfl, rfl, ⟨config, hreads, hchain⟩, hchain.validate_iff (Nat.le_refl _) hpos⟩

/-- Two stages without a configuration. -/
def twoStages : PipelineDefinition where
  id := "mock"
  version := "0.1.0"
  gitCommit := ""
  stages := [⟨"extract", "feature_extraction", "extract", .cacheable⟩,
    ⟨"reconstruct", "reconstruction", "reconstruct", .cacheable⟩]

/-- The text of the configuration of a stage. -/
def stageText (stageId : String) : String :=
  "\x7b\"config\":\x7b\x7d,\"pipeline_id\":\"mock\",\"pipeline_version\":\"0.1.0\",\"stage\":\"" ++
    stageId ++ "\"\x7d"

/-- A library that knows the empty object and the configurations of the two stages. -/
def twoStagesJson : JsonLibrary where
  parse text :=
    if text = "\x7b\x7d" then .ok (.object [])
    else match twoStages.stages.find? fun stage => text = stageText stage.id with
      | some stage => .ok (stageConfig twoStages (.object []) stage)
      | none => .error (.parseError "syntax error")
  dump _ j :=
    match j.member? "stage" with
    | some (.str stageId) => stageText stageId
    | _ => "\x7b\x7d"

theorem dump_stageConfig (config : Json) (stage : PipelineStage) :
    twoStagesJson.dump none (stageConfig twoStages config stage) = stageText stage.id := by
  have hmember : (stageConfig twoStages config stage).member? "stage" = some (.str stage.id) := by
    apply Json.member?_object
    · show ["pipeline_id", "pipeline_version", "stage", "config"].Nodup
      decide
    · simp
  simp only [twoStagesJson, hmember]

theorem twoStagesJson_roundTrips :
    ∀ stage ∈ twoStages.stages, twoStagesJson.RoundTrips none (stageConfig twoStages (.object []) stage) := by
  simp only [twoStages, List.forall_mem_cons, List.not_mem_nil, false_implies, implies_true, and_true]
  exact ⟨rfl, rfl⟩

/-- The compiler with the hash of the engine and this library. -/
def twoStagesCompiler : PipelineCompiler := ⟨sha256HexString, twoStagesJson, "0.1.0", "c0ffee"⟩

/-- The second task stands behind the first one, and one core is enough for the graph. -/
theorem compile_chain_two : ∃ plan : ExecutionPlan,
    twoStagesCompiler.compile ⟨9⟩ (fun i => ⟨i + 1⟩) twoStages ["image"] "\x7b\x7d"
      ["reconstruction", "feature_extraction"] "inprocess" = .ok plan ∧
    plan.graph.insertionOrder = [⟨1⟩, ⟨2⟩] ∧ plan.graph.dependencies ⟨2⟩ = [⟨1⟩] ∧
      (plan.graph.task ⟨2⟩).inputs = ["mock/extract/output"] ∧
      (∃ stage ∈ twoStages.stages, twoStagesJson.parse (plan.graph.task ⟨2⟩).configJson =
        .ok (stageConfig twoStages (.object []) stage)) ∧
      plan.graph.validate [{}] ["image"] = .ok () := by
  obtain ⟨hiff, hplan⟩ := compile_chain twoStagesCompiler ⟨9⟩ (fun i => ⟨i + 1⟩) twoStages ["image"]
    "\x7b\x7d" ["reconstruction", "feature_extraction"] "inprocess"
  obtain ⟨plan, hok⟩ := hiff.mpr ⟨by decide, by decide, .inr ⟨_, rfl⟩, by decide, by decide⟩
  obtain ⟨-, -, -, -, -, ⟨config, -, hchain⟩, hvalid⟩ := hplan plan hok
  have hsecond := hchain.task 1 (by decide) _ rfl
  refine ⟨plan, hok, hchain.order, hchain.dependencies 1 (by decide), ?_, ?_, ?_⟩
  · exact congrArg TaskInstance.inputs hsecond
  · let stage : PipelineStage := ⟨"reconstruct", "reconstruction", "reconstruct", .cacheable⟩
    have hmem : stage ∈ twoStages.stages := by decide
    have hprinted : twoStagesJson.dump none (stageConfig twoStages config stage) =
        twoStagesJson.dump none (stageConfig twoStages (.object []) stage) := by
      rw [dump_stageConfig, dump_stageConfig]
    refine ⟨stage, hmem, ?_⟩
    have htext : (plan.graph.task ⟨2⟩).configJson =
        twoStagesJson.dump none (stageConfig twoStages config stage) :=
      congrArg TaskInstance.configJson hsecond
    rw [htext, hprinted]
    exact twoStagesJson_roundTrips stage hmem
  · exact (hvalid [{}]).mpr ⟨{}, by decide, by decide⟩

end PipelineCompiler

end SpatialPlatform.Engine
