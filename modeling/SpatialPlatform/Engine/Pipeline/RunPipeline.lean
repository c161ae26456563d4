import SpatialPlatform.Engine.Pipeline.ExecutionManifest
import SpatialPlatform.Engine.Pipeline.PipelineRun
import SpatialPlatform.Engine.Scheduler.ExecutionLog

/-!
# Pipeline runs and their manifests

`Engine::RunPipeline` (`engine/engine.cpp`) with the registry of
`pipeline_registry.cpp`: compile, write the manifest, run the graph, then mirror
how each stage has ended into the manifest.

* `run_manifest` — the manifest of a run that has returned.
-/

namespace SpatialPlatform.Engine

open SpatialPlatform.Core SpatialPlatform.Lib

/-! ## The registry

A pipeline is found by its name. -/

/-- `PipelineRegistry`: every pipeline has a name of its own. -/
structure PipelineRegistry where
  pipelines : List PipelineDefinition
  named : ∀ pipeline ∈ pipelines, pipeline.id ≠ ""
  nodup : (pipelines.map PipelineDefinition.id).Nodup

namespace PipelineRegistry

/-- `Register`. -/
def register (registry : PipelineRegistry) (pipeline : PipelineDefinition) :
    Except ProjectError PipelineRegistry :=
  if hid : pipeline.id = "" then
    .error ⟨.validationDomain, "pipeline id must not be empty"⟩
  else if hmem : pipeline.id ∈ registry.pipelines.map PipelineDefinition.id then
    .error ⟨.validationDomain, "pipeline already registered: " ++ pipeline.id⟩
  else
    .ok {
      pipelines := registry.pipelines ++ [pipeline]
      named := by
        intro p hp
        rcases List.mem_append.mp hp with hp | hp
        · exact registry.named p hp
        · obtain rfl := List.mem_singleton.mp hp
          exact hid
      nodup := by
        rw [List.map_append, List.map_singleton]
        exact registry.nodup.append (List.nodup_singleton _) (List.disjoint_singleton.mpr hmem) }

/-- `Resolve`. -/
def resolve (registry : PipelineRegistry) (id : String) : Except ProjectError PipelineDefinition :=
  match registry.pipelines.find? (·.id = id) with
  | some pipeline => .ok pipeline
  | none => .error ⟨.validationDomain, "unknown pipeline: " ++ id⟩

/-- The pipeline of a name is the one that was registered under it. -/
theorem resolve_eq_ok_iff {registry : PipelineRegistry} {id : String} {pipeline : PipelineDefinition} :
    registry.resolve id = .ok pipeline ↔ pipeline ∈ registry.pipelines ∧ pipeline.id = id := by
  unfold resolve
  constructor
  · intro h
    split at h
    · next found hfound =>
        cases h
        exact ⟨List.mem_of_find?_eq_some hfound, by simpa using List.find?_some hfound⟩
    · cases h
  · rintro ⟨hmem, hid⟩
    split
    · next found hfound =>
        have hsame : found.id = pipeline.id := by simpa [hid] using List.find?_some hfound
        rw [List.inj_on_of_nodup_map registry.nodup (List.mem_of_find?_eq_some hfound) hmem hsame]
    · next hnone =>
        have hno := List.find?_eq_none.mp hnone pipeline hmem
        simp [hid] at hno

end PipelineRegistry

/-! ## A run

What happens before and behind the scheduler: rows for all stages as they are
begun, and then each of them as it has ended. -/

/-- `Engine`, as far as a run of a pipeline goes. -/
structure PipelineEngine (σ ι : Type) where
  registry : PipelineRegistry
  compiler : PipelineCompiler
  scheduler : Scheduler σ ι
  capabilities : List String
  implementationLabel : String

/-- `AggregateStatus`. -/
def aggregateStatus (plan : ExecutionPlan) (g : TaskGraph) : TaskStatus :=
  let states := plan.stages.map fun stage => g.status stage.taskId
  if states.any (· = .cancelled) then .cancelled
  else if states.any fun state => state ≠ .cancelled && state ≠ .succeeded then .failed
  else .succeeded

namespace PipelineEngine

variable {σ ι : Type} (e : PipelineEngine σ ι)

/-- The row of one stage, before it has run. -/
def enterStage (plan : ExecutionPlan) (m : ExecutionManifestStore) (stage : PlanStage × Nat) :
    Except ProjectError ExecutionManifestStore :=
  m.insertStage plan.jobId stage.1 stage.2

/-- `RunPipeline` up to the scheduler. -/
def beginPipeline (manifests : ExecutionManifestStore) (jobId : Uuid) (fresh : Nat → Uuid)
    (pipelineId : String) (externalInputs : List ArtifactRef) (configJson : String) :
    Except CompileException (ExecutionPlan × ExecutionManifestStore) := do
  let pipeline ← (e.registry.resolve pipelineId).mapError .project
  let plan ← e.compiler.compile jobId fresh pipeline externalInputs configJson e.capabilities
    e.implementationLabel
  let manifests ← (manifests.begin e.compiler.json plan).mapError .project
  let manifests ← (plan.stages.zipIdx.foldlM (enterStage plan) manifests).mapError .project
  return (plan, manifests)

/-- Whether a stage was served from the task cache: it has succeeded without a row in `task_runs`. -/
def cacheHit (s : SchedulerState σ) (id : Uuid) : Bool :=
  s.graph.status id = .succeeded && !(s.store.runs.any fun run => run.taskId = id)

/-- The refs that a stage has published. -/
def publishedRefs (g : TaskGraph) (id : Uuid) : List ArtifactRef :=
  if g.status id = .succeeded then (g.task id).outputs else []

/-- How one stage has ended, into its row. -/
def mirrorStage (plan : ExecutionPlan) (s : SchedulerState σ) (m : ExecutionManifestStore)
    (stage : PlanStage × Nat) : ExecutionManifestStore :=
  m.updateStage e.compiler.json plan.jobId stage.2 (s.graph.status stage.1.taskId)
    (cacheHit s stage.1.taskId) (publishedRefs s.graph stage.1.taskId)

/-- The artifact of the report that the last stage has produced. -/
def qualityReport (artifacts : ArtifactIndex) (plan : ExecutionPlan) (g : TaskGraph) : Option Uuid :=
  match plan.stages.getLast? with
  | none => none
  | some validate =>
      if validate.capability = "validation" then
        (g.task validate.taskId).outputs.head?.bind artifacts.artifactByHash
      else none

/-- `RunPipeline` after the scheduler, up to the return of the manifest. -/
def finishPipeline (artifacts : ArtifactIndex) (plan : ExecutionPlan) (s : SchedulerState σ)
    (m : ExecutionManifestStore) : ExecutionManifestStore :=
  let m := plan.stages.zipIdx.foldl (e.mirrorStage plan s) m
  let m := m.finish plan.jobId (aggregateStatus plan s.graph)
  match qualityReport artifacts plan s.graph with
  | none => m
  | some artifactId => m.setQualityReportId plan.jobId artifactId

open ExecutionManifestStore

/-! ## The rows

Two loops over the stages. Each is followed by its position: the rows in front
of it are written, those behind it are as before. -/

/-- The row of a stage, when the run has ended. -/
def endedRow (plan : ExecutionPlan) (s : SchedulerState σ) (sequence : Nat) (stage : PlanStage) :
    StageRow :=
  { stageRow plan.jobId stage sequence with
    status := (s.graph.status stage.taskId).name
    cacheHit := cacheHit s stage.taskId
    outputRefsJson := joinJson e.compiler.json (publishedRefs s.graph stage.taskId) }

/-- All stages have been entered. -/
theorem enterStages_spec {json : JsonLibrary} {plan : ExecutionPlan} {m : ExecutionManifestStore}
    (h : m.Holds plan.jobId (header json plan) []) :
    ∃ m', plan.stages.zipIdx.foldlM (enterStage plan) m = .ok m' ∧
      m'.Holds plan.jobId (header json plan)
          (plan.stages.mapIdx fun i stage => stageRow plan.jobId stage i) ∧
        SameBut json m m' plan.jobId := by
  have hloop := foldlM_zipIdx (f := enterStage plan) (l := plan.stages) (s := m)
    (P := fun n m' => m'.Holds plan.jobId (header json plan)
        ((plan.stages.take n).mapIdx fun i stage => stageRow plan.jobId stage i) ∧
      SameBut json m m' plan.jobId) ?_ ⟨h, fun _ _ => rfl⟩
  · rwa [List.take_length] at hloop
  rintro i stage m₁ hget ⟨hm₁, hsame⟩
  have hi : i < plan.stages.length := (List.getElem?_eq_some_iff.mp hget).1
  have hlen : (plan.stages.take i).length = i := by rw [List.length_take, Nat.min_eq_left hi.le]
  have hnew : ∀ r ∈ (plan.stages.take i).mapIdx fun i stage => stageRow plan.jobId stage i,
      r.sequence ≠ i := by
    intro r hr hsequence
    obtain ⟨k, hk, rfl⟩ := List.mem_mapIdx.mp hr
    rw [hlen] at hk
    exact Nat.ne_of_lt hk hsequence
  obtain ⟨m₂, hok, hm₂, hsame₂⟩ := @insertStage_spec json _ _ _ _ hm₁ stage i hnew
  refine ⟨m₂, hok, ?_, hsame.trans hsame₂⟩
  rw [List.take_add_one, hget, Option.toList_some, List.mapIdx_append, hlen, List.mapIdx_singleton,
    Nat.zero_add]
  exact hm₂

/-- All stages have been mirrored. -/
theorem mirrorStages_spec {plan : ExecutionPlan} (s : SchedulerState σ) {m : ExecutionManifestStore}
    {row : ManifestRow} (h : m.Holds plan.jobId row
      (plan.stages.mapIdx fun i stage => stageRow plan.jobId stage i)) :
    let m' := plan.stages.zipIdx.foldl (e.mirrorStage plan s) m
    m'.Holds plan.jobId row (plan.stages.mapIdx (e.endedRow plan s)) ∧
      SameBut e.compiler.json m m' plan.jobId := by
  -- the rows in front of the turn have ended, the others are as they were begun
  have hloop := foldl_zipIdx (f := e.mirrorStage plan s) (l := plan.stages) (s := m)
    (P := fun n m' => m'.Holds plan.jobId row (plan.stages.mapIdx fun i stage =>
        if i < n then e.endedRow plan s i stage else stageRow plan.jobId stage i) ∧
      SameBut e.compiler.json m m' plan.jobId) ?_ ⟨by simpa using h, fun _ _ => rfl⟩
  · obtain ⟨hholds, hsame⟩ := hloop
    refine ⟨?_, hsame⟩
    rwa [List.mapIdx_eq_mapIdx_iff.mpr fun i hi => if_pos hi] at hholds
  rintro i stage m₁ hget ⟨hm₁, hsame⟩
  obtain ⟨hm₂, hsame₂⟩ := @updateStage_spec e.compiler.json _ _ _ _ hm₁ i
    (s.graph.status stage.taskId) (cacheHit s stage.taskId) (publishedRefs s.graph stage.taskId)
  refine ⟨?_, hsame.trans hsame₂⟩
  have hrows : (plan.stages.mapIdx fun j other =>
        if j < i then e.endedRow plan s j other else stageRow plan.jobId other j).map
      (updateRow e.compiler.json plan.jobId i (s.graph.status stage.taskId)
        (cacheHit s stage.taskId) (publishedRefs s.graph stage.taskId)) =
      plan.stages.mapIdx fun j other =>
        if j < i + 1 then e.endedRow plan s j other else stageRow plan.jobId other j := by
    apply List.ext_getElem?
    intro j
    rw [List.getElem?_map, List.getElem?_mapIdx, List.getElem?_mapIdx, Option.map_map]
    cases hother : plan.stages[j]? with
    | none => rfl
    | some other =>
        simp only [Option.map_some, Function.comp_apply, Option.some.injEq]
        -- a turn updates the row with its own number only
        have hskip : ∀ {r : StageRow}, r.sequence = j → j ≠ i →
            updateRow e.compiler.json plan.jobId i (s.graph.status stage.taskId)
              (cacheHit s stage.taskId) (publishedRefs s.graph stage.taskId) r = r :=
          fun hr hne => if_neg fun hkey => hne (hr.symm.trans (congrArg Prod.snd hkey))
        rcases Nat.lt_trichotomy j i with hlt | rfl | hgt
        · rw [if_pos hlt, if_pos (Nat.lt_succ_of_lt hlt), hskip rfl (Nat.ne_of_lt hlt)]
        · rw [hget] at hother
          cases hother
          rw [if_neg (Nat.lt_irrefl j), if_pos (Nat.lt_succ_self j)]
          exact if_pos rfl
        · rw [if_neg (Nat.not_lt_of_gt hgt), if_neg (Nat.not_lt.mpr hgt), hskip rfl (Nat.ne_of_gt hgt)]
  rw [← hrows]
  exact hm₂

/-! ## How the stages end

The chain is run through from its first stage; where it stops, what is behind
has not run. The status of a run is computed from these ends. -/

/-- A run is cancelled if one of its stages is, and has succeeded if all of them have. -/
theorem aggregateStatus_spec (plan : ExecutionPlan) (g : TaskGraph) :
    (aggregateStatus plan g = .cancelled ↔
        ∃ stage ∈ plan.stages, g.status stage.taskId = .cancelled) ∧
      (aggregateStatus plan g = .succeeded ↔
        ∀ stage ∈ plan.stages, g.status stage.taskId = .succeeded) := by
  simp only [aggregateStatus, List.any_map, List.any_eq_true, Function.comp_apply,
    decide_eq_true_eq, Bool.and_eq_true]
  split
  · next hsome =>
      obtain ⟨stage, hmem, heq⟩ := hsome
      refine ⟨iff_of_true rfl ⟨stage, hmem, heq⟩, iff_of_false (by simp) fun hall => ?_⟩
      simp [hall stage hmem] at heq
  · next hnone =>
      split
      · next hsome =>
          obtain ⟨stage, hmem, -, hne⟩ := hsome
          exact ⟨iff_of_false (by simp) hnone,
            iff_of_false (by simp) fun hall => hne (hall stage hmem)⟩
      · next hno =>
          refine ⟨iff_of_false (by simp) hnone, iff_of_true rfl fun stage hmem => ?_⟩
          by_contra hne
          exact hno ⟨stage, hmem, fun heq => hnone ⟨stage, hmem, heq⟩, hne⟩

section ends

variable {sched : Scheduler σ ι} {inputs : Nat → StepInput ι} {s₀ : SchedulerState σ}
  {store : SchedulerStateStore} {executor : σ} {c : PipelineCompiler} {fresh : Nat → Uuid}
  {pipeline : PipelineDefinition} {config : Json} {implementation : String} {plan : ExecutionPlan}

/-- A run that has returned has gone through some stages; where it stopped, the rest has not run. -/
theorem stages_end (h : c.IsChain fresh pipeline plan.externalInputs config implementation
      pipeline.stages.length plan.graph plan.stages)
    (hrun : sched.run store executor plan.graph plan.externalInputs plan.pipelineHash = .ok s₀)
    (hsize : pipeline.stages.length ≤ 10000) {k : Nat}
    (hreturned : (sched.states inputs s₀ k).control = .returned) :
    let status := fun i => (sched.states inputs s₀ k).graph.status (fresh i)
    ∃ m ≤ pipeline.stages.length, (∀ i < m, status i = .succeeded) ∧
      (m < pipeline.stages.length → status m = .failed ∨ status m = .cancelled) ∧
      ∀ i, m < i → i < pipeline.stages.length → status i = .skipped ∨ status i = .cancelled := by
  intro status
  obtain ⟨hvalid, hgraph, hcontrol, -⟩ := Scheduler.run_eq_ok hrun
  obtain ⟨hc, hshape, horder⟩ := h.states sched inputs hrun k
  have hlength : plan.graph.insertionOrder.length = pipeline.stages.length := by
    rw [h.order, List.length_map, List.length_range]
  have hterm : ∀ i < pipeline.stages.length, (status i).isTerminal = true := by
    have hlayers : s₀.graph.Layered 10000 := by
      rw [hgraph]
      exact (TaskGraph.layered_of_validate hvalid).mono (hlength ▸ hsize)
    intro i hi
    refine Scheduler.allTerminal_of_returned hc hcontrol hlayers hreturned (fresh i) ?_
    rw [hgraph]
    exact h.mem_order hi
  have hpolicy : ∀ i < pipeline.stages.length,
      ((sched.states inputs s₀ k).graph.task (fresh i)).metadata.failure = .skipped := by
    intro i hi
    rw [Scheduler.states_failure sched inputs hc, hgraph, h.task i hi _ (List.getElem?_eq_getElem hi)]
    rfl
  have hskips : (sched.states inputs s₀ k).graph.SkipsBehind (sched.states inputs s₀ k).control := by
    apply Scheduler.states_skipsBehind sched inputs hc
    rw [hgraph]
    intro x hx hskipped
    rw [h.pending hx] at hskipped
    cases hskipped
  obtain ⟨m, hm, hdone, hstop⟩ := exists_first (fun i => status i = .succeeded) pipeline.stages.length
  -- whoever has run has only succeeded ones before it
  have hran : ∀ i < pipeline.stages.length, (status i = .succeeded ∨ status i = .failed) →
      ∀ j < i, status j = .succeeded := by
    intro i hi hstatus
    change (sched.states inputs s₀ k).graph.status (fresh i) = .succeeded ∨
      (sched.states inputs s₀ k).graph.status (fresh i) = .failed at hstatus
    refine h.succeeded_before hshape horder hi fun d hd => ?_
    rw [← hshape] at hd
    apply horder (fresh i) _ _ _ d hd
    · rcases hstatus with hs | hs <;> simp [hs]
    · rcases hstatus with hs | hs <;> simp [hs]
    · rw [hpolicy i hi]
      rcases hstatus with hs | hs <;> simp [hs, FailurePolicy.status]
  refine ⟨m, hm, hdone, fun hlt => ?_, fun i hi hlt => ?_⟩
  · have hnot := hstop hlt
    have hended := hterm m hlt
    cases hstatus : status m with
    | failed => exact .inl rfl
    | cancelled => exact .inr rfl
    | succeeded => exact absurd hstatus hnot
    | pending | running => simp [hstatus] at hended
    | skipped =>
        exfalso
        obtain ⟨d, hd, -, hlost, -⟩ := hskips (fresh m) (hshape ▸ h.mem_order hlt) hstatus
        rw [hshape, h.dependencies m hlt] at hd
        cases m with
        | zero => cases hd
        | succ m =>
            obtain rfl := List.mem_singleton.mp hd
            exact hlost (hdone m (Nat.lt_succ_self m))
  · have hnot := hstop (Nat.lt_trans hi hlt)
    have hended := hterm i hlt
    cases hstatus : status i with
    | skipped => exact .inl rfl
    | cancelled => exact .inr rfl
    | succeeded => exact absurd (hran i hlt (.inl hstatus) m hi) hnot
    | failed => exact absurd (hran i hlt (.inr hstatus) m hi) hnot
    | pending | running => simp [hstatus] at hended

/-- A stage of a plan has the id that its position got. -/
theorem taskId_eq (h : c.IsChain fresh pipeline plan.externalInputs config implementation
      pipeline.stages.length plan.graph plan.stages) {i : Nat} {stage : PlanStage}
    (hstage : plan.stages[i]? = some stage) : i < pipeline.stages.length ∧ stage.taskId = fresh i := by
  rw [h.stages, List.take_length, List.getElem?_mapIdx] at hstage
  obtain ⟨source, hsource, rfl⟩ := Option.map_eq_some_iff.mp hstage
  exact ⟨(List.getElem?_eq_some_iff.mp hsource).1, rfl⟩

/-- The stages that a run has gone through, and the rest of them. -/
theorem exists_done (h : c.IsChain fresh pipeline plan.externalInputs config implementation
      pipeline.stages.length plan.graph plan.stages)
    (hrun : sched.run store executor plan.graph plan.externalInputs plan.pipelineHash = .ok s₀)
    (hsize : plan.stages.length ≤ 10000) {k : Nat}
    (hreturned : (sched.states inputs s₀ k).control = .returned) :
    let status := fun stage : PlanStage => (sched.states inputs s₀ k).graph.status stage.taskId
    ∃ done rest, plan.stages = done ++ rest ∧ (∀ stage ∈ done, status stage = .succeeded) ∧
      (∀ stage ∈ rest.head?, status stage = .failed ∨ status stage = .cancelled) ∧
      ∀ stage ∈ rest.tail, status stage = .skipped ∨ status stage = .cancelled := by
  intro status
  rw [h.length_stages le_rfl] at hsize
  obtain ⟨m, -, hdone, hstop, hrest⟩ := stages_end h hrun hsize hreturned
  refine ⟨plan.stages.take m, plan.stages.drop m, (List.take_append_drop m _).symm, ?_, ?_, ?_⟩
  · intro stage hmem
    obtain ⟨i, hi⟩ := List.mem_iff_getElem?.mp hmem
    rw [List.getElem?_take] at hi
    split at hi
    · next hlt =>
        have hid := (taskId_eq h hi).2
        simpa only [status, hid] using hdone i hlt
    · cases hi
  · intro stage hmem
    rw [List.head?_drop] at hmem
    obtain ⟨hlt, hid⟩ := taskId_eq h hmem
    simpa only [status, hid] using hstop hlt
  · intro stage hmem
    rw [List.tail_drop] at hmem
    obtain ⟨i, hi⟩ := List.mem_iff_getElem?.mp hmem
    rw [List.getElem?_drop] at hi
    obtain ⟨hlt, hid⟩ := taskId_eq h hi
    simpa only [status, hid] using hrest (m + 1 + i) (by omega) hlt

/-- When the scheduler has returned, the tasks with a row are the ones that were submitted. -/
theorem cacheHit_iff (hrun : sched.run store executor plan.graph plan.externalInputs plan.pipelineHash =
      .ok s₀) (hpending : ∀ x ∈ plan.graph.insertionOrder, plan.graph.status x = .pending)
    (hrows : ∀ x, store.Recorded x → store.Holds x) {k : Nat}
    (hreturned : (sched.states inputs s₀ k).control = .returned) {x : Uuid}
    (hx : x ∈ plan.graph.insertionOrder) :
    cacheHit (sched.states inputs s₀ k) x = true ↔
      (sched.states inputs s₀ k).graph.status x = .succeeded ∧
        ∀ request ∈ (sched.states inputs s₀ k).submissions, request.taskId ≠ x := by
  obtain ⟨-, store', hsave, hs₀⟩ := Scheduler.run_start hrun
  obtain ⟨hfresh, -, hruns₀⟩ := SchedulerStateStore.saveGraph_eq_ok hsave
  have hc : Coherent s₀.graph s₀.control := by
    rw [hs₀]
    exact Coherent.start fun y hy => by simp [hpending y hy]
  obtain ⟨new, hruns, hentries⟩ :=
    sched.states_log inputs hc (by rw [hs₀]) (by rw [hs₀]) k
  have hopen : (sched.states inputs s₀ k).unrecorded = [] := by
    rw [SchedulerState.unrecorded, hreturned]
  rw [hopen, List.append_nil] at hentries
  have hids : (sched.states inputs s₀ k).submissions.map TaskRequest.taskId =
      new.map ExecutionRecord.taskId := by
    simpa [Function.comp_def, TaskRequest.entry, ExecutionRecord.entry] using
      congrArg (List.map Prod.fst) hentries
  -- a new task has no row before the run
  have hold : ∀ run ∈ s₀.store.runs, run.taskId ≠ x := by
    rw [hs₀]
    intro run hrun hid
    exact hfresh x hx (hrows x ⟨run, hruns₀ ▸ hrun, hid⟩)
  have hnone : ((sched.states inputs s₀ k).store.runs.any fun run => run.taskId = x) = false ↔
      ∀ request ∈ (sched.states inputs s₀ k).submissions, request.taskId ≠ x := by
    rw [hruns, List.any_append, show (s₀.store.runs.any fun run => run.taskId = x) = false by
      simpa using hold, Bool.false_or, List.any_eq_false]
    simp only [decide_eq_true_eq]
    rw [← List.forall_mem_map (f := ExecutionRecord.taskId) (P := fun id => ¬ id = x), ← hids,
      List.forall_mem_map]
  rw [cacheHit, Bool.and_eq_true, decide_eq_true_eq, Bool.not_eq_true', hnone]

end ends

/-! ## The manifest

Before the run the manifest has all stages, after it each has been updated; what
`Load` reads is then computed from the final graph. -/

/-- The record of one stage in the manifest of a run. -/
def endedStage (s : SchedulerState σ) (sequence : Nat) (stage : PlanStage) : ExecutionManifestStage where
  sequence := sequence
  stageId := stage.stageId
  capability := stage.capability
  implementation := stage.implementation
  taskHash := stage.taskHash
  status := (s.graph.status stage.taskId).name
  cacheHit := cacheHit s stage.taskId
  taskId := stage.taskId
  outputRefs := publishedRefs s.graph stage.taskId

/-- What a run leaves in its manifest. -/
def runManifest (artifacts : ArtifactIndex) (plan : ExecutionPlan) (s : SchedulerState σ) :
    ExecutionManifest where
  manifestId := plan.jobId
  pipelineId := plan.pipelineId
  pipelineVersion := plan.pipelineVersion
  pipelineHash := plan.pipelineHash
  configHash := plan.configHash
  gitCommit := plan.gitCommit
  status := (aggregateStatus plan s.graph).name
  externalInputs := plan.externalInputs
  qualityReportId := qualityReport artifacts plan s.graph
  stages := plan.stages.mapIdx (endedStage s)

theorem parseRefs_joinJson {json : JsonLibrary} {refs : List ArtifactRef}
    (h : json.RoundTrips none (.arr (refs.map .str))) : parseRefs json (joinJson json refs) = refs := by
  have hread : json.parse (joinJson json refs) = .ok (.arr (refs.map .str)) := h
  rw [parseRefs, hread]
  simp only [List.filterMap_map]
  exact List.filterMap_some

/-- When the scheduler starts, the manifest is there with all its stages. -/
theorem beginPipeline_spec {manifests begun : ExecutionManifestStore} {jobId : Uuid} {fresh : Nat → Uuid}
    {pipelineId configJson : String} {externalInputs : List ArtifactRef} {plan : ExecutionPlan}
    (h : e.beginPipeline manifests jobId fresh pipelineId externalInputs configJson =
      .ok (plan, begun)) :
    (∃ pipeline, e.registry.resolve pipelineId = .ok pipeline ∧
      e.compiler.compile jobId fresh pipeline externalInputs configJson e.capabilities
        e.implementationLabel = .ok plan) ∧
      begun.Holds plan.jobId (header e.compiler.json plan)
        (plan.stages.mapIdx fun i stage => stageRow plan.jobId stage i) ∧
      SameBut e.compiler.json manifests begun plan.jobId := by
  obtain ⟨pipeline, hpipeline, h⟩ := bind_eq_ok_iff.mp h
  obtain ⟨plan', hplan, h⟩ := bind_eq_ok_iff.mp h
  obtain ⟨m₁, hm₁, h⟩ := bind_eq_ok_iff.mp h
  obtain ⟨m₂, hm₂, h⟩ := bind_eq_ok_iff.mp h
  cases h
  rw [mapError_eq_ok_iff] at hpipeline hm₁ hm₂
  obtain ⟨hholds, hsame⟩ := begin_spec hm₁
  obtain ⟨m₂', hok, hholds', hsame'⟩ := enterStages_spec hholds
  cases hm₂.symm.trans hok
  exact ⟨⟨pipeline, hpipeline, hplan⟩, hholds', hsame.trans hsame'⟩

/-- After the scheduler, every stage and the run itself have been written. -/
theorem finishPipeline_spec (artifacts : ArtifactIndex) {plan : ExecutionPlan} (s : SchedulerState σ)
    {m : ExecutionManifestStore} (h : m.Holds plan.jobId (header e.compiler.json plan)
      (plan.stages.mapIdx fun i stage => stageRow plan.jobId stage i)) :
    (e.finishPipeline artifacts plan s m).Holds plan.jobId
        { header e.compiler.json plan with
          status := (aggregateStatus plan s.graph).name
          qualityReportId := qualityReport artifacts plan s.graph }
        (plan.stages.mapIdx (e.endedRow plan s)) ∧
      SameBut e.compiler.json m (e.finishPipeline artifacts plan s m) plan.jobId := by
  obtain ⟨hmirrored, hsame⟩ := e.mirrorStages_spec s h
  obtain ⟨hfinished, hsame'⟩ := @mapManifest_spec e.compiler.json _ _ _ _ hmirrored
    (fun row => { row with status := (aggregateStatus plan s.graph).name }) fun _ => rfl
  unfold finishPipeline
  cases hreport : qualityReport artifacts plan s.graph with
  | none => exact ⟨hfinished, hsame.trans hsame'⟩
  | some artifactId =>
      obtain ⟨hlinked, hsame''⟩ := @mapManifest_spec e.compiler.json _ _ _ _ hfinished
        (fun row => { row with qualityReportId := some artifactId }) fun _ => rfl
      exact ⟨hlinked, (hsame.trans hsame').trans hsame''⟩

/-- A manifest that has been written is read back as it is. -/
theorem load_runManifest (artifacts : ArtifactIndex) {plan : ExecutionPlan} (s : SchedulerState σ)
    {m : ExecutionManifestStore} (h : m.Holds plan.jobId
        { header e.compiler.json plan with
          status := (aggregateStatus plan s.graph).name
          qualityReportId := qualityReport artifacts plan s.graph }
        (plan.stages.mapIdx (e.endedRow plan s)))
    (hjson : ∀ refs ∈ plan.externalInputs ::
        plan.stages.map fun stage => publishedRefs s.graph stage.taskId,
      e.compiler.json.RoundTrips none (.arr (refs.map .str))) :
    m.load e.compiler.json plan.jobId = some (runManifest artifacts plan s) := by
  have hsorted : (plan.stages.mapIdx (e.endedRow plan s)).Pairwise (·.sequence ≤ ·.sequence) := by
    rw [List.pairwise_iff_getElem]
    intro i j hi hj hlt
    rw [List.getElem_mapIdx, List.getElem_mapIdx]
    exact hlt.le
  have hinputs := parseRefs_joinJson (hjson _ List.mem_cons_self)
  have hstages : (plan.stages.mapIdx (e.endedRow plan s)).map (readStage e.compiler.json) =
      plan.stages.mapIdx (endedStage s) := by
    apply List.ext_getElem (by simp)
    intro i hi _
    have hlt : i < plan.stages.length := by simpa using hi
    have hrefs := parseRefs_joinJson
      (hjson _ (List.mem_cons_of_mem _ (List.mem_map_of_mem (List.getElem_mem hlt))))
    simp only [List.getElem_map, List.getElem_mapIdx, readStage, endedRow, hrefs]
    rfl
  rw [h.load_eq hsorted, hstages]
  simp only [readManifest, header, hinputs]
  rfl

/-- **The manifest of a run.** When `RunPipeline` has begun a run and the
scheduler has returned, whatever the worker, the cache and the callers of
`Cancel` have done: the manifest is loaded with the identity of the plan, the
report of its last stage, and for each stage how it has ended. Some first stages
have succeeded; the run stopped at the next one, and nothing behind that has
run. The run counts as succeeded if all stages have and as cancelled if one of
them is. A stage counts as a cache hit when it has succeeded without having been
submitted. The manifests of all other runs are loaded as before. -/
theorem run_manifest {manifests begun : ExecutionManifestStore} {jobId : Uuid} {fresh : Nat → Uuid}
    {pipelineId configJson : String} {externalInputs : List ArtifactRef} {plan : ExecutionPlan}
    {store : SchedulerStateStore} {executor : σ} {inputs : Nat → StepInput ι} {s₀ : SchedulerState σ}
    (hbegin : e.beginPipeline manifests jobId fresh pipelineId externalInputs configJson =
      .ok (plan, begun))
    (hrun : e.scheduler.run store executor plan.graph plan.externalInputs plan.pipelineHash = .ok s₀)
    (hrows : ∀ x, store.Recorded x → store.Holds x) (hsize : plan.stages.length ≤ 10000) {k : Nat}
    (hreturned : (e.scheduler.states inputs s₀ k).control = .returned)
    (hjson : ∀ refs ∈ plan.externalInputs :: plan.stages.map fun stage =>
        publishedRefs (e.scheduler.states inputs s₀ k).graph stage.taskId,
      e.compiler.json.RoundTrips none (.arr (refs.map .str)))
    (artifacts : ArtifactIndex) :
    let s := e.scheduler.states inputs s₀ k
    let final := e.finishPipeline artifacts plan s begun
    final.load e.compiler.json plan.jobId = some (runManifest artifacts plan s) ∧
      (∀ other ≠ plan.jobId,
        final.load e.compiler.json other = manifests.load e.compiler.json other) ∧
      (∃ done rest, plan.stages = done ++ rest ∧
        (∀ stage ∈ done, s.graph.status stage.taskId = .succeeded) ∧
        (∀ stage ∈ rest.head?, s.graph.status stage.taskId = .failed ∨
          s.graph.status stage.taskId = .cancelled) ∧
        ∀ stage ∈ rest.tail, s.graph.status stage.taskId = .skipped ∨
          s.graph.status stage.taskId = .cancelled) ∧
      ((aggregateStatus plan s.graph = .cancelled ↔
          ∃ stage ∈ plan.stages, s.graph.status stage.taskId = .cancelled) ∧
        (aggregateStatus plan s.graph = .succeeded ↔
          ∀ stage ∈ plan.stages, s.graph.status stage.taskId = .succeeded)) ∧
      ∀ stage ∈ plan.stages, cacheHit s stage.taskId = true ↔
        s.graph.status stage.taskId = .succeeded ∧
          ∀ request ∈ s.submissions, request.taskId ≠ stage.taskId := by
  intro s final
  obtain ⟨⟨pipeline, -, hplan⟩, hbegun, hsame⟩ := e.beginPipeline_spec hbegin
  obtain ⟨config, -, hchain, -, hinputs⟩ := PipelineCompiler.compile_isChain hplan
  rw [← hinputs] at hchain
  obtain ⟨hholds, hsame'⟩ := e.finishPipeline_spec artifacts s hbegun
  -- the manifest is read back; the stages end along the chain
  refine ⟨e.load_runManifest artifacts s hholds hjson, hsame.trans hsame',
    exists_done hchain hrun hsize hreturned, aggregateStatus_spec plan s.graph, ?_⟩
  intro stage hmem
  obtain ⟨i, hi⟩ := List.mem_iff_getElem?.mp hmem
  obtain ⟨hlt, hid⟩ := taskId_eq hchain hi
  exact cacheHit_iff hrun (fun x hx => hchain.pending hx) hrows hreturned
    (hid ▸ hchain.mem_order hlt)

/-! Two stages; the worker fails at the second one. -/

/-- The library of the two stages, which knows some lists of refs as well. -/
private def refsJson : JsonLibrary where
  parse text :=
    if text = "[\"image\"]" then .ok (.arr [.str "image"])
    else if text = "[\"points\"]" then .ok (.arr [.str "points"])
    else if text = "[]" then .ok (.arr [])
    else PipelineCompiler.twoStagesJson.parse text
  dump indent j :=
    match j with
    | .arr [.str ref] => "[\"" ++ ref ++ "\"]"
    | .arr _ => "[]"
    | _ => PipelineCompiler.twoStagesJson.dump indent j

private def failingEngine : PipelineEngine (List WorkerEvent) Unit where
  registry := ⟨[PipelineCompiler.twoStages], by decide, by decide⟩
  compiler := { PipelineCompiler.twoStagesCompiler with json := refsJson }
  scheduler := ⟨PipelineCompiler.twoStagesCompiler.cache, .deterministic {} ⟨7⟩ fun request =>
    if request.taskType = "extract" then [.artifactProduced "points", .completed]
    else [.failed "PROCESSING_ERROR" "no tracks" false]⟩
  capabilities := ["reconstruction", "feature_extraction"]
  implementationLabel := "inprocess"

private def failingBegun : ExecutionPlan × ExecutionManifestStore :=
  (failingEngine.beginPipeline .empty ⟨9⟩ (fun i => ⟨i + 1⟩) "mock" ["image"] "\x7b\x7d").toOption.getD
    (⟨"", "", "", "", "", [], [], ⟨9⟩, .empty ⟨9⟩⟩, .empty)

private def failingStart : SchedulerState (List WorkerEvent) :=
  (failingEngine.scheduler.run {} [] failingBegun.1.graph failingBegun.1.externalInputs
    failingBegun.1.pipelineHash).toOption.getD ⟨failingBegun.1.graph, {}, [], "", .returned, [], []⟩

private def failingInputs (_ : Nat) : StepInput Unit := { worker := () }

/-- The manifest names what the first stage has made, and the failure of the second. -/
theorem run_manifest_failing : ∃ manifest,
    (failingEngine.finishPipeline {} failingBegun.1
      (failingEngine.scheduler.states failingInputs failingStart 40) failingBegun.2).load
        refsJson failingBegun.1.jobId = some manifest ∧ manifest.status = "failed" ∧
      manifest.stages.map (fun stage => (stage.status, stage.cacheHit, stage.outputRefs)) =
        [("succeeded", false, ["points"]), ("failed", false, [])] := by
  have hbegin : failingEngine.beginPipeline .empty ⟨9⟩ (fun i => ⟨i + 1⟩) "mock" ["image"] "\x7b\x7d" =
      .ok failingBegun := eq_ok_getD _ (by decide +kernel)
  have hrun : failingEngine.scheduler.run {} [] failingBegun.1.graph failingBegun.1.externalInputs
      failingBegun.1.pipelineHash = .ok failingStart := eq_ok_getD _ (by decide +kernel)
  have hrows : ∀ x, SchedulerStateStore.Recorded {} x → SchedulerStateStore.Holds {} x := by
    rintro x ⟨run, hmem, -⟩
    cases hmem
  have hrefs : (failingBegun.1.externalInputs :: failingBegun.1.stages.map fun stage =>
      publishedRefs (failingEngine.scheduler.states failingInputs failingStart 40).graph
        stage.taskId) = [["image"], ["points"], []] := by
    decide +kernel
  have hjson : ∀ refs ∈ failingBegun.1.externalInputs :: failingBegun.1.stages.map fun stage =>
        publishedRefs (failingEngine.scheduler.states failingInputs failingStart 40).graph stage.taskId,
      failingEngine.compiler.json.RoundTrips none (.arr (refs.map .str)) := by
    rw [hrefs]
    intro refs hmem
    simp only [List.mem_cons, List.not_mem_nil, or_false] at hmem
    rcases hmem with rfl | rfl | rfl <;> rfl
  have hreturned : (failingEngine.scheduler.states failingInputs failingStart 40).control =
      .returned := by decide +kernel
  obtain ⟨hload, -⟩ := @run_manifest _ _ failingEngine _ failingBegun.2 _ _ _ _ _ failingBegun.1 _
    _ _ _ hbegin hrun hrows (by decide +kernel) 40 hreturned hjson {}
  exact ⟨_, hload, by decide +kernel, by decide +kernel⟩

end PipelineEngine

end SpatialPlatform.Engine
