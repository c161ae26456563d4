import Mathlib.Data.Set.Function
import SpatialPlatform.Engine.Pipeline.LoopClosureOptimize
import SpatialPlatform.Lib.Coordinates

/-!
# Closures that are processed again

A run of `LoopClosureOptimizePipeline` over some closures never reads the rows
that it writes (`uniform_loopClosureOptimizePipeline`), so that a second one
leaves them as they are. The ids of its rows are those of the closures and what
is derived from their names (`ownRows_stored`), so that closures with different
ids do not overwrite each other's rows.
-/

namespace SpatialPlatform.Engine

open SpatialPlatform.Core SpatialPlatform.Lib

variable {R : Type}

/-! ## What a call depends on

A call looks at its input, at the modes of the databases and at what the store
takes, and at no row. So it does the same in all states that agree in these. -/

/-- Both states have databases in the same modes, and a store that takes the same payloads. -/
structure Steady (s₀ s : PipelineState R) : Prop where
  db : s.db.readOnly = s₀.db.readOnly
  store : s.store.readOnly = s₀.store.readOnly
  artifacts : s₀.store.readOnly = true → s.store.artifacts = s₀.store.artifacts

theorem Steady.refl (s : PipelineState R) : Steady s s := ⟨rfl, rfl, fun _ => rfl⟩

/-- From all such states the call has the same outcome and puts the same rows into the tables. -/
abbrev UniformCall (s₀ : PipelineState R) {α : Type} (x : PipelineCall R α) : Prop :=
  Persist.Uniform (Steady s₀) (·.db.tables) (TrajectoryTables.replacements R) x

section Uniform

variable {s₀ : PipelineState R} {env : OptimizePipelineEnv R}
  {input : LoopClosureOptimizePipelineInput R}

theorem uniform_upsert {write : TrajectoryTables R → TrajectoryTables R}
    (hwrite : write ∈ TrajectoryTables.replacements R) :
    UniformCall s₀ (upsert (·.execute write)) := by
  refine Persist.Uniform.write ⟨.storageReadOnly, "cannot write to a read-only project"⟩ write hwrite ?_
  cases hmode : s₀.db.readOnly with
  | true =>
      refine .inl fun s hs => ?_
      have hdb : s.db.execute write = .error _ := if_pos (hs.db.trans hmode)
      exact congrArg (Except.map fun db => ({ s with db } : PipelineState R)) hdb
  | false =>
      refine .inr fun s hs => ?_
      have hdb : s.db.execute write = .ok { s.db with tables := write s.db.tables } :=
        if_neg (by simp [hs.db, hmode])
      exact ⟨{ s with db := { s.db with tables := write s.db.tables } },
        congrArg (Except.map fun db => ({ s with db } : PipelineState R)) hdb,
        ⟨hs.db, hs.store, hs.artifacts⟩, rfl⟩

theorem uniform_writeCasArtifact (payload artifactType configurationHash : String) :
    UniformCall s₀ (writeCasArtifact env payload artifactType configurationHash) := by
  let hash := sha256Hex (stringBytes payload)
  refine ⟨if s₀.store.readOnly ∧ s₀.store.artifacts.findByHash hash = none then
      .error ⟨.storageReadOnly, "cannot write to a read-only project"⟩ else .ok hash,
    1, Submonoid.one_mem _, fun s hs => ?_⟩
  let manifest : ArtifactManifest := {
    artifactUuid := s.random 0
    configurationHash
    type := artifactType
    schemaVersion := 1
    producer := ⟨"spatial-platform", env.kEngineVersion, env.kEngineGitCommit⟩
    mimeType := "application/json"
    fileSize := Int64.ofNat (stringBytes payload).length }
  let put := s.store.put (stringBytes payload) manifest (s.random 1)
  -- two identifiers are drawn, whatever becomes of the write
  have hrun : writeCasArtifact env payload artifactType configurationHash s =
      (put.1.map (·.contentHash),
        { s with store := put.2, random := fun n => s.random (n + 1 + 1) }) := by
    show ((putArtifact (stringBytes payload) manifest (s.random 1) >>= fun written =>
      pure written.contentHash) : PipelineCall R String)
        { s with random := fun n => s.random (n + 1 + 1) } = _
    rcases hput : put with ⟨e | written, store⟩
    · exact Persist.bind_of_error (by rw [putArtifact, show s.store.put _ _ _ = _ from hput])
    · exact Persist.bind_of_ok (by rw [putArtifact, show s.store.put _ _ _ = _ from hput])
  obtain ⟨houtcome, hmode, hartifacts⟩ :=
    s.store.put_outcome (stringBytes payload) manifest (s.random 1)
  rw [hrun]
  refine ⟨houtcome.trans ?_, ⟨hs.db, hmode.trans hs.store, fun hread => ?_⟩, rfl⟩
  · by_cases hread : s₀.store.readOnly = true
    · rw [hs.store, hs.artifacts hread]
    · rw [if_neg fun h => hread (hs.store ▸ h.1), if_neg fun h => hread h.1]
  · exact (hartifacts (hs.store.trans hread)).trans (hs.artifacts hread)

theorem uniform_writeDocument (payload artifactType id : String) :
    UniformCall s₀ (writeDocument env input payload artifactType id) :=
  .ite (uniform_writeCasArtifact payload artifactType _) (.pure id)

theorem uniform_persistClosure (closure : LoopClosure R) (spatialSeparationM : R) :
    UniformCall s₀ (persistClosure closure spatialSeparationM) :=
  .bind (.ofExcept _) fun row => uniform_upsert (TrajectoryTables.putLoopClosure_mem row)

theorem uniform_persistGraph (assembly : PoseGraphAssembly R) :
    UniformCall s₀ (persistGraph env input assembly) :=
  .bind (uniform_writeDocument _ _ _) fun _ =>
    .bind (.ofExcept _) fun row => uniform_upsert (TrajectoryTables.putPoseGraph_mem row)

theorem uniform_persistResult (result : OptimizationOutcome R)
    (optimized : List (CovariantPoseNode R)) :
    UniformCall s₀ (persistResult env input result optimized) :=
  .bind (uniform_writeDocument _ _ _) fun _ =>
    .bind (.ofExcept _) fun row => uniform_upsert (TrajectoryTables.putOptimizationResult_mem row)

variable [DoubleArith R]

theorem uniform_optimizeEdge (optimizer : TrajectoryOptimizer R) (trajectory : Trajectory)
    (nodes : List (CovariantPoseNode R)) (edge : PoseGraphEdge R)
    (out : LoopClosureOptimizePipelineResult R) :
    UniformCall s₀ (optimizeEdge env input optimizer trajectory nodes edge out) :=
  .bind (uniform_persistGraph _) fun _ =>
    .bind (.ofExcept _) fun _ => .bind (uniform_persistResult _ _) fun _ => .pure _

theorem uniform_loopClosureOptimizePipeline :
    UniformCall s₀ (loopClosureOptimizePipeline env input) := by
  unfold loopClosureOptimizePipeline
  split
  · refine .ite (.bind (uniform_persistClosure _ _) fun _ => ?_) (.pure _)
    split
    · exact uniform_optimizeEdge _ _ _ _ _
    · exact .pure _
  · exact .pure _

end Uniform

/-! ## Whose rows they are

Every id that a call writes is made from the id of its closure, step by step
along the pipeline. -/

/-- The ids of the closure and of its trajectory are UUIDs. -/
def HasIds (closure : LoopClosure R) : Prop :=
  ∃ closureId trajectoryId, parseUuid closure.closureId = .ok closureId ∧
    parseUuid closure.trajectoryId = .ok trajectoryId

/-- All rows have the ids that belong to the closure. -/
structure OwnRows (closure : LoopClosure R) (tables : TrajectoryTables R) : Prop where
  loopClosures : ∀ row ∈ tables.loopClosures, parseUuid closure.closureId = .ok row.closureId
  poseGraphs : ∀ row ∈ tables.poseGraphs,
    HasIds closure ∧ row.graphId = nameUuid (graphName closure)
  optimizationResults : ∀ row ∈ tables.optimizationResults,
    HasIds closure ∧ row.resultId = nameUuid (resultName (graphIdOf closure))

theorem OwnRows.empty (closure : LoopClosure R) : OwnRows closure {} where
  loopClosures _ h := absurd h List.not_mem_nil
  poseGraphs _ h := absurd h List.not_mem_nil
  optimizationResults _ h := absurd h List.not_mem_nil

section Own

variable {env : OptimizePipelineEnv R} {input : LoopClosureOptimizePipelineInput R}
  {closure : LoopClosure R}

/-- The rows of a state. -/
abbrev KeepsOwn (closure : LoopClosure R) {α : Type} (x : PipelineCall R α) : Prop :=
  Persist.Keeps (fun s => OwnRows closure s.db.tables) x

theorem keepsOwn_upsert {write : TrajectoryTables R → TrajectoryTables R}
    (hwrite : ∀ tables, OwnRows closure tables → OwnRows closure (write tables)) :
    KeepsOwn closure (upsert (·.execute write)) := by
  refine Persist.Keeps.write fun s s' hs h => ?_
  dsimp only [TrajectoryDb.execute] at h
  split at h
  · cases h
  · cases h
    exact hwrite _ hs

theorem toLoopClosureRow_eq_ok {spatialSeparationM : R} {row : LoopClosureRow R}
    (h : toLoopClosureRow closure spatialSeparationM = .ok row) :
    HasIds closure ∧ parseUuid closure.closureId = .ok row.closureId := by
  unfold toLoopClosureRow at h
  obtain ⟨closureId, hclosure, h⟩ := bind_eq_ok h
  obtain ⟨trajectoryId, htrajectory, h⟩ := bind_eq_ok h
  obtain ⟨_, -, h⟩ := bind_eq_ok h
  obtain ⟨_, -, h⟩ := bind_eq_ok h
  obtain ⟨_, -, h⟩ := bind_eq_ok h
  cases h
  exact ⟨⟨closureId, trajectoryId, hclosure, htrajectory⟩, hclosure⟩

theorem toPoseGraphRow_eq_ok {g : PoseGraph} {hash : String} {row : PoseGraphRow}
    (h : toPoseGraphRow g hash = .ok row) : parseUuid g.graphId = .ok row.graphId := by
  unfold toPoseGraphRow at h
  obtain ⟨graphId, hgraph, h⟩ := bind_eq_ok h
  obtain ⟨_, -, h⟩ := bind_eq_ok h
  obtain ⟨_, -, h⟩ := bind_eq_ok h
  cases h
  exact hgraph

theorem toOptimizationResultRow_eq_ok {r : OptimizationOutcome R} {hash : String}
    {row : OptimizationResultRow R} (h : toOptimizationResultRow r hash = .ok row) :
    parseUuid r.resultId = .ok row.resultId := by
  unfold toOptimizationResultRow at h
  obtain ⟨resultId, hresult, h⟩ := bind_eq_ok h
  obtain ⟨_, -, h⟩ := bind_eq_ok h
  obtain ⟨_, -, h⟩ := bind_eq_ok h
  cases h
  exact hresult

/-- A computation and what is done with its result. -/
theorem keepsOwn_ofExcept_bind {α β : Type} {x : Except ProjectError α} {f : α → PipelineCall R β}
    (h : ∀ a, x = .ok a → KeepsOwn closure (f a)) : KeepsOwn closure (.ofExcept x >>= f) :=
  Persist.Keeps.bind_of_result (.ofExcept x) (fun _ _ _ _ hx => (Prod.ext_iff.mp hx).1) h

/-- The closure that a stage returns has the ids of the one that it was given. -/
theorem keepsOwn_persistClosure {staged : LoopClosure R} (hid : staged.closureId = closure.closureId)
    (spatialSeparationM : R) : KeepsOwn closure (persistClosure staged spatialSeparationM) := by
  refine keepsOwn_ofExcept_bind fun row hrow => keepsOwn_upsert fun tables htables => ?_
  refine { htables with loopClosures := fun other hother => ?_ }
  rcases mem_replaceRow hother with hold | rfl
  · exact htables.loopClosures other hold
  · rw [← hid]
    exact (toLoopClosureRow_eq_ok hrow).2

/-- A closure whose row is written has both ids. -/
theorem hasIds_of_persistClosure {staged : LoopClosure R} {spatialSeparationM : R}
    {s s' : PipelineState R} {u : Unit}
    (h : persistClosure staged spatialSeparationM s = (.ok u, s')) : HasIds staged := by
  obtain ⟨row, _, hrow, -⟩ := Persist.bind_eq_ok h
  exact (toLoopClosureRow_eq_ok (Prod.ext_iff.mp hrow).1).1

theorem keepsOwn_writeDocument (payload artifactType id : String) :
    KeepsOwn closure (writeDocument env input payload artifactType id) :=
  .ite (.bind ⟨fun _ hs => hs⟩ fun _ => .bind ⟨fun _ hs => hs⟩ fun _ =>
    .bind ⟨fun _ hs => hs⟩ fun _ => .pure _) (.pure id)

theorem keepsOwn_persistGraph {assembly : PoseGraphAssembly R} (hids : HasIds closure)
    (hgraph : assembly.graph.graphId = graphIdOf closure) :
    KeepsOwn closure (persistGraph env input assembly) := by
  refine .bind (keepsOwn_writeDocument _ _ _) fun hash => ?_
  refine keepsOwn_ofExcept_bind fun row hrow => keepsOwn_upsert fun tables htables => ?_
  refine { htables with poseGraphs := fun other hother => ?_ }
  rcases mem_replaceRow hother with hold | rfl
  · exact htables.poseGraphs other hold
  · have hread := toPoseGraphRow_eq_ok hrow
    rw [hgraph, graphIdOf, parseUuid_formatUuid] at hread
    exact ⟨hids, (Except.ok.inj hread).symm⟩

theorem keepsOwn_persistResult {result : OptimizationOutcome R}
    {optimized : List (CovariantPoseNode R)} (hids : HasIds closure)
    (hresult : result.resultId = resultIdOf (graphIdOf closure)) :
    KeepsOwn closure (persistResult env input result optimized) := by
  refine .bind (keepsOwn_writeDocument _ _ _) fun hash => ?_
  refine keepsOwn_ofExcept_bind fun row hrow => keepsOwn_upsert fun tables htables => ?_
  refine { htables with optimizationResults := fun other hother => ?_ }
  rcases mem_replaceRow hother with hold | rfl
  · exact htables.optimizationResults other hold
  · have hread := toOptimizationResultRow_eq_ok hrow
    rw [hresult, resultIdOf, parseUuid_formatUuid] at hread
    exact ⟨hids, (Except.ok.inj hread).symm⟩

variable [DoubleArith R]

theorem keepsOwn_optimizeEdge {optimizer : TrajectoryOptimizer R} {trajectory : Trajectory}
    {nodes : List (CovariantPoseNode R)} {edge : PoseGraphEdge R}
    {out : LoopClosureOptimizePipelineResult R} (hids : HasIds input.closure) :
    KeepsOwn input.closure (optimizeEdge env input optimizer trajectory nodes edge out) :=
  .bind (keepsOwn_persistGraph hids rfl) fun _ =>
    keepsOwn_ofExcept_bind fun _ _ => .bind (keepsOwn_persistResult hids rfl) fun _ => .pure _

theorem loopClosureToPoseGraph_closure (determinant : Vector R 36 → R)
    (stage : LoopClosureToPoseGraphInput R) : ∃ spatialSeparationM,
      (loopClosureToPoseGraph determinant stage).closure =
        { stage.closure with spatialSeparationM } := by
  unfold loopClosureToPoseGraph
  split
  · exact ⟨_, rfl⟩
  · dsimp only
    split
    · exact ⟨_, rfl⟩
    · split
      · exact ⟨_, rfl⟩
      · split
        · exact ⟨_, rfl⟩
        · exact ⟨_, rfl⟩

theorem keepsOwn_loopClosureOptimizePipeline :
    KeepsOwn input.closure (loopClosureOptimizePipeline env input) := by
  unfold loopClosureOptimizePipeline
  split
  · next trajectory nodes _ _ =>
    obtain ⟨_, hstaged⟩ := loopClosureToPoseGraph_closure env.determinant (stageInput input nodes)
    have hids : HasIds (loopClosureToPoseGraph env.determinant (stageInput input nodes)).closure →
        HasIds input.closure := by
      rw [hstaged]
      exact id
    refine .ite (.bind_of_result (C := fun _ => HasIds input.closure)
      (keepsOwn_persistClosure (by rw [hstaged]; rfl) _)
      (fun _ _ _ _ h => hids (hasIds_of_persistClosure h)) fun _ hclosure => ?_) (.pure _)
    split
    · exact keepsOwn_optimizeEdge hclosure
    · exact .pure _
  · exact .pure _

end Own

/-! ## Ids of different closures

The names that ids are made from contain the id of the closure behind a
separator that no id has, so different closures have different names. -/

section Ids

/-- A text that is read as a UUID has digits and hyphens only. -/
theorem mem_of_parseUuid {s : String} {u : Uuid} (h : parseUuid s = .ok u) {c : Char}
    (hc : c ∈ s.toList) : c = '-' ∨ (hexValue c).isSome := by
  obtain ⟨groups, htext, hhex, -⟩ := parseUuid_eq_ok.mp h
  rw [htext] at hc
  clear htext h
  induction groups with
  | nil => exact absurd hc List.not_mem_nil
  | cons group rest ih =>
      obtain ⟨hgroup, hrest⟩ := List.forall_mem_cons.mp hhex
      cases rest with
      | nil => exact .inr (hgroup c (by simpa [List.intercalate] using hc))
      | cons next rest =>
          have hsplit : ['-'].intercalate (group :: next :: rest) =
              group ++ '-' :: ['-'].intercalate (next :: rest) := rfl
          rw [hsplit, List.mem_append, List.mem_cons] at hc
          rcases hc with hc | rfl | hc
          · exact .inr (hgroup c hc)
          · exact .inl rfl
          · exact ih hc hrest

theorem bar_notMem_of_parseUuid {s : String} {u : Uuid} (h : parseUuid s = .ok u) :
    '|' ∉ s.toList := by
  intro hbar
  rcases mem_of_parseUuid h hbar with hhyphen | hdigit
  · cases hhyphen
  · exact absurd hdigit (by decide)

/-- The name of a graph shows whose it is. -/
theorem closureId_of_graphName {a b : LoopClosure R} (ha : HasIds a) (hb : HasIds b)
    (h : graphName a = graphName b) : a.closureId = b.closureId := by
  obtain ⟨-, _, -, htrajectory⟩ := ha
  obtain ⟨-, _, -, htrajectory'⟩ := hb
  have hchars := congrArg String.toList h
  simp only [graphName, String.toList_append, List.append_assoc] at hchars
  have hnames : a.trajectoryId.toList ++ '|' :: a.closureId.toList =
      b.trajectoryId.toList ++ '|' :: b.closureId.toList := List.append_cancel_left hchars
  exact String.toList_injective (append_sep_inj (bar_notMem_of_parseUuid htrajectory)
    (bar_notMem_of_parseUuid htrajectory') hnames).2

/-- The ids of the closures are those of different UUIDs. -/
def Distinct (a b : LoopClosure R) : Prop :=
  ∀ u, parseUuid a.closureId = .ok u → parseUuid b.closureId ≠ .ok u

theorem Distinct.closureId_ne {a b : LoopClosure R} (h : Distinct a b) (ha : HasIds a) :
    a.closureId ≠ b.closureId := by
  intro heq
  obtain ⟨u, -, hu, -⟩ := ha
  exact h u hu (heq ▸ hu)

/-- The names that a run makes ids from. -/
def derivedNames (inputs : List (LoopClosureOptimizePipelineInput R)) : Set String :=
  { name | ∃ input ∈ inputs, name = graphName input.closure ∨
    name = resultName (graphIdOf input.closure) }

/-- Different closures have no id in common, if different names have not. -/
theorem OwnRows.apart {inputs : List (LoopClosureOptimizePipelineInput R)}
    (hnames : Set.InjOn nameUuid (derivedNames inputs)) {i j : LoopClosureOptimizePipelineInput R}
    (hi : i ∈ inputs) (hj : j ∈ inputs) (hdistinct : Distinct i.closure j.closure)
    {a b : TrajectoryTables R} (ha : OwnRows i.closure a) (hb : OwnRows j.closure b) :
    a.Apart b := by
  have hgraph : HasIds i.closure → HasIds j.closure →
      nameUuid (graphName i.closure) ≠ nameUuid (graphName j.closure) := by
    intro hi' hj' heq
    exact hdistinct.closureId_ne hi' (closureId_of_graphName hi' hj'
      (hnames ⟨i, hi, .inl rfl⟩ ⟨j, hj, .inl rfl⟩ heq))
  constructor
  · intro row hrow row' hrow' heq
    exact hdistinct row.closureId (ha.loopClosures row hrow) (heq ▸ hb.loopClosures row' hrow')
  · intro row hrow row' hrow' heq
    obtain ⟨hi', hid⟩ := ha.poseGraphs row hrow
    obtain ⟨hj', hid'⟩ := hb.poseGraphs row' hrow'
    exact hgraph hi' hj' (hid.symm.trans (heq.trans hid'))
  · intro row hrow row' hrow' heq
    obtain ⟨hi', hid⟩ := ha.optimizationResults row hrow
    obtain ⟨hj', hid'⟩ := hb.optimizationResults row' hrow'
    have hname : resultName (graphIdOf i.closure) = resultName (graphIdOf j.closure) :=
      hnames ⟨i, hi, .inr rfl⟩ ⟨j, hj, .inr rfl⟩ (hid.symm.trans (heq.trans hid'))
    have htext : graphIdOf i.closure = graphIdOf j.closure := by
      have hchars := congrArg String.toList hname
      simp only [resultName, String.toList_append] at hchars
      exact String.toList_injective (List.append_cancel_left hchars)
    exact hgraph hi' hj' (formatUuid_injective htext)

end Ids

/-! ## Runs

The calls for several closures, one after the other. By induction over the
closures, the rows of a closure are there in the end, since later calls have no
id in common with them. -/

section Runs

variable [DoubleArith R] (env : OptimizePipelineEnv R)

/-- The calls for some closures, one after the other, each also after one that threw. -/
def optimizeClosures (inputs : List (LoopClosureOptimizePipelineInput R)) (s : PipelineState R) :
    PipelineState R :=
  Persist.runs (loopClosureOptimizePipeline env) inputs s

/-- The rows that a call stores: what it leaves in empty tables. -/
def stored (s : PipelineState R) (input : LoopClosureOptimizePipelineInput R) : TrajectoryTables R :=
  (loopClosureOptimizePipeline env input { s with db.tables := {} }).2.db.tables

variable {env}

theorem ownRows_stored (s : PipelineState R) (input : LoopClosureOptimizePipelineInput R) :
    OwnRows input.closure (stored env s input) :=
  keepsOwn_loopClosureOptimizePipeline.state { s with db.tables := {} } (.empty _)

variable (env) in
/-- From any state like `s₀`, a call puts the rows that it stores into the tables. -/
theorem exists_replacement (s₀ : PipelineState R) (input : LoopClosureOptimizePipelineInput R) :
    ∃ f ∈ TrajectoryTables.replacements R, f {} = stored env s₀ input ∧ ∀ s, Steady s₀ s →
      Steady s₀ (loopClosureOptimizePipeline env input s).2 ∧
        (loopClosureOptimizePipeline env input s).2.db.tables = f s.db.tables := by
  have huniform : UniformCall s₀ (loopClosureOptimizePipeline env input) :=
    uniform_loopClosureOptimizePipeline
  obtain ⟨_, f, hf, hcall⟩ := huniform
  refine ⟨f, hf, ?_, fun s hs => (hcall s hs).2⟩
  exact (hcall { s₀ with db.tables := {} } ⟨rfl, rfl, fun _ => rfl⟩).2.2.symm

/-- Later calls keep the rows that they have no id in common with. -/
theorem contains_optimizeClosures {s₀ : PipelineState R} {kept : TrajectoryTables R}
    {inputs : List (LoopClosureOptimizePipelineInput R)}
    (hapart : ∀ input ∈ inputs, (stored env s₀ input).Apart kept) {s : PipelineState R}
    (hs : Steady s₀ s) (hkept : s.db.tables.Contains kept) :
    (optimizeClosures env inputs s).db.tables.Contains kept := by
  induction inputs generalizing s with
  | nil => exact hkept
  | cons input inputs ih =>
      obtain ⟨hother, hrest⟩ := List.forall_mem_cons.mp hapart
      obtain ⟨f, hf, hstored, hcall⟩ := exists_replacement env s₀ input
      obtain ⟨hs', htables⟩ := hcall s hs
      refine ih hrest hs' ?_
      rw [htables]
      exact TrajectoryTables.contains_old hf hkept (hstored ▸ hother)

/-- The rows of all closures are there in the end. -/
theorem contains_stored {s₀ : PipelineState R} {inputs : List (LoopClosureOptimizePipelineInput R)}
    (hapart : inputs.Pairwise fun i j => (stored env s₀ j).Apart (stored env s₀ i))
    {s : PipelineState R} (hs : Steady s₀ s) :
    ∀ input ∈ inputs, (optimizeClosures env inputs s).db.tables.Contains (stored env s₀ input) := by
  induction inputs generalizing s with
  | nil => exact fun _ h => absurd h List.not_mem_nil
  | cons first inputs ih =>
      obtain ⟨hfirst, hrest⟩ := List.pairwise_cons.mp hapart
      obtain ⟨f, hf, hstored, hcall⟩ := exists_replacement env s₀ first
      obtain ⟨hs', htables⟩ := hcall s hs
      refine List.forall_mem_cons.mpr ⟨contains_optimizeClosures hfirst hs' ?_, ih hrest hs'⟩
      rw [htables, ← hstored]
      exact TrajectoryTables.contains_new hf _

omit [DoubleArith R] in
/-- Names with different UUIDs. -/
theorem injOn_derivedNames {inputs : List (LoopClosureOptimizePipelineInput R)}
    (h : ((inputs.flatMap fun input => [graphName input.closure,
      resultName (graphIdOf input.closure)]).map nameUuid).Nodup) :
    Set.InjOn nameUuid (derivedNames inputs) := by
  have hmem : ∀ name ∈ derivedNames inputs, name ∈ inputs.flatMap fun input =>
      [graphName input.closure, resultName (graphIdOf input.closure)] := by
    rintro name ⟨input, hinput, hname⟩
    exact List.mem_flatMap.mpr ⟨input, hinput, by simpa using hname⟩
  intro name hname name' hname' heq
  exact List.inj_on_of_nodup_map h (hmem name hname) (hmem name' hname') heq

/-- Two closures between the same two frames, one metre apart. -/
def twoClosures : List (LoopClosureOptimizePipelineInput Rat) :=
  ["00000000-0000-0000-0000-0000000000c1", "00000000-0000-0000-0000-0000000000c2"].map fun closureId =>
    { trajectory := some
        { trajectoryId := "00000000-0000-0000-0000-0000000000e1"
          sceneId := "00000000-0000-0000-0000-0000000000e2" }
      trajectoryNodes := some [
        { frameId := "00000000-0000-0000-0000-0000000000f0", positionXyz := .triple 0 0 0
          rotationXyzw := .quadruple 0 0 0 1, covariancePosition := .replicate 6 0
          covarianceRotation := .replicate 6 0 },
        { frameId := "00000000-0000-0000-0000-0000000000f1", positionXyz := .triple 1 0 0
          rotationXyzw := .quadruple 0 0 0 1, covariancePosition := .replicate 6 0
          covarianceRotation := .replicate 6 0 }]
      closure :=
        { (sampleClosureInput true).closure with
          closureId
          trajectoryId := "00000000-0000-0000-0000-0000000000e1"
          sourceFrameId := "00000000-0000-0000-0000-0000000000f0"
          targetFrameId := "00000000-0000-0000-0000-0000000000f1" }
      metricBasis := (sampleClosureInput true).metricBasis
      optimizer := some fun input => .ok
        { optimizedNodes := input.initialNodes
          trace := { initialError := 1, finalError := 0, errorReduction := 1, status := "converged" } }
      hasDb := true
      hasStore := false
      odometryInfoPosition := 100
      odometryInfoRotation := 100 }

/-- A build without documents. -/
def sampleEnv : OptimizePipelineEnv Rat where
  determinant := diagonalDeterminant
  json := ⟨fun _ => .error (.parseError "syntax error"), fun _ _ => ""⟩
  number q := .float (Float.ofInt q.num / Float.ofNat q.den)

/-- An empty project. -/
def sampleState : PipelineState Rat where
  db := {}
  store := {}
  random n := ⟨BitVec.ofNat 128 (n + 1)⟩

end Runs

end SpatialPlatform.Engine
