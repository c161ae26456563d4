import SpatialPlatform.Engine.Pipeline.PipelineCompiler

/-!
# Execution manifests

`engine/pipeline/execution_manifest.cpp` over the two tables of
`0004_execution_manifest.sql`, without the times. The store carries what SQLite
checks: both primary keys, and that every stage belongs to a manifest.

* `Holds` — a manifest with its stages in order; each operation says what it
  makes of one, and leaves the others alone.
-/

namespace SpatialPlatform.Engine

open SpatialPlatform.Core SpatialPlatform.Lib

/-! ## The tables

Two tables, one for runs and one for their stages. Lists of refs are texts in
them. -/

/-- One row of `execution_manifests`. -/
structure ManifestRow where
  manifestId : Uuid
  pipelineId : String
  pipelineVersion : String
  pipelineHash : String
  configHash : String
  gitCommit : String
  status : String := "running"
  externalInputsJson : String
  qualityReportId : Option Uuid := none
  deriving DecidableEq, Repr

/-- One row of `execution_manifest_stages`. -/
structure StageRow where
  manifestId : Uuid
  sequence : Nat
  stageId : String
  capability : String
  implementation : String
  taskHash : String
  status : String := "pending"
  cacheHit : Bool := false
  taskId : Uuid
  outputRefsJson : String := "[]"
  deriving DecidableEq, Repr

/-- The primary key of a stage. -/
def StageRow.key (row : StageRow) : Uuid × Nat := (row.manifestId, row.sequence)

/-- `ExecutionManifestStage`. -/
structure ExecutionManifestStage where
  sequence : Nat
  stageId : String
  capability : String
  implementation : String
  taskHash : String
  status : String
  cacheHit : Bool
  taskId : Uuid
  outputRefs : List ArtifactRef
  deriving DecidableEq, Repr

/-- `ExecutionManifest`. -/
structure ExecutionManifest where
  manifestId : Uuid
  pipelineId : String
  pipelineVersion : String
  pipelineHash : String
  configHash : String
  gitCommit : String
  status : String
  externalInputs : List ArtifactRef
  qualityReportId : Option Uuid
  stages : List ExecutionManifestStage
  deriving DecidableEq, Repr

/-- `ExecutionManifestStore`: the rows in the order of their insertion. -/
structure ExecutionManifestStore where
  manifests : List ManifestRow
  stages : List StageRow
  nodup_manifests : (manifests.map ManifestRow.manifestId).Nodup
  nodup_stages : (stages.map StageRow.key).Nodup
  foreign : ∀ row ∈ stages, row.manifestId ∈ manifests.map ManifestRow.manifestId

/-- `JoinJson`. -/
def joinJson (json : JsonLibrary) (refs : List ArtifactRef) : String :=
  json.dump none (.arr (refs.map .str))

/-- `ParseRefs`, of a column that is not null. -/
def parseRefs (json : JsonLibrary) (text : String) : List ArtifactRef :=
  match json.parse text with
  | .ok (.arr items) => items.filterMap fun item => item.getString.toOption
  | _ => []

namespace ExecutionManifestStore

/-- No runs yet. -/
def empty : ExecutionManifestStore where
  manifests := []
  stages := []
  nodup_manifests := List.nodup_nil
  nodup_stages := List.nodup_nil
  foreign := by simp

/-! ## Operations

Each call of the store, as what it does to the rows; an update of a row that
does not exist is none. -/

/-- The row that `Begin` inserts. -/
def header (json : JsonLibrary) (plan : ExecutionPlan) : ManifestRow where
  manifestId := plan.jobId
  pipelineId := plan.pipelineId
  pipelineVersion := plan.pipelineVersion
  pipelineHash := plan.pipelineHash
  configHash := plan.configHash
  gitCommit := plan.gitCommit
  externalInputsJson := joinJson json plan.externalInputs

/-- `Begin`. -/
def begin (json : JsonLibrary) (s : ExecutionManifestStore) (plan : ExecutionPlan) :
    Except ProjectError ExecutionManifestStore :=
  if h : plan.jobId ∈ s.manifests.map ManifestRow.manifestId then
    .error ⟨.schedPersistence, "cannot insert manifest header: UNIQUE constraint failed: " ++
      "execution_manifests.manifest_id"⟩
  else
    .ok { s with
      manifests := s.manifests ++ [header json plan]
      nodup_manifests := by
        rw [List.map_append, List.map_singleton]
        exact s.nodup_manifests.append (List.nodup_singleton _) (List.disjoint_singleton.mpr h)
      foreign := by
        intro row hrow
        rw [List.map_append]
        exact List.mem_append_left _ (s.foreign row hrow) }

/-- The row that `InsertStage` inserts. -/
def stageRow (manifestId : Uuid) (stage : PlanStage) (sequence : Nat) : StageRow where
  manifestId := manifestId
  sequence := sequence
  stageId := stage.stageId
  capability := stage.capability
  implementation := stage.implementation
  taskHash := stage.taskHash
  taskId := stage.taskId

/-- `InsertStage`. -/
def insertStage (s : ExecutionManifestStore) (manifestId : Uuid) (stage : PlanStage) (sequence : Nat) :
    Except ProjectError ExecutionManifestStore :=
  if hkey : (manifestId, sequence) ∈ s.stages.map StageRow.key then
    .error ⟨.schedPersistence, "cannot insert manifest stage: UNIQUE constraint failed: " ++
      "execution_manifest_stages.manifest_id, execution_manifest_stages.sequence"⟩
  else if hforeign : manifestId ∈ s.manifests.map ManifestRow.manifestId then
    .ok { s with
      stages := s.stages ++ [stageRow manifestId stage sequence]
      nodup_stages := by
        rw [List.map_append, List.map_singleton]
        exact s.nodup_stages.append (List.nodup_singleton _) (List.disjoint_singleton.mpr hkey)
      foreign := by
        intro row hrow
        rcases List.mem_append.mp hrow with hrow | hrow
        · exact s.foreign row hrow
        · obtain rfl := List.mem_singleton.mp hrow
          exact hforeign }
  else .error ⟨.schedPersistence, "cannot insert manifest stage: FOREIGN KEY constraint failed"⟩

/-- Rewrite the rows of the stages, under their keys. -/
def mapStages (s : ExecutionManifestStore) (f : StageRow → StageRow) (hf : ∀ row, (f row).key = row.key) :
    ExecutionManifestStore where
  manifests := s.manifests
  stages := s.stages.map f
  nodup_manifests := s.nodup_manifests
  nodup_stages := by
    rw [List.map_map, show StageRow.key ∘ f = StageRow.key from funext hf]
    exact s.nodup_stages
  foreign := by
    intro row hrow
    obtain ⟨old, hold, rfl⟩ := List.mem_map.mp hrow
    rw [show (f old).manifestId = old.manifestId from congrArg Prod.fst (hf old)]
    exact s.foreign old hold

/-- Rewrite the row of a manifest, under its key. -/
def mapManifest (s : ExecutionManifestStore) (manifestId : Uuid) (f : ManifestRow → ManifestRow)
    (hf : ∀ row, (f row).manifestId = row.manifestId) : ExecutionManifestStore :=
  have hids : (s.manifests.map fun row => if row.manifestId = manifestId then f row else row).map
      ManifestRow.manifestId = s.manifests.map ManifestRow.manifestId := by
    rw [List.map_map]
    refine List.map_congr_left fun row _ => ?_
    show (if row.manifestId = manifestId then f row else row).manifestId = row.manifestId
    split
    · exact hf row
    · rfl
  { manifests := s.manifests.map fun row => if row.manifestId = manifestId then f row else row
    stages := s.stages
    nodup_manifests := by
      rw [hids]
      exact s.nodup_manifests
    nodup_stages := s.nodup_stages
    foreign := by
      rw [hids]
      exact s.foreign }

/-- What `UpdateStage` writes. -/
def updateRow (json : JsonLibrary) (manifestId : Uuid) (sequence : Nat) (status : TaskStatus)
    (cacheHit : Bool) (outputRefs : List ArtifactRef) (row : StageRow) : StageRow :=
  if row.key = (manifestId, sequence) then
    { row with
      status := status.name
      cacheHit := cacheHit
      outputRefsJson := joinJson json outputRefs }
  else row

/-- `UpdateStage`. -/
def updateStage (json : JsonLibrary) (s : ExecutionManifestStore) (manifestId : Uuid) (sequence : Nat)
    (status : TaskStatus) (cacheHit : Bool) (outputRefs : List ArtifactRef) : ExecutionManifestStore :=
  s.mapStages (updateRow json manifestId sequence status cacheHit outputRefs) (by
    intro row
    unfold updateRow
    split <;> rfl)

/-- `Finish`. -/
def finish (s : ExecutionManifestStore) (manifestId : Uuid) (pipelineStatus : TaskStatus) :
    ExecutionManifestStore :=
  s.mapManifest manifestId (fun row => { row with status := pipelineStatus.name }) fun _ => rfl

/-- `SetQualityReportId`. -/
def setQualityReportId (s : ExecutionManifestStore) (manifestId artifactUuid : Uuid) :
    ExecutionManifestStore :=
  s.mapManifest manifestId (fun row => { row with qualityReportId := some artifactUuid }) fun _ => rfl

/-- One row, read back. -/
def readStage (json : JsonLibrary) (row : StageRow) : ExecutionManifestStage where
  sequence := row.sequence
  stageId := row.stageId
  capability := row.capability
  implementation := row.implementation
  taskHash := row.taskHash
  status := row.status
  cacheHit := row.cacheHit
  taskId := row.taskId
  outputRefs := parseRefs json row.outputRefsJson

/-- A manifest, read back with its stages in the order of their sequence numbers. -/
def readManifest (json : JsonLibrary) (row : ManifestRow) (stages : List StageRow) :
    ExecutionManifest where
  manifestId := row.manifestId
  pipelineId := row.pipelineId
  pipelineVersion := row.pipelineVersion
  pipelineHash := row.pipelineHash
  configHash := row.configHash
  gitCommit := row.gitCommit
  status := row.status
  externalInputs := parseRefs json row.externalInputsJson
  qualityReportId := row.qualityReportId
  stages := (stages.insertionSort (·.sequence ≤ ·.sequence)).map (readStage json)

/-- `Load`. -/
def load (json : JsonLibrary) (s : ExecutionManifestStore) (manifestId : Uuid) :
    Option ExecutionManifest :=
  (s.manifests.find? (·.manifestId = manifestId)).map fun row =>
    readManifest json row (s.stages.filter (·.manifestId = manifestId))

/-! ## One manifest and the others

`Holds` says what is stored under an id, `SameBut` that every other manifest is
loaded as before. Each call of the store is described by the two together, so a
sequence of calls is followed by rewriting. -/

/-- The store has this manifest, with these stages. -/
structure Holds (s : ExecutionManifestStore) (manifestId : Uuid) (row : ManifestRow)
    (rows : List StageRow) : Prop where
  manifest : s.manifests.find? (·.manifestId = manifestId) = some row
  stages : s.stages.filter (·.manifestId = manifestId) = rows

/-- All manifests but one are loaded as before. -/
def SameBut (json : JsonLibrary) (s s' : ExecutionManifestStore) (manifestId : Uuid) : Prop :=
  ∀ other ≠ manifestId, s'.load json other = s.load json other

theorem SameBut.trans {json : JsonLibrary} {s s' s'' : ExecutionManifestStore} {manifestId : Uuid}
    (h : SameBut json s s' manifestId) (h' : SameBut json s' s'' manifestId) :
    SameBut json s s'' manifestId :=
  fun other hne => (h' other hne).trans (h other hne)

variable {json : JsonLibrary} {s s' : ExecutionManifestStore} {manifestId : Uuid} {row : ManifestRow}
  {rows : List StageRow}

theorem Holds.mem (h : s.Holds manifestId row rows) :
    manifestId ∈ s.manifests.map ManifestRow.manifestId := by
  have hid : row.manifestId = manifestId := by simpa using List.find?_some h.manifest
  exact List.mem_map.mpr ⟨row, List.mem_of_find?_eq_some h.manifest, hid⟩

theorem Holds.mem_rows (h : s.Holds manifestId row rows) {r : StageRow} :
    r ∈ rows ↔ r ∈ s.stages ∧ r.manifestId = manifestId := by
  rw [← h.stages, List.mem_filter, decide_eq_true_iff]

/-- A manifest whose stages are in order is loaded as it stands. -/
theorem Holds.load_eq (h : s.Holds manifestId row rows)
    (hsorted : rows.Pairwise (·.sequence ≤ ·.sequence)) :
    s.load json manifestId = some { readManifest json row [] with stages := rows.map (readStage json) } := by
  rw [load, h.manifest, h.stages, Option.map_some]
  unfold readManifest
  rw [hsorted.insertionSort_eq]

theorem begin_spec {plan : ExecutionPlan} (hbegin : s.begin json plan = .ok s') :
    s'.Holds plan.jobId (header json plan) [] ∧ SameBut json s s' plan.jobId := by
  unfold begin at hbegin
  split at hbegin
  · cases hbegin
  · next hnew =>
      cases hbegin
      have hnone : s.manifests.find? (·.manifestId = plan.jobId) = none := by
        rw [List.find?_eq_none]
        intro row hrow hid
        exact hnew (List.mem_map.mpr ⟨row, hrow, of_decide_eq_true hid⟩)
      refine ⟨⟨?_, ?_⟩, fun other hne => ?_⟩
      · rw [List.find?_append, hnone, Option.none_or, List.find?_cons_of_pos (by simp [header])]
      · rw [List.filter_eq_nil_iff]
        intro row hrow hid
        exact hnew (of_decide_eq_true hid ▸ s.foreign row hrow)
      · have hskip : (header json plan).manifestId ≠ other := fun heq => hne heq.symm
        simp only [load]
        rw [List.find?_append, List.find?_cons_of_neg (by simpa using hskip), List.find?_nil,
          Option.or_none]

theorem insertStage_spec (h : s.Holds manifestId row rows) (stage : PlanStage) {sequence : Nat}
    (hnew : ∀ r ∈ rows, r.sequence ≠ sequence) :
    ∃ s', s.insertStage manifestId stage sequence = .ok s' ∧
      s'.Holds manifestId row (rows ++ [stageRow manifestId stage sequence]) ∧
        SameBut json s s' manifestId := by
  have hkey : (manifestId, sequence) ∉ s.stages.map StageRow.key := by
    intro hmem
    obtain ⟨r, hr, heq⟩ := List.mem_map.mp hmem
    have hboth : r.manifestId = manifestId ∧ r.sequence = sequence := by
      simpa [StageRow.key] using heq
    exact hnew r (h.mem_rows.mpr ⟨hr, hboth.1⟩) hboth.2
  unfold insertStage
  rw [dif_neg hkey, dif_pos h.mem]
  refine ⟨_, rfl, ⟨h.manifest, ?_⟩, fun other hne => ?_⟩
  · rw [List.filter_append, h.stages, List.filter_cons_of_pos (by simp [stageRow]), List.filter_nil]
  · have hskip : (stageRow manifestId stage sequence).manifestId ≠ other := fun heq => hne heq.symm
    simp only [load]
    rw [List.filter_append, List.filter_cons_of_neg (by simpa using hskip), List.filter_nil,
      List.append_nil]

theorem filter_mapStages {f : StageRow → StageRow} (hf : ∀ row, (f row).key = row.key) (id : Uuid) :
    (s.mapStages f hf).stages.filter (·.manifestId = id) =
      (s.stages.filter (·.manifestId = id)).map f := by
  have hid : ∀ row, (f row).manifestId = row.manifestId := fun row => congrArg Prod.fst (hf row)
  simp only [mapStages, List.filter_map, Function.comp_def, hid]

theorem updateStage_spec (h : s.Holds manifestId row rows) (sequence : Nat) (status : TaskStatus)
    (cacheHit : Bool) (outputRefs : List ArtifactRef) :
    let s' := s.updateStage json manifestId sequence status cacheHit outputRefs
    s'.Holds manifestId row
        (rows.map (updateRow json manifestId sequence status cacheHit outputRefs)) ∧
      SameBut json s s' manifestId := by
  refine ⟨⟨h.manifest, ?_⟩, fun other hne => ?_⟩
  · rw [updateStage, filter_mapStages, h.stages]
  · unfold load
    rw [updateStage, filter_mapStages]
    have hkept : (s.stages.filter (·.manifestId = other)).map
        (updateRow json manifestId sequence status cacheHit outputRefs) =
          s.stages.filter (·.manifestId = other) := by
      conv_rhs => rw [← List.map_id (s.stages.filter (·.manifestId = other))]
      refine List.map_congr_left fun r hr => ?_
      have hr' : r.manifestId = other := of_decide_eq_true (List.mem_filter.mp hr).2
      refine if_neg fun hkey => hne ?_
      rw [← hr']
      exact congrArg Prod.fst hkey
    rw [hkept]
    rfl

theorem mapManifest_spec (h : s.Holds manifestId row rows) {f : ManifestRow → ManifestRow}
    (hf : ∀ row, (f row).manifestId = row.manifestId) :
    (s.mapManifest manifestId f hf).Holds manifestId (f row) rows ∧
      SameBut json s (s.mapManifest manifestId f hf) manifestId := by
  have hfind : ∀ id, (s.mapManifest manifestId f hf).manifests.find? (·.manifestId = id) =
      (s.manifests.find? (·.manifestId = id)).map fun row =>
        if row.manifestId = manifestId then f row else row := by
    intro id
    have hid : ∀ row : ManifestRow, (if row.manifestId = manifestId then f row else row).manifestId =
        row.manifestId := by
      intro row
      split
      · exact hf row
      · rfl
    simp only [mapManifest, List.find?_map, Function.comp_def, hid]
  refine ⟨⟨?_, h.stages⟩, fun other hne => ?_⟩
  · have hid : row.manifestId = manifestId := by simpa using List.find?_some h.manifest
    rw [hfind, h.manifest, Option.map_some, if_pos hid]
  · unfold load
    rw [hfind]
    cases hother : s.manifests.find? (·.manifestId = other) with
    | none => rfl
    | some found =>
        have hid : found.manifestId = other := by simpa using List.find?_some hother
        rw [Option.map_some, if_neg (hid ▸ hne)]
        rfl

end ExecutionManifestStore

end SpatialPlatform.Engine
