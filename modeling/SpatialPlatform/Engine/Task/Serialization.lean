import SpatialPlatform.Core.JsonAccess
import SpatialPlatform.Core.UuidText
import SpatialPlatform.Engine.Task.Calls

/-!
# Task graphs as JSON

`engine/task/task_serialization.cpp`. The reader puts the graph together again
with `AddTask` and `AddDependency`, task after task, and adds the dependencies
of a task right after it. So it throws on a dependency that stands behind its
dependent in the document.
-/

namespace SpatialPlatform.Engine

open SpatialPlatform.Core

/-! ## All fields of a task

The scheduler's task and the fields that it does not read. A value that fits its
type is representable. -/

inductive CancellationPolicy where
  | cooperative
  | bestEffort
  deriving DecidableEq, Repr

/-- The fields of an instance that the scheduler does not read. -/
structure TaskDetails where
  -- `definition`
  inputKinds : List String := []
  allowExternal : Bool := false
  outputKinds : List String := []
  parametersSchemaJson : String := ""
  -- `metadata.retry`
  baseNs : Int64 := 1000000000
  multiplier : Float := 2
  maxNs : Int64 := 60000000000
  -- `metadata`
  cancellation : CancellationPolicy := .cooperative
  createdAtNs : Int64 := 0
  updatedAtNs : Int64 := 0

/-- The value of an `int`. -/
def IsInt32 (n : Int) : Prop := -2 ^ 31 ≤ n ∧ n < 2 ^ 31

/-- The value of a `std::int64_t`. -/
def IsInt64 (n : Int) : Prop := -2 ^ 63 ≤ n ∧ n < 2 ^ 63

instance (n : Int) : Decidable (IsInt32 n) := inferInstanceAs (Decidable (_ ∧ _))

instance (n : Int) : Decidable (IsInt64 n) := inferInstanceAs (Decidable (_ ∧ _))

/-- Every number of the instance has a value of its type. -/
structure TaskInstance.Representable (t : TaskInstance) : Prop where
  cores : IsInt32 t.definition.requirements.cores
  ramBytes : IsInt64 t.definition.requirements.ramBytes
  gpus : IsInt32 t.definition.requirements.gpus
  gpuMemBytes : IsInt64 t.definition.requirements.gpuMemBytes
  tempDiskBytes : IsInt64 t.definition.requirements.tempDiskBytes
  maxAttempts : IsInt32 t.metadata.retry.maxAttempts
  attempts : IsInt32 t.metadata.attempts

/-- A graph with all fields of its tasks. -/
structure DetailedGraph extends TaskGraph where
  details : Uuid → TaskDetails

namespace DetailedGraph

def empty (jobId : Uuid) : DetailedGraph where
  toTaskGraph := .empty jobId
  details _ := {}

/-- `AddTask`. -/
def addTask (g : DetailedGraph) (fresh : Uuid) (task : TaskInstance) (details : TaskDetails) :
    Except ProjectError DetailedGraph :=
  match g.toTaskGraph.addTask fresh task with
  | .error e => .error e
  | .ok (graph, id) =>
      .ok { toTaskGraph := graph, details := Function.update g.details id details }

/-- `AddDependency`. -/
def addDependency (g : DetailedGraph) (taskId dependencyId : Uuid) :
    Except ProjectError DetailedGraph :=
  match g.toTaskGraph.addDependency taskId dependencyId with
  | .error e => .error e
  | .ok graph => .ok { toTaskGraph := graph, details := g.details }

end DetailedGraph

/-! ## Names

Each enumeration has its names, and a name is read as what it stands for. -/

/-- `ParseTaskStatus`. -/
def TaskStatus.parse (text : String) : Except ProjectError TaskStatus :=
  match [TaskStatus.pending, .running, .succeeded, .failed, .cancelled, .skipped].find?
      (text = ·.name) with
  | some status => .ok status
  | none => .error ⟨.validationDomain, "unknown task status: " ++ text⟩

/-- `CancellationPolicyToString`. -/
def CancellationPolicy.name : CancellationPolicy → String
  | bestEffort => "best_effort"
  | cooperative => "cooperative"

/-- `CancellationPolicyFromString`. -/
def CancellationPolicy.parse (text : String) : Except ProjectError CancellationPolicy :=
  if text = "best_effort" then .ok .bestEffort
  else if text = "cooperative" then .ok .cooperative
  else .error ⟨.validationDomain, "unknown cancellation policy: " ++ text⟩

/-- `CachePolicyToString`. -/
def CachePolicy.name : CachePolicy → String
  | never => "never"
  | cacheable => "cacheable"

/-- `CachePolicyFromString`. -/
def CachePolicy.parse (text : String) : Except ProjectError CachePolicy :=
  if text = "never" then .ok .never
  else if text = "cacheable" then .ok .cacheable
  else .error ⟨.validationDomain, "unknown cache policy: " ++ text⟩

/-- `FailurePolicyToString`. -/
def FailurePolicy.name : FailurePolicy → String
  | failed => "failed"
  | skipped => "skipped"

/-- `FailurePolicyFromString`. -/
def FailurePolicy.parse (text : String) : Except ProjectError FailurePolicy :=
  if text = "failed" then .ok .failed
  else if text = "skipped" then .ok .skipped
  else .error ⟨.validationDomain, "unknown failure policy: " ++ text⟩

theorem TaskStatus.parse_name (status : TaskStatus) : TaskStatus.parse status.name = .ok status := by
  cases status <;> rfl

theorem CancellationPolicy.parse_name (policy : CancellationPolicy) :
    CancellationPolicy.parse policy.name = .ok policy := by
  cases policy <;> rfl

theorem CachePolicy.parse_name (policy : CachePolicy) :
    CachePolicy.parse policy.name = .ok policy := by
  cases policy <;> rfl

theorem FailurePolicy.parse_name (policy : FailurePolicy) :
    FailurePolicy.parse policy.name = .ok policy := by
  cases policy <;> rfl

/-! ## Writing

The members of each part; a number that JSON has no text for is printed as null. -/

/-- `ResourceSpecToJson`. -/
def ResourceSpec.members (spec : ResourceSpec) : List (String × Json) :=
  [("cores", .int spec.cores),
    ("ram_bytes", .int spec.ramBytes),
    ("gpus", .int spec.gpus),
    ("gpu_mem_bytes", .int spec.gpuMemBytes),
    ("temp_disk_bytes", .int spec.tempDiskBytes)]

/-- What is read back for a `double`: `dump` prints `null` for the infinities and NaN. -/
def printedNumber (x : Float) : Json := if x.isFinite then .float x else .null

section writing

variable (number : Float → Json) (t : TaskInstance) (d : TaskDetails)

/-- `RetryPolicyToJson`, with what stands for a `double`. -/
def retryMembers : List (String × Json) :=
  [("max_attempts", .int t.metadata.retry.maxAttempts),
    ("base_ns", .int d.baseNs.toInt),
    ("multiplier", number d.multiplier),
    ("max_ns", .int d.maxNs.toInt)]

/-- `definition.inputs`. -/
def inputsMembers : List (String × Json) :=
  [("artifact_kinds", .arr (d.inputKinds.map .str)), ("allow_external", .bool d.allowExternal)]

/-- `definition.outputs`. -/
def outputsMembers : List (String × Json) := [("artifact_kinds", .arr (d.outputKinds.map .str))]

/-- `definition`. -/
def definitionMembers : List (String × Json) :=
  [("type", .str t.definition.type),
    ("inputs", .object (inputsMembers d)),
    ("outputs", .object (outputsMembers d)),
    ("parameters_schema_json", .str d.parametersSchemaJson),
    ("requirements", .object t.definition.requirements.members)]

/-- `metadata`. -/
def metadataMembers : List (String × Json) :=
  [("retry", .object (retryMembers number t d)),
    ("cancellation", .str d.cancellation.name),
    ("cache", .str t.metadata.cache.name),
    ("failure", .str t.metadata.failure.name),
    ("deterministic", .bool t.metadata.deterministic),
    ("attempts", .int t.metadata.attempts),
    ("created_at_ns", .int d.createdAtNs.toInt),
    ("updated_at_ns", .int d.updatedAtNs.toInt)]

/-- The members of a task. -/
def taskMembers : List (String × Json) :=
  [("id", .str (formatUuid t.id)),
    ("definition", .object (definitionMembers t d)),
    ("inputs", .arr (t.inputs.map .str)),
    ("outputs", .arr (t.outputs.map .str)),
    ("config_json", .str t.configJson),
    ("state", .str t.state.name),
    ("metadata", .object (metadataMembers number t d))]

end writing

/-- `TaskToJson`. -/
def taskToJson (json : JsonLibrary) (t : TaskInstance) (d : TaskDetails) : String :=
  json.dump none (.object (taskMembers .float t d))

/-- An entry of `tasks`. -/
def entryMembers (task : Json) (dependencies : List Uuid) : List (String × Json) :=
  [("task", task), ("dependencies", .arr (dependencies.map fun dep => .str (formatUuid dep)))]

/-- The members of the document of a graph. -/
def graphMembers (jobId : Uuid) (externalInputs : List ArtifactRef) (tasks : List Json) :
    List (String × Json) :=
  [("job_id", .str (formatUuid jobId)),
    ("external_inputs", .arr (externalInputs.map .str)),
    ("tasks", .arr tasks)]

/-- `TaskGraphToJson`. -/
def taskGraphToJson (json : JsonLibrary) (g : DetailedGraph) (externalInputs : List ArtifactRef) :
    Except ReadException String := do
  let tasks ← g.insertionOrder.mapM fun id => do
    let task ← json.read (taskToJson json (g.task id) (g.details id))
    return Json.object (entryMembers task (g.dependencies id))
  return json.dump none (.object (graphMembers g.jobId externalInputs tasks))

/-! ## Reading

The accessors of the library, and the two calls that put the graph together
again. -/

/-- `ToStringVector`. -/
def toStringVector (j : Json) : Except ReadException (List String) :=
  j.elements.mapM fun item => item.as Json.getString

/-- `get<int>`. -/
def getInt (j : Json) : Except String Int := (getInt32 j).map (·.toInt)

/-- `get<std::int64_t>`. -/
def getLong (j : Json) : Except String Int := (getInt64 j).map (·.toInt)

/-- `ResourceSpecFromJson`. -/
def resourceSpecFromJson (j : Json) : Except ReadException ResourceSpec := do
  let cores ← j.valueOr getInt "cores" 1
  let ramBytes ← j.valueOr getLong "ram_bytes" 0
  let gpus ← j.valueOr getInt "gpus" 0
  let gpuMemBytes ← j.valueOr getLong "gpu_mem_bytes" 0
  let tempDiskBytes ← j.valueOr getLong "temp_disk_bytes" 0
  return { cores, ramBytes, gpus, gpuMemBytes, tempDiskBytes }

/-- `RetryPolicyFromJson`: attempts, base, multiplier and bound. -/
def retryPolicyFromJson (j : Json) : Except ReadException (Int × Int64 × Float × Int64) := do
  let maxAttempts ← j.valueOr getInt "max_attempts" 2
  let baseNs ← j.valueOr getInt64 "base_ns" 1000000000
  let multiplier ← j.valueOr getDouble "multiplier" 2
  let maxNs ← j.valueOr getInt64 "max_ns" 60000000000
  return (maxAttempts, baseNs, multiplier, maxNs)

/-- A call that throws errors of the platform. -/
def fromProject {α : Type} (x : Except ProjectError α) : Except ReadException α :=
  x.mapError .project

/-- `TaskFromJson`, of a document. -/
def taskFromJson (j : Json) : Except ReadException (TaskInstance × TaskDetails) := do
  let idText ← (← j.at "id").as Json.getString
  let id ← fromProject (parseUuid idText)
  let definition ← j.at "definition"
  let type ← (← definition.at "type").as Json.getString
  let inputsIn ← definition.at "inputs"
  let inputKinds ← toStringVector (← inputsIn.at "artifact_kinds")
  let allowExternal ← inputsIn.valueOr getBool "allow_external" false
  let outputsOut ← definition.at "outputs"
  let outputKinds ← toStringVector (← outputsOut.at "artifact_kinds")
  let parametersSchemaJson ← definition.valueOr Json.getString "parameters_schema_json" ""
  let requirements ← resourceSpecFromJson (← definition.at "requirements")
  let inputs ← toStringVector (← j.at "inputs")
  let outputs ← toStringVector (← j.at "outputs")
  let configJson ← j.valueOr Json.getString "config_json" ""
  let state ← fromProject (TaskStatus.parse (← j.valueOr Json.getString "state" "pending"))
  let metadata ← j.at "metadata"
  let (maxAttempts, baseNs, multiplier, maxNs) ← retryPolicyFromJson (← metadata.at "retry")
  let cancellation ← fromProject
    (CancellationPolicy.parse (← metadata.valueOr Json.getString "cancellation" "cooperative"))
  let cache ← fromProject
    (CachePolicy.parse (← metadata.valueOr Json.getString "cache" "cacheable"))
  let failure ← fromProject
    (FailurePolicy.parse (← metadata.valueOr Json.getString "failure" "skipped"))
  let deterministic ← metadata.valueOr getBool "deterministic" false
  let attempts ← metadata.valueOr getInt "attempts" 0
  let createdAtNs ← metadata.valueOr getInt64 "created_at_ns" 0
  let updatedAtNs ← metadata.valueOr getInt64 "updated_at_ns" 0
  return (
    { id, inputs, outputs, configJson, state
      definition := { type, requirements }
      metadata := { retry := { maxAttempts }, cache, failure, deterministic, attempts } },
    { inputKinds, allowExternal, outputKinds, parametersSchemaJson, baseNs, multiplier, maxNs,
      cancellation, createdAtNs, updatedAtNs })

/-- One dependency of the task added last. -/
def addEntryDependency (id : Uuid) (g : DetailedGraph) (dep : Json) :
    Except ReadException DetailedGraph := do
  let dep ← fromProject (parseUuid (← dep.as Json.getString))
  fromProject (g.addDependency id dep)

/-- One entry of `tasks`. `fresh` is what `GenerateUuid` returns for a graph of that many tasks. -/
def addEntry (json : JsonLibrary) (fresh : Nat → Uuid) (g : DetailedGraph) (entry : Json) :
    Except ReadException DetailedGraph := do
  let task ← entry.at "task"
  let id ← fromProject (parseUuid (← (← task.at "id").as Json.getString))
  let document ← json.read (json.dump none task)
  let (t, d) ← taskFromJson document
  let g ← fromProject (g.addTask (fresh g.insertionOrder.length) t d)
  let dependencies ← entry.at "dependencies"
  dependencies.elements.foldlM (addEntryDependency id) g

/-- `TaskGraphFromJson`. -/
def taskGraphFromJson (json : JsonLibrary) (fresh : Nat → Uuid) (text : String) :
    Except ReadException (DetailedGraph × List ArtifactRef) := do
  let j ← json.read text
  let jobId ← fromProject (parseUuid (← j.valueOr Json.getString "job_id" ""))
  let externalInputs ← toStringVector (← j.valueOr .ok "external_inputs" (.arr []))
  let tasks ← j.at "tasks"
  let g ← tasks.elements.foldlM (addEntry json fresh) (.empty jobId)
  return (g, externalInputs)

/-! ## Reading one task

Field by field, and then the task: what was printed comes back, except for a
multiplier that is no number in JSON. -/

theorem toStringVector_arr (texts : List String) :
    toStringVector (.arr (texts.map .str)) = .ok texts :=
  mapM_map_of_forall fun _ _ => rfl

theorem getInt_int {n : Int} (h : IsInt32 n) : getInt (.int n) = .ok n := by
  show Except.ok (Int32.ofInt n).toInt = _
  rw [Int32.toInt_ofInt_of_le h.1 h.2]

theorem getLong_int {n : Int} (h : IsInt64 n) : getLong (.int n) = .ok n := by
  show Except.ok (Int64.ofInt n).toInt = _
  rw [Int64.toInt_ofInt_of_le h.1 h.2]

theorem fromProject_ok {α : Type} {x : Except ProjectError α} {a : α} (h : x = .ok a) :
    fromProject x = .ok a := by
  rw [h]
  rfl

section reading

variable {number : Float → Json} {t : TaskInstance} {d : TaskDetails}

theorem resourceSpecFromJson_object (h : t.Representable) :
    resourceSpecFromJson (.object t.definition.requirements.members) =
      .ok t.definition.requirements := by
  have hkeys : (t.definition.requirements.members.map (·.1)).Nodup := by
    simp [ResourceSpec.members]
  unfold resourceSpecFromJson
  rw [valueOr_object hkeys 1 (by simp [ResourceSpec.members]) (getInt_int h.cores),
    valueOr_object hkeys 0 (by simp [ResourceSpec.members]) (getLong_int h.ramBytes),
    valueOr_object hkeys 0 (by simp [ResourceSpec.members]) (getInt_int h.gpus),
    valueOr_object hkeys 0 (by simp [ResourceSpec.members]) (getLong_int h.gpuMemBytes),
    valueOr_object hkeys 0 (by simp [ResourceSpec.members]) (getLong_int h.tempDiskBytes)]
  rfl

/-- The policy is read back if its multiplier is a number. -/
theorem retryPolicyFromJson_object (h : t.Representable) {x : Float}
    (hnumber : number d.multiplier = .float x) :
    retryPolicyFromJson (.object (retryMembers number t d)) =
      .ok (t.metadata.retry.maxAttempts, d.baseNs, x, d.maxNs) := by
  have hkeys : ((retryMembers number t d).map (·.1)).Nodup := by simp [retryMembers]
  unfold retryPolicyFromJson
  rw [valueOr_object hkeys 2 (by simp [retryMembers]) (getInt_int h.maxAttempts),
    valueOr_object hkeys _ (by simp [retryMembers]) (getInt64_toInt d.baseNs),
    valueOr_object hkeys 2 (show ("multiplier", Json.float x) ∈ _ by simp [retryMembers, hnumber])
      (getDouble_float x),
    valueOr_object hkeys _ (by simp [retryMembers]) (getInt64_toInt d.maxNs)]
  rfl

theorem retryPolicyFromJson_null (h : t.Representable) (hnumber : number d.multiplier = .null) :
    retryPolicyFromJson (.object (retryMembers number t d)) =
      .error (.json "type must be number, but is null") := by
  have hkeys : ((retryMembers number t d).map (·.1)).Nodup := by simp [retryMembers]
  have hnull : (Json.object (retryMembers number t d)).valueOr getDouble "multiplier" 2 =
      .error (.json "type must be number, but is null") := by
    rw [Json.valueOr, Json.member?_object hkeys
      (show ("multiplier", Json.null) ∈ _ by simp [retryMembers, hnumber])]
    rfl
  unfold retryPolicyFromJson
  rw [valueOr_object hkeys 2 (by simp [retryMembers]) (getInt_int h.maxAttempts),
    valueOr_object hkeys _ (by simp [retryMembers]) (getInt64_toInt d.baseNs), hnull]
  rfl

theorem taskMembers_nodup : ((taskMembers number t d).map (·.1)).Nodup := by simp [taskMembers]

/-- Everything but the retry policy is read back. -/
theorem taskFromJson_object (h : t.Representable) :
    taskFromJson (.object (taskMembers number t d)) =
      (retryPolicyFromJson (.object (retryMembers number t d))).map fun r =>
        ({ t with metadata := { t.metadata with retry := { maxAttempts := r.1 } } },
          { d with baseNs := r.2.1, multiplier := r.2.2.1, maxNs := r.2.2.2 }) := by
  have hkeys := @taskMembers_nodup number t d
  have hdefinition : ((definitionMembers t d).map (·.1)).Nodup := by simp [definitionMembers]
  have hin : ((inputsMembers d).map (·.1)).Nodup := by simp [inputsMembers]
  have hout : ((outputsMembers d).map (·.1)).Nodup := by simp [outputsMembers]
  have hmetadata : ((metadataMembers number t d).map (·.1)).Nodup := by simp [metadataMembers]
  have hpolicy : ∀ (key text default : String), (key, .str text) ∈ metadataMembers number t d →
      (Json.object (metadataMembers number t d)).valueOr Json.getString key default = .ok text :=
    fun _ text default hmem => valueOr_object hmetadata default hmem (getString_str text)
  have htime : ∀ (key : String) (n : Int64), (key, .int n.toInt) ∈ metadataMembers number t d →
      (Json.object (metadataMembers number t d)).valueOr getInt64 key 0 = .ok n :=
    fun _ n hmem => valueOr_object hmetadata 0 hmem (getInt64_toInt n)
  have htext : ∀ text : String, (Json.str text).as Json.getString = .ok text := fun _ => rfl
  unfold taskFromJson
  -- each accessor finds the member that the writer has put there
  simp only [
    at_object hkeys (show ("id", .str (formatUuid t.id)) ∈ _ by simp [taskMembers]),
    at_object hkeys (show ("definition", .object (definitionMembers t d)) ∈ _ by
      simp [taskMembers]),
    at_object hkeys (show ("inputs", .arr (t.inputs.map .str)) ∈ _ by simp [taskMembers]),
    at_object hkeys (show ("outputs", .arr (t.outputs.map .str)) ∈ _ by simp [taskMembers]),
    at_object hkeys (show ("metadata", .object (metadataMembers number t d)) ∈ _ by
      simp [taskMembers]),
    valueOr_object hkeys "" (show ("config_json", .str t.configJson) ∈ _ by simp [taskMembers])
      (getString_str _),
    valueOr_object hkeys "pending" (show ("state", .str t.state.name) ∈ _ by simp [taskMembers])
      (getString_str _),
    at_object hdefinition (show ("type", .str t.definition.type) ∈ _ by
      simp [definitionMembers]),
    at_object hdefinition (show ("inputs", .object (inputsMembers d)) ∈ _ by
      simp [definitionMembers]),
    at_object hdefinition (show ("outputs", .object (outputsMembers d)) ∈ _ by
      simp [definitionMembers]),
    at_object hdefinition (show ("requirements", .object t.definition.requirements.members) ∈ _ by
      simp [definitionMembers]),
    valueOr_object hdefinition "" (show ("parameters_schema_json", .str d.parametersSchemaJson) ∈ _
      by simp [definitionMembers]) (getString_str _),
    at_object hin (show ("artifact_kinds", .arr (d.inputKinds.map .str)) ∈ _ by
      simp [inputsMembers]),
    valueOr_object hin false (show ("allow_external", .bool d.allowExternal) ∈ _ by
      simp [inputsMembers]) (getBool_bool _),
    at_object hout (show ("artifact_kinds", .arr (d.outputKinds.map .str)) ∈ _ by
      simp [outputsMembers]),
    at_object hmetadata (show ("retry", .object (retryMembers number t d)) ∈ _ by
      simp [metadataMembers]),
    hpolicy "cancellation" d.cancellation.name "cooperative" (by simp [metadataMembers]),
    hpolicy "cache" t.metadata.cache.name "cacheable" (by simp [metadataMembers]),
    hpolicy "failure" t.metadata.failure.name "skipped" (by simp [metadataMembers]),
    valueOr_object hmetadata false (show ("deterministic", .bool t.metadata.deterministic) ∈ _ by
      simp [metadataMembers]) (getBool_bool _),
    valueOr_object hmetadata 0 (show ("attempts", .int t.metadata.attempts) ∈ _ by
      simp [metadataMembers]) (getInt_int h.attempts),
    htime "created_at_ns" d.createdAtNs (by simp [metadataMembers]),
    htime "updated_at_ns" d.updatedAtNs (by simp [metadataMembers]),
    htext, toStringVector_arr, resourceSpecFromJson_object h, parseUuid_formatUuid,
    TaskStatus.parse_name, CancellationPolicy.parse_name, CachePolicy.parse_name,
    FailurePolicy.parse_name, fromProject_ok rfl, ok_bind]
  -- the one reader that may fail
  cases retryPolicyFromJson (.object (retryMembers number t d)) <;> rfl

/-- The number is read back as it was printed, or not at all. -/
theorem taskFromJson_printed (h : t.Representable) :
    taskFromJson (.object (taskMembers printedNumber t d)) =
      if d.multiplier.isFinite then .ok (t, d)
      else .error (.json "type must be number, but is null") := by
  rw [taskFromJson_object h]
  cases hfinite : d.multiplier.isFinite with
  | true =>
      rw [retryPolicyFromJson_object h (by rw [printedNumber, hfinite]; rfl)]
      rfl
  | false =>
      rw [retryPolicyFromJson_null h (by rw [printedNumber, hfinite]; rfl)]
      rfl

end reading

/-! ## Putting the graph together again

The reader calls `AddTask` and `AddDependency` while it goes through the
document. `Part` says that it has rebuilt the part of the graph that it has gone
through; each call extends the part, and the loop over the dependencies of one
task is an induction over them. -/

namespace TaskGraph

variable {g : TaskGraph}

theorem exists_addTask {t : TaskInstance} (fresh : Uuid) (hid : t.id.isNil = false)
    (hnew : t.id ∉ g.insertionOrder) : ∃ g', g.addTask fresh t = .ok (g', t.id) := by
  have hnamed : (if t.id.isNil then { t with id := fresh } else t) = t := if_neg (by simp [hid])
  unfold addTask
  simp only [hnamed]
  rw [dif_neg hnew]
  exact ⟨_, rfl⟩

theorem exists_addDependency {id d : Uuid} (hid : id ∈ g.insertionOrder)
    (hd : d ∈ g.insertionOrder) : ∃ g', g.addDependency id d = .ok g' := by
  unfold addDependency
  rw [dif_pos hid, dif_pos hd]
  split <;> exact ⟨_, rfl⟩

end TaskGraph

namespace DetailedGraph

/-- `p` is what the reader has of `g` after the tasks of `done`. -/
structure Part (g p : DetailedGraph) (done : List Uuid) : Prop where
  jobId : p.jobId = g.jobId
  order : p.insertionOrder = done
  task : ∀ id ∈ done, p.task id = g.task id
  details : ∀ id ∈ done, p.details id = g.details id
  dependencies : ∀ id ∈ done, p.dependencies id = g.dependencies id

/-- The same tasks with all fields, in the same order and with the same dependencies. -/
structure Same (g g' : DetailedGraph) : Prop where
  jobId : g'.jobId = g.jobId
  order : g'.insertionOrder = g.insertionOrder
  task : ∀ id ∈ g.insertionOrder, g'.task id = g.task id
  details : ∀ id ∈ g.insertionOrder, g'.details id = g.details id
  dependencies : ∀ id, g'.dependencies id = g.dependencies id

/-- A task that is not in the graph depends on nothing. -/
theorem dependencies_of_notMem {g : DetailedGraph} {id : Uuid} (hid : id ∉ g.insertionOrder) :
    g.dependencies id = [] := by
  apply List.eq_nil_iff_forall_not_mem.mpr
  intro d hd
  exact hid (g.mem_of_dependency id d hd).1

theorem Part.same {g p : DetailedGraph} (h : Part g p g.insertionOrder) : Same g p where
  jobId := h.jobId
  order := h.order
  task := h.task
  details := h.details
  dependencies id := by
    by_cases hid : id ∈ g.insertionOrder
    · exact h.dependencies id hid
    · rw [dependencies_of_notMem hid, dependencies_of_notMem (h.order ▸ hid)]

/-- The loop over the dependencies of a task. -/
def addDependencies (id : Uuid) (dependencies : List Uuid) (p : DetailedGraph) :
    Except ProjectError DetailedGraph :=
  dependencies.foldlM (fun p d => p.addDependency id d) p

/-- All dependencies are there, and are added one behind the other. -/
theorem addDependencies_eq_ok {id : Uuid} {dependencies : List Uuid} {p : DetailedGraph}
    (hid : id ∈ p.insertionOrder) (hdeps : ∀ d ∈ dependencies, d ∈ p.insertionOrder)
    (hnodup : (p.dependencies id ++ dependencies).Nodup) :
    ∃ p', p.addDependencies id dependencies = .ok p' ∧ p'.jobId = p.jobId ∧
      p'.insertionOrder = p.insertionOrder ∧ p'.task = p.task ∧ p'.details = p.details ∧
      p'.dependencies =
        Function.update p.dependencies id (p.dependencies id ++ dependencies) := by
  induction dependencies generalizing p with
  | nil => exact ⟨p, rfl, rfl, rfl, rfl, rfl, by simp⟩
  | cons d dependencies ih =>
      obtain ⟨g₁, hadd⟩ := TaskGraph.exists_addDependency hid (hdeps d List.mem_cons_self)
      obtain ⟨-, horder, hjob, htask, hnew⟩ := TaskGraph.addDependency_eq_ok hadd
      have hnot : d ∉ p.dependencies id := by
        have hdisjoint := List.disjoint_of_nodup_append hnodup
        exact fun hmem => hdisjoint hmem List.mem_cons_self
      rw [if_neg hnot] at hnew
      let p₁ : DetailedGraph := { toTaskGraph := g₁, details := p.details }
      have hstep : p.addDependency id d = .ok p₁ := by
        rw [DetailedGraph.addDependency, hadd]
      -- the first dependency is the last one so far
      have hself : p₁.dependencies id = p.dependencies id ++ [d] := by
        show g₁.dependencies id = _
        rw [hnew, Function.update_self]
      obtain ⟨p', hrest, hjob', horder', htask', hdetails', hdeps'⟩ := @ih p₁
        (show id ∈ g₁.insertionOrder by rwa [horder])
        (fun d' hd' => show d' ∈ g₁.insertionOrder by
          rw [horder]
          exact hdeps d' (List.mem_cons_of_mem d hd'))
        (by rwa [hself, List.append_assoc, List.singleton_append])
      refine ⟨p', ?_, hjob'.trans hjob, horder'.trans horder, htask'.trans htask, hdetails', ?_⟩
      · show (p.addDependency id d >>= fun p => p.addDependencies id dependencies) = _
        rw [hstep]
        exact hrest
      · rw [hdeps', hself]
        show Function.update g₁.dependencies id _ = _
        rw [hnew, Function.update_idem, List.append_assoc, List.singleton_append]

/-- The loop ends only if every dependency is there. -/
theorem mem_of_addDependencies {id : Uuid} {dependencies : List Uuid} {p p' : DetailedGraph}
    (h : p.addDependencies id dependencies = .ok p') :
    ∀ d ∈ dependencies, d ∈ p.insertionOrder := by
  induction dependencies generalizing p with
  | nil => simp
  | cons d dependencies ih =>
      obtain ⟨p₁, hadded, hrest⟩ := bind_eq_ok h
      have hstep : p.addDependency id d = .ok p₁ := hadded
      rw [DetailedGraph.addDependency] at hstep
      cases hadd : p.toTaskGraph.addDependency id d with
      | error e => simp [hadd] at hstep
      | ok g₁ =>
          rw [hadd] at hstep
          cases hstep
          obtain ⟨⟨_, hd⟩, horder, _⟩ := TaskGraph.addDependency_eq_ok hadd
          intro x hx
          rcases List.mem_cons.mp hx with rfl | hx
          · exact hd
          · have hmem : x ∈ g₁.insertionOrder := ih hrest x hx
            rwa [horder] at hmem

/-! ## The entries of a document

One entry is taken if its dependencies stand before it, and refused otherwise.
The library is known only by what it does with the documents of a graph. -/

section entries

variable {json : JsonLibrary} {fresh : Nat → Uuid} {g p p' : DetailedGraph} {id : Uuid}
  {done rest : List Uuid}

/-- What the document of a graph has for a task. -/
def taskDocument (g : DetailedGraph) (id : Uuid) : Json :=
  .object (taskMembers printedNumber (g.task id) (g.details id))

/-- The entry of a task. -/
def entry (g : DetailedGraph) (id : Uuid) : Json :=
  .object (entryMembers (g.taskDocument id) (g.dependencies id))

/-- What the library does with the documents of a graph: it reads back what it
prints, but for the numbers that it cannot print. -/
structure Printed (json : JsonLibrary) (g : DetailedGraph) (externalInputs : List ArtifactRef) :
    Prop where
  task : ∀ id ∈ g.insertionOrder,
    json.parse (taskToJson json (g.task id) (g.details id)) = .ok (g.taskDocument id)
  again : ∀ id ∈ g.insertionOrder, json.RoundTrips none (g.taskDocument id)
  graph : json.RoundTrips none
    (.object (graphMembers g.jobId externalInputs (g.insertionOrder.map g.entry)))

/-- What the reader does with the entry of a task. -/
theorem addEntry_entry (hprint : json.RoundTrips none (g.taskDocument id))
    (ht : (g.task id).Representable) : addEntry json fresh p (g.entry id) =
      if (g.details id).multiplier.isFinite then
        fromProject (p.addTask (fresh p.insertionOrder.length) (g.task id) (g.details id)) >>=
          (g.dependencies id).foldlM fun p d => fromProject (p.addDependency id d)
      else .error (.json "type must be number, but is null") := by
  have hkeys : ((entryMembers (g.taskDocument id) (g.dependencies id)).map (·.1)).Nodup := by
    simp [entryMembers]
  have hread : json.read (json.dump none (g.taskDocument id)) = .ok (g.taskDocument id) :=
    read_eq_ok hprint
  have hid : (g.taskDocument id).at "id" = .ok (.str (formatUuid id)) := by
    apply at_object taskMembers_nodup
    simp [taskMembers]
  have hname : (Json.str (formatUuid id)).as Json.getString = .ok (formatUuid id) := rfl
  have htask : taskFromJson (g.taskDocument id) = _ := taskFromJson_printed ht
  -- the loop over the dependencies, read as texts
  have hdeps : ∀ p, (List.map (fun dep => Json.str (formatUuid dep)) (g.dependencies id)).foldlM
      (addEntryDependency id) p =
        (g.dependencies id).foldlM (fun p d => fromProject (p.addDependency id d)) p := by
    intro p
    rw [List.foldlM_map]
    congr 1
    funext p d
    have hd : (Json.str (formatUuid d)).as Json.getString = .ok (formatUuid d) := rfl
    rw [addEntryDependency, hd, ok_bind, fromProject_ok (parseUuid_formatUuid d), ok_bind]
  unfold addEntry
  simp only [entry, at_object hkeys (show ("task", g.taskDocument id) ∈ _ by simp [entryMembers]),
    at_object hkeys (show ("dependencies",
      .arr ((g.dependencies id).map fun dep => .str (formatUuid dep))) ∈ _ by simp [entryMembers]),
    hid, hname, hread, htask, fromProject_ok (parseUuid_formatUuid id), ok_bind]
  split
  · simp only [ok_bind, Json.elements]
    congr 1
    funext p
    exact hdeps p
  · rfl

/-- The loop over the dependencies, in the errors of the reader. -/
theorem foldlM_fromProject (dependencies : List Uuid) (p : DetailedGraph) :
    dependencies.foldlM (fun p d => fromProject (p.addDependency id d)) p =
      fromProject (p.addDependencies id dependencies) := by
  induction dependencies generalizing p with
  | nil => rfl
  | cons d dependencies ih =>
      rw [List.foldlM_cons, addDependencies, List.foldlM_cons]
      cases p.addDependency id d with
      | error e => rfl
      | ok p₁ => exact ih p₁

/-- `AddTask` of a task that is read. -/
theorem Part.addTask (h : Part g p done) (hid : id.isNil = false) (hnew : id ∉ done)
    (fresh : Uuid) : ∃ p₁, p.addTask fresh (g.task id) (g.details id) = .ok p₁ ∧
      p₁.jobId = p.jobId ∧ p₁.insertionOrder = done ++ [id] ∧
      p₁.task = Function.update p.task id (g.task id) ∧
      p₁.details = Function.update p.details id (g.details id) ∧
      p₁.dependencies = p.dependencies := by
  obtain ⟨g₁, hadd⟩ := @TaskGraph.exists_addTask p.toTaskGraph (g.task id) fresh
    (by rwa [g.id_task]) (by rwa [g.id_task, h.order])
  obtain ⟨-, -, horder, hjob, hdeps, htask⟩ := TaskGraph.addTask_eq_ok hadd
  rw [if_neg (by simp [hid])] at horder htask
  rw [g.id_task] at hadd horder htask
  refine ⟨{ toTaskGraph := g₁, details := Function.update p.details id (g.details id) }, ?_, hjob,
    ?_, htask, rfl, hdeps⟩
  · rw [DetailedGraph.addTask, hadd]
  · rw [horder, h.order]

/-- One entry of a graph whose dependencies come first. -/
theorem Part.addEntry (h : Part g p done) (hid : id.isNil = false) (hnew : id ∉ done)
    (hprint : json.RoundTrips none (g.taskDocument id)) (ht : (g.task id).Representable)
    (hfinite : (g.details id).multiplier.isFinite = true)
    (hdeps : ∀ d ∈ g.dependencies id, d ∈ done ++ [id]) :
    ∃ p', Engine.addEntry json fresh p (g.entry id) = .ok p' ∧ Part g p' (done ++ [id]) := by
  obtain ⟨p₁, hadd, hjob, horder, htask, hdetails, hsame⟩ :=
    h.addTask hid hnew (fresh p.insertionOrder.length)
  -- a new task depends on nothing yet
  have hnone : p₁.dependencies id = [] := by
    rw [hsame]
    exact dependencies_of_notMem (h.order ▸ hnew)
  obtain ⟨p', hloop, hjob', horder', htask', hdetails', hdeps'⟩ :=
    @addDependencies_eq_ok id (g.dependencies id) p₁ (by simp [horder])
      (fun d hd => horder ▸ hdeps d hd)
      (by
        rw [hnone]
        exact g.nodup_dependencies id)
  refine ⟨p', ?_, ?_⟩
  · rw [addEntry_entry hprint ht, if_pos hfinite, fromProject_ok hadd, ok_bind, foldlM_fromProject,
      fromProject_ok hloop]
  · have hkeep : ∀ {α : Type} {f f' : Uuid → α}, (∀ x ∈ done, f x = f' x) →
        ∀ x ∈ done ++ [id], Function.update f id (f' id) x = f' x := by
      intro α f f' hsame x hx
      rcases eq_or_ne x id with rfl | hne
      · rw [Function.update_self]
      · rw [Function.update_of_ne hne]
        exact hsame x ((List.mem_append.mp hx).resolve_right (by simpa using hne))
    constructor
    · rw [hjob', hjob, h.jobId]
    · rw [horder', horder]
    · rw [htask', htask]
      exact hkeep h.task
    · rw [hdetails', hdetails]
      exact hkeep h.details
    · rw [hdeps', hnone, hsame, List.nil_append]
      exact hkeep h.dependencies

/-- An entry is taken only if the number can be printed and the dependencies come first. -/
theorem Part.of_addEntry (h : Part g p done) (hid : id.isNil = false) (hnew : id ∉ done)
    (hprint : json.RoundTrips none (g.taskDocument id)) (ht : (g.task id).Representable)
    (hok : Engine.addEntry json fresh p (g.entry id) = .ok p') :
    (g.details id).multiplier.isFinite = true ∧ ∀ d ∈ g.dependencies id, d ∈ done ++ [id] := by
  rw [addEntry_entry hprint ht] at hok
  split at hok
  · next hfinite =>
      obtain ⟨p₁, hadd, _, horder, _⟩ := h.addTask hid hnew (fresh p.insertionOrder.length)
      rw [fromProject_ok hadd, ok_bind, foldlM_fromProject] at hok
      cases hloop : p₁.addDependencies id (g.dependencies id) with
      | error e => simp [hloop, fromProject, Except.mapError] at hok
      | ok p₂ => exact ⟨hfinite, fun d hd => horder ▸ mem_of_addDependencies hloop d hd⟩
  · cases hok

end entries

/-! ## The whole document

The loop over the entries, by induction over those that are left with `Part` as
invariant. Both directions come out of the same lemma, since an entry that is
refused ends the loop. -/

/-- No task stands before one of its dependencies, and every number can be printed. -/
def Readable (g : DetailedGraph) : Prop :=
  ∀ id ∈ g.insertionOrder, (g.details id).multiplier.isFinite = true ∧
    ∀ d ∈ g.dependencies id, g.insertionOrder.idxOf d ≤ g.insertionOrder.idxOf id

section document

variable {json : JsonLibrary} {fresh : Nat → Uuid} {g p p' : DetailedGraph}
  {externalInputs : List ArtifactRef}

/-- In the middle of the document. -/
theorem mem_concat_iff {done rest : List Uuid} {id d : Uuid}
    (horder : g.insertionOrder = done ++ id :: rest) (hd : d ∈ g.insertionOrder) :
    d ∈ done ++ [id] ↔ g.insertionOrder.idxOf d ≤ g.insertionOrder.idxOf id := by
  have hsuffix : id :: rest <:+ g.insertionOrder := ⟨done, horder.symm⟩
  have hlt := TaskShape.idxOf_lt_iff hsuffix hd
  have hnodup := g.nodup_order
  rcases eq_or_ne d id with rfl | hne
  · simp
  · have hidx : g.insertionOrder.idxOf d ≠ g.insertionOrder.idxOf id :=
      fun heq => hne ((List.idxOf_inj hd).mp heq)
    have hmem : d ∈ done ↔ d ∉ id :: rest := by
      rw [horder] at hd hnodup
      have hdisjoint := List.disjoint_of_nodup_append hnodup
      exact ⟨fun hin hin' => hdisjoint hin hin',
        fun hnot => (List.mem_append.mp hd).resolve_right hnot⟩
    rw [List.mem_append, List.mem_singleton, or_iff_left hne, hmem, ← hlt]
    omega

/-- The loop over the entries that are left. -/
theorem Part.entries_iff (hprint : Printed json g externalInputs)
    (hnil : ∀ id ∈ g.insertionOrder, id.isNil = false)
    (ht : ∀ id ∈ g.insertionOrder, (g.task id).Representable) {done rest : List Uuid}
    (horder : g.insertionOrder = done ++ rest) (h : Part g p done) :
    ((∃ p', (rest.map g.entry).foldlM (Engine.addEntry json fresh) p = .ok p') ↔
      ∀ id ∈ rest, (g.details id).multiplier.isFinite = true ∧
        ∀ d ∈ g.dependencies id, g.insertionOrder.idxOf d ≤ g.insertionOrder.idxOf id) ∧
    ∀ p', (rest.map g.entry).foldlM (Engine.addEntry json fresh) p = .ok p' →
      Part g p' g.insertionOrder := by
  induction rest generalizing p done with
  | nil =>
      rw [List.append_nil] at horder
      refine ⟨⟨fun _ => by simp, fun _ => ⟨p, rfl⟩⟩, fun p' hok => ?_⟩
      cases hok
      rwa [horder]
  | cons id rest ih =>
      have hmem : id ∈ g.insertionOrder := by simp [horder]
      have hnew : id ∉ done := by
        have hnodup := g.nodup_order
        rw [horder] at hnodup
        exact fun hin => List.disjoint_of_nodup_append hnodup hin List.mem_cons_self
      have horder' : g.insertionOrder = (done ++ [id]) ++ rest := by
        rw [horder, List.append_assoc, List.singleton_append]
      -- the dependencies are among the entries read so far, and so come first
      have hdeps : (∀ d ∈ g.dependencies id, d ∈ done ++ [id]) ↔ ∀ d ∈ g.dependencies id,
          g.insertionOrder.idxOf d ≤ g.insertionOrder.idxOf id := by
        refine forall₂_congr fun d hd => ?_
        exact mem_concat_iff horder (g.mem_of_dependency id d hd).2
      rw [List.map_cons, List.foldlM_cons, List.forall_mem_cons]
      by_cases hid : (g.details id).multiplier.isFinite = true ∧ ∀ d ∈ g.dependencies id,
          g.insertionOrder.idxOf d ≤ g.insertionOrder.idxOf id
      · obtain ⟨p₁, hadd, hpart⟩ := @Part.addEntry json fresh g p id done h (hnil id hmem) hnew
          (hprint.again id hmem) (ht id hmem) hid.1 (hdeps.mpr hid.2)
        rw [hadd, ok_bind, and_iff_right hid]
        exact ih horder' hpart
      -- the entry is refused, which ends the loop
      · have hfails : ∀ p₁, Engine.addEntry json fresh p (g.entry id) ≠ .ok p₁ := by
          intro p₁ hadd
          have hread := h.of_addEntry (hnil id hmem) hnew (hprint.again id hmem) (ht id hmem) hadd
          exact hid ⟨hread.1, hdeps.mp hread.2⟩
        have hnone : ∀ p', ¬ (Engine.addEntry json fresh p (g.entry id) >>=
            (rest.map g.entry).foldlM (Engine.addEntry json fresh)) = .ok p' := by
          intro p' hok
          obtain ⟨p₁, hadd, _⟩ := bind_eq_ok hok
          exact hfails p₁ hadd
        refine ⟨⟨fun hok => ?_, fun hall => absurd hall.1 hid⟩, fun p' hok => absurd hok (hnone p')⟩
        obtain ⟨p', hok⟩ := hok
        exact absurd hok (hnone p')

/-- The document of a graph. -/
theorem taskGraphToJson_eq (hprint : Printed json g externalInputs) :
    taskGraphToJson json g externalInputs = .ok (json.dump none
      (.object (graphMembers g.jobId externalInputs (g.insertionOrder.map g.entry)))) := by
  have hentries : ∀ ids : List Uuid, ids ⊆ g.insertionOrder → (ids.mapM fun id => do
      let task ← json.read (taskToJson json (g.task id) (g.details id))
      return Json.object (entryMembers task (g.dependencies id)) : Except ReadException (List Json)) =
        .ok (ids.map g.entry) := by
    intro ids hsub
    induction ids with
    | nil => rfl
    | cons id ids ih =>
        rw [List.mapM_cons, ih (List.subset_of_cons_subset hsub),
          read_eq_ok (hprint.task id (hsub List.mem_cons_self))]
        rfl
  rw [taskGraphToJson, hentries _ (List.Subset.refl _)]
  rfl

/-- Reading the document comes down to the loop over its entries. -/
theorem taskGraphFromJson_eq (hprint : Printed json g externalInputs) {text : String}
    (htext : taskGraphToJson json g externalInputs = .ok text) :
    taskGraphFromJson json fresh text =
      ((g.insertionOrder.map g.entry).foldlM (Engine.addEntry json fresh) (.empty g.jobId)).map
        fun p => (p, externalInputs) := by
  rw [taskGraphToJson_eq hprint] at htext
  cases htext
  have hkeys : ((graphMembers g.jobId externalInputs (g.insertionOrder.map g.entry)).map
      (·.1)).Nodup := by
    simp [graphMembers]
  unfold taskGraphFromJson
  rw [read_eq_ok hprint.graph, ok_bind]
  simp only [
    valueOr_object hkeys "" (show ("job_id", .str (formatUuid g.jobId)) ∈ _ by simp [graphMembers])
      (getString_str _),
    valueOr_object hkeys (.arr []) (show ("external_inputs", .arr (externalInputs.map .str)) ∈ _ by
      simp [graphMembers]) rfl,
    at_object hkeys (show ("tasks", .arr (g.insertionOrder.map g.entry)) ∈ _ by
      simp [graphMembers]),
    toStringVector_arr, fromProject_ok (parseUuid_formatUuid g.jobId), ok_bind, Json.elements]
  cases List.foldlM (Engine.addEntry json fresh) (empty g.jobId) (g.insertionOrder.map g.entry) <;>
    rfl

/-- The document of a graph is read back, and then as that graph, exactly if it is readable. -/
theorem reads_back_iff (hprint : Printed json g externalInputs)
    (hnil : ∀ id ∈ g.insertionOrder, id.isNil = false)
    (ht : ∀ id ∈ g.insertionOrder, (g.task id).Representable) :
    (∃ text g', taskGraphToJson json g externalInputs = .ok text ∧
      taskGraphFromJson json fresh text = .ok (g', externalInputs) ∧ g.Same g') ↔ g.Readable := by
  have hstart : Part g (.empty g.jobId) [] := ⟨rfl, rfl, by simp, by simp, by simp⟩
  obtain ⟨hiff, hpart⟩ := @Part.entries_iff json fresh g _ externalInputs hprint hnil ht [] _
    (List.nil_append g.insertionOrder).symm hstart
  refine ⟨fun hback => ?_, fun hreadable => ?_⟩
  · obtain ⟨text, g', hwrite, hread, _⟩ := hback
    rw [taskGraphFromJson_eq hprint hwrite] at hread
    apply hiff.mp
    cases hloop : (g.insertionOrder.map g.entry).foldlM (Engine.addEntry json fresh)
        (empty g.jobId) with
    | error e => simp [hloop, Except.map] at hread
    | ok p => exact ⟨p, rfl⟩
  · obtain ⟨p, hloop⟩ := hiff.mpr hreadable
    refine ⟨_, p, taskGraphToJson_eq hprint, ?_, (hpart p hloop).same⟩
    rw [taskGraphFromJson_eq hprint (taskGraphToJson_eq hprint), hloop]
    rfl

end document

/-! ## Graphs built by calls

Every graph of the engine is built by calls, one at its end, so what is shown of
graphs is shown of them by induction from the last call. -/

end DetailedGraph

/-- One call of a builder, with all fields of the task. -/
inductive DetailedCall where
  | addTask (fresh : { id : Uuid // id.isNil = false })
      (task : { t : TaskInstance // t.Representable }) (details : TaskDetails)
  | addDependency (taskId dependencyId : Uuid)

/-- The call as the graph alone sees it. -/
def DetailedCall.toGraphCall : DetailedCall → GraphCall
  | .addTask fresh task _ => .addTask fresh task.1
  | .addDependency taskId dependencyId => .addDependency taskId dependencyId

namespace DetailedGraph

/-- One call; a call that throws has not touched the graph. -/
def perform (g : DetailedGraph) : DetailedCall → DetailedGraph
  | .addTask fresh task details => (g.addTask fresh.1 task.1 details).toOption.getD g
  | .addDependency taskId dependencyId => (g.addDependency taskId dependencyId).toOption.getD g

/-- The graph of a job after a sequence of calls. -/
def built (jobId : Uuid) (calls : List DetailedCall) : DetailedGraph :=
  calls.foldl perform (empty jobId)

theorem toTaskGraph_perform (g : DetailedGraph) (call : DetailedCall) :
    (g.perform call).toTaskGraph = g.toTaskGraph.perform call.toGraphCall := by
  cases call with
  | addTask fresh task details =>
      simp only [perform, DetailedCall.toGraphCall, TaskGraph.perform, addTask]
      cases g.toTaskGraph.addTask fresh.1 task.1 <;> rfl
  | addDependency taskId dependencyId =>
      simp only [perform, DetailedCall.toGraphCall, TaskGraph.perform, addDependency]
      cases g.toTaskGraph.addDependency taskId dependencyId <;> rfl

/-- Without the other fields the calls build the graph that they build of the scheduler's fields. -/
theorem toTaskGraph_built (jobId : Uuid) (calls : List DetailedCall) :
    (built jobId calls).toTaskGraph =
      TaskGraph.built jobId (calls.map DetailedCall.toGraphCall) := by
  induction calls using List.reverseRecOn with
  | nil => rfl
  | append_singleton calls call ih =>
      rw [built, List.foldl_concat, toTaskGraph_perform, List.map_append, List.map_singleton,
        TaskGraph.built_concat, ← ih]
      rfl

/-- A graph of representable tasks stays one. -/
theorem representable_perform {g : DetailedGraph} (call : DetailedCall)
    (h : ∀ id ∈ g.insertionOrder, (g.task id).Representable) :
    ∀ id ∈ (g.perform call).insertionOrder, ((g.perform call).task id).Representable := by
  rw [toTaskGraph_perform]
  cases call with
  | addTask fresh task details =>
      simp only [DetailedCall.toGraphCall, TaskGraph.perform]
      cases hadd : g.toTaskGraph.addTask fresh.1 task.1 with
      | error e => exact h
      | ok added =>
          obtain ⟨g₁, id₁⟩ := added
          obtain ⟨-, -, horder, -, -, htask⟩ := TaskGraph.addTask_eq_ok hadd
          have hnew : (if task.1.id.isNil then { task.1 with id := fresh.1 } else
              task.1).Representable := by
            split
            · obtain ⟨h₁, h₂, h₃, h₄, h₅, h₆, h₇⟩ := task.2
              exact ⟨h₁, h₂, h₃, h₄, h₅, h₆, h₇⟩
            · exact task.2
          -- the new task, and those that were there
          have hadded : ∀ t : TaskInstance, t.Representable → ∀ id ∈ g.insertionOrder ++ [t.id],
              (Function.update g.task t.id t id).Representable := by
            intro t ht id hid
            rw [Function.update_apply]
            split
            · exact ht
            · next hne => exact h id ((List.mem_append.mp hid).resolve_right (by simpa using hne))
          intro id hid
          rw [htask]
          exact hadded _ hnew id (horder ▸ hid)
  | addDependency taskId dependencyId =>
      simp only [DetailedCall.toGraphCall, TaskGraph.perform]
      cases hadd : g.toTaskGraph.addDependency taskId dependencyId with
      | error e => exact h
      | ok g₁ =>
          obtain ⟨-, horder, -, htask, -⟩ := TaskGraph.addDependency_eq_ok hadd
          intro id hid
          rw [htask]
          exact h id (horder ▸ hid)

theorem representable_of_built (jobId : Uuid) (calls : List DetailedCall) :
    ∀ id ∈ (built jobId calls).insertionOrder, ((built jobId calls).task id).Representable := by
  induction calls using List.reverseRecOn with
  | nil => exact fun id hid => absurd hid List.not_mem_nil
  | append_singleton calls call ih =>
      rw [built, List.foldl_concat]
      exact representable_perform call ih

/-- **A graph built by any calls is written and read back as it was** exactly if
its dependencies stand before their dependents and its numbers are finite. -/
theorem built_reads_back_iff (json : JsonLibrary) (fresh : Nat → Uuid) (jobId : Uuid)
    (calls : List DetailedCall) (externalInputs : List ArtifactRef)
    (hprint : Printed json (built jobId calls) externalInputs) :
    (∃ text g', taskGraphToJson json (built jobId calls) externalInputs = .ok text ∧
      taskGraphFromJson json fresh text = .ok (g', externalInputs) ∧
      (built jobId calls).Same g') ↔ (built jobId calls).Readable := by
  apply reads_back_iff hprint
  · intro id hid
    rw [toTaskGraph_built] at hid
    exact TaskGraph.isNil_of_mem_built hid
  · exact representable_of_built jobId calls

/-! Two import tasks, one of which depends on the other. -/

section pair

private def importTask (id : Uuid) : { t : TaskInstance // t.Representable } where
  val := { id := id, definition := { type := "import" } }
  property := by constructor <;> norm_num [IsInt32, IsInt64]

private def pairCalls (taskId dependencyId : Uuid) : List DetailedCall :=
  [.addTask ⟨⟨7⟩, rfl⟩ (importTask ⟨1⟩) {}, .addTask ⟨⟨7⟩, rfl⟩ (importTask ⟨2⟩) {},
    .addDependency taskId dependencyId]

/-- What `dump` prints for such a task. -/
private def importText (id : String) : String :=
  "\x7b\"config_json\":\"\",\"definition\":\x7b\"inputs\":\x7b\"allow_external\":false," ++
  "\"artifact_kinds\":[]\x7d,\"outputs\":\x7b\"artifact_kinds\":[]\x7d," ++
  "\"parameters_schema_json\":\"\",\"requirements\":\x7b\"cores\":1,\"gpu_mem_bytes\":0," ++
  "\"gpus\":0,\"ram_bytes\":0,\"temp_disk_bytes\":0\x7d,\"type\":\"import\"\x7d," ++
  "\"id\":\"" ++ id ++ "\",\"inputs\":[],\"metadata\":\x7b\"attempts\":0," ++
  "\"cache\":\"cacheable\",\"cancellation\":\"cooperative\",\"created_at_ns\":0," ++
  "\"deterministic\":false,\"failure\":\"skipped\",\"retry\":\x7b\"base_ns\":1000000000," ++
  "\"max_attempts\":2,\"max_ns\":60000000000,\"multiplier\":2.0\x7d," ++
  "\"updated_at_ns\":0\x7d,\"outputs\":[],\"state\":\"pending\"\x7d"

/-- What it prints for the graph. -/
private def pairText (g : DetailedGraph) : String :=
  "\x7b\"external_inputs\":[],\"job_id\":\"" ++ formatUuid g.jobId ++ "\",\"tasks\":[" ++
  ",".intercalate (g.insertionOrder.map fun id =>
    "\x7b\"dependencies\":[" ++
    ",".intercalate ((g.dependencies id).map fun dep => "\"" ++ formatUuid dep ++ "\"") ++
    "],\"task\":" ++ importText (formatUuid id) ++ "\x7d") ++ "]\x7d"

/-- A library that knows these texts. -/
private def pairJson (g : DetailedGraph) : JsonLibrary where
  parse text :=
    if text = pairText g then
      .ok (.object (graphMembers g.jobId [] (g.insertionOrder.map g.entry)))
    else match g.insertionOrder.find? fun id => text = importText (formatUuid id) with
    | some id => .ok (g.taskDocument id)
    | none => .error (.parseError "syntax error")
  dump _ j :=
    match j.member? "id" with
    | some (.str id) => importText id
    | _ => pairText g

private theorem pairJson_prints {g : DetailedGraph}
    (hgraph : ∀ id ∈ g.insertionOrder, importText (formatUuid id) ≠ pairText g)
    (htask : ∀ id ∈ g.insertionOrder, ∀ id' ∈ g.insertionOrder,
      importText (formatUuid id) = importText (formatUuid id') → id = id') :
    Printed (pairJson g) g [] := by
  have hdump : ∀ number id, (pairJson g).dump none
      (.object (taskMembers number (g.task id) (g.details id))) = importText (formatUuid id) := by
    intro number id
    have hid : (Json.object (taskMembers number (g.task id) (g.details id))).member? "id" =
        some (.str (formatUuid id)) := by
      apply Json.member?_object taskMembers_nodup
      simp [taskMembers]
    simp only [pairJson, hid]
  -- the texts of the tasks differ, so the task that is found is the right one
  have hparse : ∀ id ∈ g.insertionOrder,
      (pairJson g).parse (importText (formatUuid id)) = .ok (g.taskDocument id) := by
    intro id hid
    have hfind : (g.insertionOrder.find? fun id' =>
        importText (formatUuid id) = importText (formatUuid id')) = some id := by
      cases hfound : g.insertionOrder.find? fun id' =>
          importText (formatUuid id) = importText (formatUuid id') with
      | none => simpa using List.find?_eq_none.mp hfound id hid
      | some id' =>
          have htext := List.find?_some hfound
          rw [htask id hid id' (List.mem_of_find?_eq_some hfound) (by simpa using htext)]
    simp only [pairJson, if_neg (hgraph id hid), hfind]
  refine ⟨fun id hid => ?_, fun id hid => ?_, ?_⟩
  · rw [taskToJson, hdump]
    exact hparse id hid
  · rw [JsonLibrary.RoundTrips, taskDocument, hdump]
    exact hparse id hid
  · have hid : (Json.object (graphMembers g.jobId [] (g.insertionOrder.map g.entry))).member? "id" =
        none := by
      apply Json.member?_object_of_notMem
      simp [graphMembers]
    rw [JsonLibrary.RoundTrips]
    simp only [pairJson, hid, if_true]

theorem ordered_pair_reads_back :
    ∃ text g',
      taskGraphToJson (pairJson (built ⟨9⟩ (pairCalls ⟨2⟩ ⟨1⟩))) (built ⟨9⟩ (pairCalls ⟨2⟩ ⟨1⟩)) [] =
        .ok text ∧
      taskGraphFromJson (pairJson (built ⟨9⟩ (pairCalls ⟨2⟩ ⟨1⟩))) (fun _ => ⟨7⟩) text =
        .ok (g', []) ∧
      (built ⟨9⟩ (pairCalls ⟨2⟩ ⟨1⟩)).Same g' := by
  have hprint : Printed (pairJson (built ⟨9⟩ (pairCalls ⟨2⟩ ⟨1⟩)))
      (built ⟨9⟩ (pairCalls ⟨2⟩ ⟨1⟩)) [] := by
    apply pairJson_prints
    · decide +kernel
    · decide +kernel
  have hreadable : (built ⟨9⟩ (pairCalls ⟨2⟩ ⟨1⟩)).Readable := by
    unfold Readable
    decide +kernel
  exact (built_reads_back_iff _ (fun _ => ⟨7⟩) ⟨9⟩ (pairCalls ⟨2⟩ ⟨1⟩) [] hprint).mpr hreadable

/-- The first task depends on the second. -/
theorem dependent_first_unreadable :
    Printed (pairJson (built ⟨9⟩ (pairCalls ⟨1⟩ ⟨2⟩))) (built ⟨9⟩ (pairCalls ⟨1⟩ ⟨2⟩)) [] ∧
    ¬ ∃ text g',
      taskGraphToJson (pairJson (built ⟨9⟩ (pairCalls ⟨1⟩ ⟨2⟩))) (built ⟨9⟩ (pairCalls ⟨1⟩ ⟨2⟩)) [] =
        .ok text ∧
      taskGraphFromJson (pairJson (built ⟨9⟩ (pairCalls ⟨1⟩ ⟨2⟩))) (fun _ => ⟨7⟩) text =
        .ok (g', []) ∧
      (built ⟨9⟩ (pairCalls ⟨1⟩ ⟨2⟩)).Same g' := by
  have hprint : Printed (pairJson (built ⟨9⟩ (pairCalls ⟨1⟩ ⟨2⟩)))
      (built ⟨9⟩ (pairCalls ⟨1⟩ ⟨2⟩)) [] := by
    apply pairJson_prints
    · decide +kernel
    · decide +kernel
  refine ⟨hprint, fun hback => ?_⟩
  have hreadable := (reads_back_iff hprint (by decide +kernel)
    (representable_of_built ⟨9⟩ (pairCalls ⟨1⟩ ⟨2⟩))).mp hback
  have horder := (hreadable ⟨1⟩ (by decide +kernel)).2 ⟨2⟩ (by decide +kernel)
  revert horder
  decide +kernel

end pair

end DetailedGraph

end SpatialPlatform.Engine
