import SpatialPlatform.Engine.Scheduler.StateStore
import SpatialPlatform.Engine.Task.Serialization

/-!
# Execution records as JSON and as rows

`engine/execution/execution_record.cpp`, and `RecordRun` and `LoadRuns` of
`engine/scheduler/scheduler_state_store.cpp`, with all fields of a record. A
missing worker is a JSON `null` and an SQL `NULL`; the reader makes the nil id
of it.

* `fromJson_toJson`, `readRow_rowOf` — what becomes of a record on either way.
-/

namespace SpatialPlatform.Engine.ExecutionRecords

open SpatialPlatform.Core

/-! ## Records -/

structure SoftwareEnvironment where
  engineVersion : String := ""
  gitCommit : String := ""
  protocolVersion : String := ""
  deriving DecidableEq, Repr

structure HardwareInfo where
  os : String := ""
  arch : String := ""
  cpu : String := ""
  ramBytes : Int64 := 0
  gpu : String := ""
  deriving DecidableEq, Repr

/-- `ExecutionRecord`, with the fields that the scheduler only fills in. -/
structure ExecutionRecord where
  id : Uuid := .nil
  taskId : Uuid := .nil
  attempt : Int32 := 1
  workerId : Option Uuid := none
  inputs : List ArtifactRef := []
  outputs : List ArtifactRef := []
  environment : SoftwareEnvironment := {}
  hardware : HardwareInfo := {}
  startedAtNs : Int64 := 0
  endedAtNs : Int64 := 0
  terminalState : TaskStatus := .failed
  error : Option ErrorRecord := none
  deriving DecidableEq, Repr

/-! ## JSON

A document has a member for each field. The worker and the error may be missing,
and are then written as null. -/

def SoftwareEnvironment.members (e : SoftwareEnvironment) : List (String × Json) :=
  [("engine_version", .str e.engineVersion),
    ("git_commit", .str e.gitCommit),
    ("protocol_version", .str e.protocolVersion)]

def HardwareInfo.members (h : HardwareInfo) : List (String × Json) :=
  [("os", .str h.os),
    ("arch", .str h.arch),
    ("cpu", .str h.cpu),
    ("ram_bytes", .int h.ramBytes.toInt),
    ("gpu", .str h.gpu)]

def errorMembers (e : ErrorRecord) : List (String × Json) :=
  [("code", .str e.code), ("message", .str e.message), ("recoverable", .bool e.recoverable)]

/-- An error, if there is one. -/
def errorJson : Option ErrorRecord → Json
  | some e => .object (errorMembers e)
  | none => .null

/-- A worker, if there is one. -/
def workerJson : Option Uuid → Json
  | some id => .str (formatUuid id)
  | none => .null

/-- `ToJson` of an environment. -/
def environmentToJson (json : JsonLibrary) (e : SoftwareEnvironment) : String :=
  json.dump none (.object e.members)

/-- `ToJson` of a machine. -/
def hardwareToJson (json : JsonLibrary) (h : HardwareInfo) : String :=
  json.dump none (.object h.members)

/-- The members of a record, with what stands for its parts. -/
def recordMembers (id taskId : Uuid) (attempt : Int32) (worker : Json)
    (startedAtNs endedAtNs : Int64) (terminalState : String)
    (error inputs outputs environment hardware : Json) : List (String × Json) :=
  [("id", .str (formatUuid id)),
    ("task_id", .str (formatUuid taskId)),
    ("attempt", .int attempt.toInt),
    ("worker_id", worker),
    ("inputs", inputs),
    ("outputs", outputs),
    ("environment", environment),
    ("hardware", hardware),
    ("started_at_ns", .int startedAtNs.toInt),
    ("ended_at_ns", .int endedAtNs.toInt),
    ("terminal_state", .str terminalState),
    ("error", error)]

/-- `ToJson` of a record. -/
def toJson (json : JsonLibrary) (r : ExecutionRecord) : Except ReadException String := do
  let environment ← json.read (environmentToJson json r.environment)
  let hardware ← json.read (hardwareToJson json r.hardware)
  return json.dump none (.object (recordMembers r.id r.taskId r.attempt (workerJson r.workerId)
    r.startedAtNs r.endedAtNs r.terminalState.name (errorJson r.error) (.arr (r.inputs.map .str))
    (.arr (r.outputs.map .str)) environment hardware))

/-- `UuidOrNil`. -/
def uuidOrNil : Json → Except ReadException Uuid
  | .null => .ok .nil
  | j => do fromProject (parseUuid (← j.as Json.getString))

/-- The error of a record. -/
def errorFromJson : Json → Except ReadException (Option ErrorRecord)
  | .null => .ok none
  | j => do
      let code ← j.valueOr Json.getString "code" ""
      let message ← j.valueOr Json.getString "message" ""
      let recoverable ← j.valueOr getBool "recoverable" false
      return some { code, message, recoverable }

def environmentFromJson (env : Json) : Except ReadException SoftwareEnvironment := do
  let engineVersion ← env.valueOr Json.getString "engine_version" ""
  let gitCommit ← env.valueOr Json.getString "git_commit" ""
  let protocolVersion ← env.valueOr Json.getString "protocol_version" ""
  return { engineVersion, gitCommit, protocolVersion }

def hardwareFromJson (hw : Json) : Except ReadException HardwareInfo := do
  let os ← hw.valueOr Json.getString "os" ""
  let arch ← hw.valueOr Json.getString "arch" ""
  let cpu ← hw.valueOr Json.getString "cpu" ""
  let ramBytes ← hw.valueOr getInt64 "ram_bytes" 0
  let gpu ← hw.valueOr Json.getString "gpu" ""
  return { os, arch, cpu, ramBytes, gpu }

/-- `ExecutionRecordFromJson`. -/
def fromJson (json : JsonLibrary) (text : String) : Except ReadException ExecutionRecord := do
  let j ← json.read text
  let id ← fromProject (parseUuid (← (← j.at "id").as Json.getString))
  let taskId ← fromProject (parseUuid (← (← j.at "task_id").as Json.getString))
  let attempt ← j.valueOr getInt32 "attempt" 1
  let workerId ← uuidOrNil (← j.at "worker_id")
  let inputs ← (← j.at "inputs").as getTexts
  let outputs ← (← j.at "outputs").as getTexts
  let environment ← environmentFromJson (← j.at "environment")
  let hardware ← hardwareFromJson (← j.at "hardware")
  let startedAtNs ← j.valueOr getInt64 "started_at_ns" 0
  let endedAtNs ← j.valueOr getInt64 "ended_at_ns" 0
  let terminalState ← fromProject
    (TaskStatus.parse (← j.valueOr Json.getString "terminal_state" "failed"))
  let error ← errorFromJson (← j.at "error")
  return {
    id, taskId, attempt, inputs, outputs, environment, hardware, startedAtNs, endedAtNs,
    terminalState, error
    -- a `Uuid` assigned to the optional
    workerId := some workerId }

/-! ## Rows

A row has columns for the fields, and a time of zero is stored as none. -/

/-- One row of `task_runs`. -/
structure RunRow where
  runId : Uuid
  taskId : Uuid
  attempt : Int32
  workerId : Option Uuid
  startedAtNs : Option Int64
  endedAtNs : Option Int64
  terminalState : Option String
  errorJson : String
  inputRefsJson : String
  outputRefsJson : String
  environmentJson : String
  hardwareJson : String
  deriving DecidableEq, Repr

/-- What is bound for a time: zero stands for none. -/
def timeColumn (ns : Int64) : Option Int64 := if ns ≠ 0 then some ns else none

/-- The row of a record. -/
def rowOf (json : JsonLibrary) (r : ExecutionRecord) : RunRow where
  runId := r.id
  taskId := r.taskId
  attempt := r.attempt
  workerId := r.workerId
  startedAtNs := timeColumn r.startedAtNs
  endedAtNs := timeColumn r.endedAtNs
  terminalState := some r.terminalState.name
  errorJson :=
    match r.error with
    | some e => json.dump none (.object (errorMembers e))
    | none => "null"
  inputRefsJson := json.dump none (.arr (r.inputs.map .str))
  outputRefsJson := json.dump none (.arr (r.outputs.map .str))
  environmentJson := environmentToJson json r.environment
  hardwareJson := hardwareToJson json r.hardware

/-- The tables `tasks` and `task_runs`, as far as runs go. -/
structure RunTables where
  tasks : List Uuid := []
  runs : List RunRow := []

/-- `RecordRun`. The primary key and the reference to the task can make it fail. -/
def RunTables.recordRun (json : JsonLibrary) (tables : RunTables) (r : ExecutionRecord) :
    Except ProjectError RunTables :=
  if r.id ∈ tables.runs.map RunRow.runId then
    .error ⟨.schedPersistence,
      "cannot insert run row: UNIQUE constraint failed: task_runs.run_id"⟩
  else if r.taskId ∉ tables.tasks then
    .error ⟨.schedPersistence, "cannot insert run row: FOREIGN KEY constraint failed"⟩
  else .ok { tables with runs := tables.runs ++ [rowOf json r] }

/-- One row of the result of `LoadRuns`. -/
def readRow (json : JsonLibrary) (row : RunRow) : Except ReadException ExecutionRecord := do
  let error ← json.read row.errorJson
  let inputs ← json.read row.inputRefsJson
  let outputs ← json.read row.outputRefsJson
  let environment ← json.read row.environmentJson
  let hardware ← json.read row.hardwareJson
  -- a number column that is `NULL` is read as zero
  fromJson json (json.dump none (.object (recordMembers row.runId row.taskId row.attempt
    (workerJson row.workerId) (row.startedAtNs.getD 0) (row.endedAtNs.getD 0)
    (row.terminalState.getD "failed") error inputs outputs environment hardware)))

/-- `LoadRuns`. -/
def RunTables.loadRuns (json : JsonLibrary) (tables : RunTables) (taskId : Uuid) :
    Except ReadException (List ExecutionRecord) :=
  let rows := tables.runs.filter fun row => row.taskId = taskId
  (rows.insertionSort fun row row' => row.attempt ≤ row'.attempt).mapM (readRow json)

/-- The tables after calls of `RecordRun`; a call that throws leaves them as they are. -/
def RunTables.recorded (json : JsonLibrary) (tasks : List Uuid) (records : List ExecutionRecord) :
    RunTables :=
  records.foldl (fun tables r => (tables.recordRun json r).toOption.getD tables) { tasks := tasks }

/-! ## The round trips

Through JSON and through the columns of a row. A worker that is missing is
written as null and read as the nil id; everything else comes back. -/

/-- What the readers make of a record. -/
def restored (r : ExecutionRecord) : ExecutionRecord :=
  { r with workerId := some (r.workerId.getD .nil) }

theorem restored_eq_iff {r : ExecutionRecord} : restored r = r ↔ r.workerId.isSome = true := by
  cases hworker : r.workerId with
  | none =>
      refine iff_of_false (fun heq => ?_) (by simp)
      have hsome := congrArg ExecutionRecord.workerId heq
      simp [restored, hworker] at hsome
  | some id =>
      refine iff_of_true ?_ rfl
      rw [restored, hworker]
      show { r with workerId := some id } = r
      rw [← hworker]

/-- The document of a record. -/
def document (r : ExecutionRecord) : Json :=
  .object (recordMembers r.id r.taskId r.attempt (workerJson r.workerId) r.startedAtNs r.endedAtNs
    r.terminalState.name (errorJson r.error) (.arr (r.inputs.map .str))
    (.arr (r.outputs.map .str)) (.object r.environment.members) (.object r.hardware.members))

/-- The library reads back what it prints for a record. -/
structure Printed (json : JsonLibrary) (r : ExecutionRecord) : Prop where
  environment : json.RoundTrips none (.object r.environment.members)
  hardware : json.RoundTrips none (.object r.hardware.members)
  inputs : json.RoundTrips none (.arr (r.inputs.map .str))
  outputs : json.RoundTrips none (.arr (r.outputs.map .str))
  error : ∀ e, r.error = some e → json.RoundTrips none (.object (errorMembers e))
  null : json.parse "null" = .ok .null
  document : json.RoundTrips none (document r)

section roundtrip

variable {json : JsonLibrary} {r : ExecutionRecord}

theorem environmentFromJson_object (e : SoftwareEnvironment) :
    environmentFromJson (.object e.members) = .ok e := by
  have hkeys : (e.members.map (·.1)).Nodup := by simp [SoftwareEnvironment.members]
  have htext : ∀ key text, (key, .str text) ∈ e.members →
      (Json.object e.members).valueOr Json.getString key "" = .ok text :=
    fun _ text hmem => valueOr_object hkeys "" hmem (getString_str text)
  unfold environmentFromJson
  rw [htext "engine_version" e.engineVersion (by simp [SoftwareEnvironment.members]),
    htext "git_commit" e.gitCommit (by simp [SoftwareEnvironment.members]),
    htext "protocol_version" e.protocolVersion (by simp [SoftwareEnvironment.members])]
  rfl

theorem hardwareFromJson_object (h : HardwareInfo) :
    hardwareFromJson (.object h.members) = .ok h := by
  have hkeys : (h.members.map (·.1)).Nodup := by simp [HardwareInfo.members]
  have htext : ∀ key text, (key, .str text) ∈ h.members →
      (Json.object h.members).valueOr Json.getString key "" = .ok text :=
    fun _ text hmem => valueOr_object hkeys "" hmem (getString_str text)
  unfold hardwareFromJson
  rw [htext "os" h.os (by simp [HardwareInfo.members]),
    htext "arch" h.arch (by simp [HardwareInfo.members]),
    htext "cpu" h.cpu (by simp [HardwareInfo.members]),
    htext "gpu" h.gpu (by simp [HardwareInfo.members]),
    valueOr_object hkeys 0 (by simp [HardwareInfo.members]) (getInt64_toInt h.ramBytes)]
  rfl

theorem errorFromJson_errorJson (error : Option ErrorRecord) :
    errorFromJson (errorJson error) = .ok error := by
  cases error with
  | none => rfl
  | some e =>
      have hkeys : ((errorMembers e).map (·.1)).Nodup := by simp [errorMembers]
      have htext : ∀ key text, (key, .str text) ∈ errorMembers e →
          (errorJson (some e)).valueOr Json.getString key "" = .ok text :=
        fun _ text hmem => valueOr_object hkeys "" hmem (getString_str text)
      have hrecoverable : (errorJson (some e)).valueOr getBool "recoverable" false =
          .ok e.recoverable :=
        valueOr_object hkeys false (by simp [errorMembers]) (getBool_bool e.recoverable)
      show ((errorJson (some e)).valueOr Json.getString "code" "" >>= _) = _
      rw [htext "code" e.code (by simp [errorMembers]), ok_bind,
        htext "message" e.message (by simp [errorMembers]), ok_bind, hrecoverable]
      rfl

/-- A missing worker comes back as the nil id. -/
theorem uuidOrNil_workerJson (workerId : Option Uuid) :
    uuidOrNil (workerJson workerId) = .ok (workerId.getD .nil) := by
  cases workerId with
  | none => rfl
  | some id => exact fromProject_ok (parseUuid_formatUuid id)

/-- The text of a record is read back with a worker. -/
theorem fromJson_document (hprint : json.RoundTrips none (document r)) :
    fromJson json (json.dump none (document r)) = .ok (restored r) := by
  have hkeys : ∀ {worker error inputs outputs environment hardware : Json},
      ((recordMembers r.id r.taskId r.attempt worker r.startedAtNs r.endedAtNs r.terminalState.name
        error inputs outputs environment hardware).map (·.1)).Nodup := by
    simp [recordMembers]
  have htext : ∀ text : String, (Json.str text).as Json.getString = .ok text := fun _ => rfl
  have htexts : ∀ texts : List String, (Json.arr (texts.map .str)).as getTexts = .ok texts :=
    fun texts => as_eq_ok_iff.mpr (getTexts_arr texts)
  have hat : ∀ (key : String) (j : Json), (key, j) ∈ recordMembers r.id r.taskId r.attempt
      (workerJson r.workerId) r.startedAtNs r.endedAtNs r.terminalState.name (errorJson r.error)
      (.arr (r.inputs.map .str)) (.arr (r.outputs.map .str)) (.object r.environment.members)
      (.object r.hardware.members) → (document r).at key = .ok j :=
    fun _ _ hmem => at_object hkeys hmem
  have htime : ∀ (key : String) (n : Int64), (key, .int n.toInt) ∈ recordMembers r.id r.taskId
      r.attempt (workerJson r.workerId) r.startedAtNs r.endedAtNs r.terminalState.name
      (errorJson r.error) (.arr (r.inputs.map .str)) (.arr (r.outputs.map .str))
      (.object r.environment.members) (.object r.hardware.members) →
      (document r).valueOr getInt64 key 0 = .ok n :=
    fun _ n hmem => valueOr_object hkeys 0 hmem (getInt64_toInt n)
  have hattempt : (document r).valueOr getInt32 "attempt" 1 = .ok r.attempt :=
    valueOr_object hkeys 1 (by simp [recordMembers]) (getInt32_toInt r.attempt)
  have hstate : (document r).valueOr Json.getString "terminal_state" "failed" =
      .ok r.terminalState.name :=
    valueOr_object hkeys "failed" (by simp [recordMembers]) (getString_str _)
  -- every field is where the document has it
  unfold fromJson
  rw [read_eq_ok hprint, ok_bind]
  simp only [hat "id" (.str (formatUuid r.id)) (by simp [recordMembers]),
    hat "task_id" (.str (formatUuid r.taskId)) (by simp [recordMembers]),
    hat "worker_id" (workerJson r.workerId) (by simp [recordMembers]),
    hat "inputs" (.arr (r.inputs.map .str)) (by simp [recordMembers]),
    hat "outputs" (.arr (r.outputs.map .str)) (by simp [recordMembers]),
    hat "environment" (.object r.environment.members) (by simp [recordMembers]),
    hat "hardware" (.object r.hardware.members) (by simp [recordMembers]),
    hat "error" (errorJson r.error) (by simp [recordMembers]),
    htime "started_at_ns" r.startedAtNs (by simp [recordMembers]),
    htime "ended_at_ns" r.endedAtNs (by simp [recordMembers]),
    hattempt, hstate, htext, htexts, fromProject_ok (parseUuid_formatUuid _),
    fromProject_ok (TaskStatus.parse_name _), uuidOrNil_workerJson, environmentFromJson_object,
    hardwareFromJson_object, errorFromJson_errorJson, ok_bind]
  rfl

/-- A record on its way through JSON. -/
theorem fromJson_toJson (h : Printed json r) :
    toJson json r >>= fromJson json = .ok (restored r) := by
  have htext : toJson json r = .ok (json.dump none (document r)) := by
    unfold toJson
    rw [environmentToJson, hardwareToJson, read_eq_ok h.environment, read_eq_ok h.hardware]
    rfl
  rw [htext]
  exact fromJson_document h.document

theorem timeColumn_getD (ns : Int64) : (timeColumn ns).getD 0 = ns := by
  rw [timeColumn]
  split
  · rfl
  · next hzero => exact (not_not.mp hzero).symm

/-- A record on its way through a row. -/
theorem readRow_rowOf (h : Printed json r) : readRow json (rowOf json r) = .ok (restored r) := by
  have herror : json.read (rowOf json r).errorJson = .ok (errorJson r.error) := by
    cases herr : r.error with
    | none =>
        simp only [rowOf, herr]
        exact read_eq_ok h.null
    | some e =>
        simp only [rowOf, herr]
        exact read_eq_ok (h.error e herr)
  have hinputs : json.read (rowOf json r).inputRefsJson = .ok (.arr (r.inputs.map .str)) :=
    read_eq_ok h.inputs
  have houtputs : json.read (rowOf json r).outputRefsJson = .ok (.arr (r.outputs.map .str)) :=
    read_eq_ok h.outputs
  have henvironment : json.read (rowOf json r).environmentJson =
      .ok (.object r.environment.members) := read_eq_ok h.environment
  have hhardware : json.read (rowOf json r).hardwareJson = .ok (.object r.hardware.members) :=
    read_eq_ok h.hardware
  unfold readRow
  rw [herror, hinputs, houtputs, henvironment, hhardware]
  simp only [ok_bind]
  show fromJson json (json.dump none (.object (recordMembers r.id r.taskId r.attempt
    (workerJson r.workerId) ((timeColumn r.startedAtNs).getD 0) ((timeColumn r.endedAtNs).getD 0)
    r.terminalState.name _ _ _ _ _))) = _
  rw [timeColumn_getD, timeColumn_getD]
  exact fromJson_document h.document

end roundtrip

/-! ## Tables

`RecordRun` adds a row for a record and `LoadRuns` reads the rows of a task. Two
inductions: over the records that were added, each behind the others, and over
the rows that are read. -/

section tables

variable {json : JsonLibrary} {tasks : List Uuid} {records : List ExecutionRecord}
  {tables tables' : RunTables} {r : ExecutionRecord}

/-- What `RecordRun` adds. -/
theorem recordRun_eq_ok (h : tables.recordRun json r = .ok tables') :
    tables'.runs = tables.runs ++ [rowOf json r] := by
  unfold RunTables.recordRun at h
  split at h
  · cases h
  · split at h
    · cases h
    · cases h
      rfl

/-- Rows come from records. -/
theorem exists_record_of_recorded {row : RunRow}
    (h : row ∈ (RunTables.recorded json tasks records).runs) : ∃ r ∈ records, row = rowOf json r := by
  induction records using List.reverseRecOn with
  | nil => exact absurd h List.not_mem_nil
  | append_singleton records r ih =>
      rw [RunTables.recorded, List.foldl_concat] at h
      have hold : row ∈ (RunTables.recorded json tasks records).runs →
          ∃ r' ∈ records ++ [r], row = rowOf json r' := by
        intro hrow
        obtain ⟨r', hr', heq⟩ := ih hrow
        exact ⟨r', List.mem_append_left _ hr', heq⟩
      cases hcall : (RunTables.recorded json tasks records).recordRun json r with
      | error e =>
          apply hold
          rw [RunTables.recorded] at hcall
          rwa [hcall] at h
      | ok tables' =>
          have hruns := recordRun_eq_ok hcall
          rw [RunTables.recorded] at hcall
          rw [hcall] at h
          have hrow : row ∈ tables'.runs := h
          rw [hruns] at hrow
          rcases List.mem_append.mp hrow with hrow | hrow
          · exact hold hrow
          · exact ⟨r, by simp, by simpa using hrow⟩

/-- `LoadRuns` gives the records of the task as they are restored. -/
theorem loadRuns_eq_ok {taskId : Uuid}
    (hrows : ∀ row ∈ tables.runs, ∃ r, Printed json r ∧ row = rowOf json r) :
    ∃ runs, tables.loadRuns json taskId = .ok runs ∧
      ∀ r', r' ∈ runs ↔ ∃ row ∈ tables.runs, row.taskId = taskId ∧ readRow json row = .ok r' := by
  let read (row : RunRow) : ExecutionRecord := (readRow json row).toOption.getD {}
  have hread : ∀ row ∈ tables.runs, readRow json row = .ok (read row) := by
    intro row hrow
    obtain ⟨r, hprint, rfl⟩ := hrows row hrow
    exact eq_ok_getD _ (by rw [readRow_rowOf hprint]; rfl)
  let rows := (tables.runs.filter fun row => row.taskId = taskId).insertionSort
    fun row row' => row.attempt ≤ row'.attempt
  have hmem : ∀ row, row ∈ rows ↔ row ∈ tables.runs ∧ row.taskId = taskId := by
    intro row
    rw [(List.perm_insertionSort _ _).mem_iff, List.mem_filter, decide_eq_true_eq]
  have hall : ∀ l : List RunRow, l ⊆ rows → l.mapM (readRow json) = .ok (l.map read) := by
    intro l hsub
    induction l with
    | nil => rfl
    | cons row l ih =>
        rw [List.mapM_cons, hread row ((hmem row).mp (hsub List.mem_cons_self)).1,
          ih (List.subset_of_cons_subset hsub)]
        rfl
  refine ⟨rows.map read, hall rows (List.Subset.refl _), fun r' => ?_⟩
  rw [List.mem_map]
  constructor
  · intro h
    obtain ⟨row, hrow, rfl⟩ := h
    obtain ⟨hin, htask⟩ := (hmem row).mp hrow
    exact ⟨row, hin, htask, hread row hin⟩
  · intro h
    obtain ⟨row, hin, htask, hok⟩ := h
    rw [hread row hin] at hok
    exact ⟨row, (hmem row).mpr ⟨hin, htask⟩, Except.ok.inj hok⟩

/-- Only a record with a worker is among the runs that are loaded. -/
theorem mem_loadRuns_iff {taskId : Uuid} {runs : List ExecutionRecord}
    (hrows : ∀ row ∈ tables.runs, ∃ r, Printed json r ∧ row = rowOf json r)
    (hruns : tables.loadRuns json taskId = .ok runs) (hprint : Printed json r)
    (hrow : rowOf json r ∈ tables.runs) (htask : r.taskId = taskId) :
    r ∈ runs ↔ r.workerId.isSome = true := by
  obtain ⟨runs', hruns', hmem⟩ := @loadRuns_eq_ok json tables taskId hrows
  cases hruns.symm.trans hruns'
  rw [hmem]
  constructor
  · intro h
    obtain ⟨row, hin, _, hok⟩ := h
    obtain ⟨r', hprint', rfl⟩ := hrows row hin
    rw [readRow_rowOf hprint'] at hok
    rw [← Except.ok.inj hok]
    rfl
  · intro hworker
    refine ⟨rowOf json r, hrow, htask, ?_⟩
    rw [readRow_rowOf hprint, restored_eq_iff.mpr hworker]

/-- **A record survives JSON and its row exactly if it has a worker.** -/
theorem record_survives_iff (json : JsonLibrary) (tasks : List Uuid)
    (records : List ExecutionRecord) (r : ExecutionRecord) (tables : RunTables)
    (hprint : ∀ r' ∈ records ++ [r], Printed json r')
    (hstored : (RunTables.recorded json tasks records).recordRun json r = .ok tables) :
    (toJson json r >>= fromJson json = .ok r ∧
      ∃ runs, tables.loadRuns json r.taskId = .ok runs ∧ r ∈ runs) ↔
    r.workerId.isSome = true := by
  have hr : Printed json r := hprint r (by simp)
  have hruns := recordRun_eq_ok hstored
  -- every row was written for some record, so all rows of the task can be read
  have hrows : ∀ row ∈ tables.runs, ∃ r', Printed json r' ∧ row = rowOf json r' := by
    intro row hrow
    rw [hruns] at hrow
    rcases List.mem_append.mp hrow with hrow | hrow
    · obtain ⟨r', hr', heq⟩ := exists_record_of_recorded hrow
      exact ⟨r', hprint r' (List.mem_append_left _ hr'), heq⟩
    · exact ⟨r, hr, by simpa using hrow⟩
  have hrow : rowOf json r ∈ tables.runs := by
    rw [hruns]
    exact List.mem_append_right _ (List.mem_singleton_self _)
  obtain ⟨runs, hload, _⟩ := @loadRuns_eq_ok json tables r.taskId hrows
  rw [fromJson_toJson hr, Except.ok.injEq, restored_eq_iff]
  refine ⟨And.left, fun hworker => ⟨hworker, runs, hload, ?_⟩⟩
  exact (mem_loadRuns_iff hrows hload hr hrow rfl).mpr hworker

end tables

/-! A first attempt, by some worker or by none. -/

section attempt

private def firstAttempt (workerId : Option Uuid) : ExecutionRecord where
  id := ⟨1⟩
  taskId := ⟨2⟩
  workerId := workerId
  environment := { engineVersion := "0.1.0" }
  hardware := { os := "unknown", arch := "unknown" }
  startedAtNs := 100
  error := some ⟨"WORKER_CRASHED", "boom", true⟩

/-- What `dump` prints for its error. -/
private def crashText : String :=
  "\x7b\"code\":\"WORKER_CRASHED\",\"message\":\"boom\",\"recoverable\":true\x7d"

private def environmentText : String :=
  "\x7b\"engine_version\":\"0.1.0\",\"git_commit\":\"\",\"protocol_version\":\"\"\x7d"

private def hardwareText : String :=
  "\x7b\"arch\":\"unknown\",\"cpu\":\"\",\"gpu\":\"\",\"os\":\"unknown\"," ++
  "\"ram_bytes\":0\x7d"

/-- What it prints for the record. -/
private def attemptText (workerId : Option Uuid) : String :=
  "\x7b\"attempt\":1,\"ended_at_ns\":0,\"environment\":" ++ environmentText ++ ",\"error\":" ++
  crashText ++ ",\"hardware\":" ++ hardwareText ++ ",\"id\":\"" ++ formatUuid ⟨1⟩ ++
  "\",\"inputs\":[],\"outputs\":[],\"started_at_ns\":100,\"task_id\":\"" ++ formatUuid ⟨2⟩ ++
  "\",\"terminal_state\":\"failed\",\"worker_id\":" ++
  (match workerId with
    | some id => "\"" ++ formatUuid id ++ "\""
    | none => "null") ++ "\x7d"

/-- A library that knows these texts. -/
private def attemptJson (workerId : Option Uuid) : JsonLibrary where
  parse text :=
    if text = "null" then .ok .null
    else if text = "[]" then .ok (.arr [])
    else if text = crashText then .ok (errorJson (firstAttempt workerId).error)
    else if text = environmentText then .ok (.object (firstAttempt workerId).environment.members)
    else if text = hardwareText then .ok (.object (firstAttempt workerId).hardware.members)
    else if text = attemptText workerId then .ok (document (firstAttempt workerId))
    else .error (.parseError "syntax error")
  dump _ j :=
    match j with
    | .null => "null"
    | .arr _ => "[]"
    | j =>
        if (j.member? "code").isSome then crashText
        else if (j.member? "engine_version").isSome then environmentText
        else if (j.member? "os").isSome then hardwareText
        else attemptText workerId

/-- What it prints for an object. -/
private theorem attemptJson_dump (workerId : Option Uuid) (members : List (String × Json)) :
    (attemptJson workerId).dump none (.object members) =
      if ((Json.object members).member? "code").isSome then crashText
      else if ((Json.object members).member? "engine_version").isSome then environmentText
      else if ((Json.object members).member? "os").isSome then hardwareText
      else attemptText workerId := rfl

private theorem attemptJson_prints (workerId : Option Uuid)
    (hnew : ∀ text ∈ ["null", "[]", crashText, environmentText, hardwareText],
      attemptText workerId ≠ text) :
    Printed (attemptJson workerId) (firstAttempt workerId) := by
  have hcrash : crashText ≠ "null" ∧ crashText ≠ "[]" := by decide +kernel
  have henvironment : environmentText ≠ "null" ∧ environmentText ≠ "[]" ∧
      environmentText ≠ crashText := by decide +kernel
  have hhardware : hardwareText ≠ "null" ∧ hardwareText ≠ "[]" ∧ hardwareText ≠ crashText ∧
      hardwareText ≠ environmentText := by decide +kernel
  have hmissing : ∀ (key : String) (members : List (String × Json)), key ∉ members.map (·.1) →
      ((Json.object members).member? key).isSome = false := by
    intro key members hkey
    rw [Json.member?_object_of_notMem hkey]
    rfl
  -- the library looks at one member to tell the documents apart
  constructor
  · have hmember : ((Json.object (firstAttempt workerId).environment.members).member?
        "engine_version").isSome = true := by
      rw [Json.member?_object (by simp [SoftwareEnvironment.members])
        (show ("engine_version", Json.str "0.1.0") ∈ _ by
          simp [SoftwareEnvironment.members, firstAttempt])]
      rfl
    rw [JsonLibrary.RoundTrips, attemptJson_dump,
      hmissing "code" _ (by simp [SoftwareEnvironment.members]), hmember]
    simp [attemptJson, henvironment]
  · have hmember : ((Json.object (firstAttempt workerId).hardware.members).member?
        "os").isSome = true := by
      rw [Json.member?_object (by simp [HardwareInfo.members])
        (show ("os", Json.str "unknown") ∈ _ by simp [HardwareInfo.members, firstAttempt])]
      rfl
    rw [JsonLibrary.RoundTrips, attemptJson_dump,
      hmissing "code" _ (by simp [HardwareInfo.members]),
      hmissing "engine_version" _ (by simp [HardwareInfo.members]), hmember]
    simp [attemptJson, hhardware]
  · rfl
  · rfl
  · intro e he
    have hmember : ((Json.object (errorMembers e)).member? "code").isSome = true := by
      rw [Json.member?_object (by simp [errorMembers])
        (show ("code", Json.str e.code) ∈ _ by simp [errorMembers])]
      rfl
    rw [JsonLibrary.RoundTrips, attemptJson_dump, hmember]
    cases he
    simp [attemptJson, hcrash, errorJson, firstAttempt]
  · rfl
  · rw [JsonLibrary.RoundTrips, document, attemptJson_dump,
      hmissing "code" _ (by simp [recordMembers]),
      hmissing "engine_version" _ (by simp [recordMembers]),
      hmissing "os" _ (by simp [recordMembers])]
    simp only [List.forall_mem_cons] at hnew
    obtain ⟨h₁, h₂, h₃, h₄, h₅, _⟩ := hnew
    simp [attemptJson, h₁, h₂, h₃, h₄, h₅, document]

theorem worked_attempt_survives : ∃ tables,
    (RunTables.recorded (attemptJson (some ⟨7⟩)) [⟨2⟩] []).recordRun (attemptJson (some ⟨7⟩))
      (firstAttempt (some ⟨7⟩)) = .ok tables ∧
    (toJson (attemptJson (some ⟨7⟩)) (firstAttempt (some ⟨7⟩)) >>=
        fromJson (attemptJson (some ⟨7⟩)) = .ok (firstAttempt (some ⟨7⟩)) ∧
      ∃ runs, tables.loadRuns (attemptJson (some ⟨7⟩)) ⟨2⟩ = .ok runs ∧
        firstAttempt (some ⟨7⟩) ∈ runs) := by
  refine ⟨_, rfl, ?_⟩
  apply (record_survives_iff (attemptJson (some ⟨7⟩)) [⟨2⟩] [] (firstAttempt (some ⟨7⟩)) _ _ _).mpr
  · rfl
  · intro r hr
    rw [List.mem_singleton.mp hr]
    exact attemptJson_prints _ (by decide +kernel)
  · rfl

/-- An attempt without a worker. -/
theorem attempt_without_worker_changes :
    Printed (attemptJson none) (firstAttempt none) ∧
    ¬ (toJson (attemptJson none) (firstAttempt none) >>= fromJson (attemptJson none) =
      .ok (firstAttempt none)) ∧
    ∃ tables, (RunTables.recorded (attemptJson none) [⟨2⟩] []).recordRun (attemptJson none)
        (firstAttempt none) = .ok tables ∧
      ∀ runs, tables.loadRuns (attemptJson none) ⟨2⟩ = .ok runs → firstAttempt none ∉ runs := by
  have hprint : Printed (attemptJson none) (firstAttempt none) :=
    attemptJson_prints _ (by decide +kernel)
  refine ⟨hprint, ?_, _, rfl, fun runs hruns hmem => ?_⟩
  · rw [fromJson_toJson hprint, Except.ok.injEq, restored_eq_iff]
    simp [firstAttempt]
  · have hrows : ∀ row ∈ [rowOf (attemptJson none) (firstAttempt none)],
        ∃ r, Printed (attemptJson none) r ∧ row = rowOf (attemptJson none) r := by
      intro row hrow
      exact ⟨firstAttempt none, hprint, List.mem_singleton.mp hrow⟩
    have hworker := (mem_loadRuns_iff hrows hruns hprint (List.mem_singleton_self _) rfl).mp hmem
    cases hworker

end attempt

end SpatialPlatform.Engine.ExecutionRecords
