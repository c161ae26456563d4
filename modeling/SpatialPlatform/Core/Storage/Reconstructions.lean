import SpatialPlatform.Core.Storage.Scenes

/-!
# The revisions of a scene

The table `reconstructions` of `core/storage/metadata_db.cpp`. Revisions are
added and change their status; they are never taken away. The two queries order
by `created_at_ns` alone, and SQLite says nothing about the order of rows that
are equal there, so a query takes the choice among them as an argument.
-/

namespace SpatialPlatform.Core

/-- `ReconstructionRow`. -/
structure ReconstructionRow where
  reconstructionId : Uuid
  sceneId : Uuid
  coordinateFrame : String := ""
  status : String := ""
  createdAtNs : Int64 := 0
  documentJson : String := ""
  deriving DecidableEq, Repr

namespace ReconstructionRow

/-- The row counts as a succeeded revision of the scene. -/
def SucceededIn (row : ReconstructionRow) (sceneId : Uuid) : Prop :=
  row.sceneId = sceneId ∧ row.status = "succeeded"

instance (row : ReconstructionRow) (sceneId : Uuid) : Decidable (row.SucceededIn sceneId) :=
  inferInstanceAs (Decidable (_ ∧ _))

/-- `UPDATE reconstructions SET status = ? WHERE reconstruction_id = ?`, on one row. -/
def updated (reconstructionId : Uuid) (status : String) (row : ReconstructionRow) :
    ReconstructionRow :=
  if row.reconstructionId = reconstructionId then { row with status } else row

variable (reconstructionId : Uuid) (status : String) (row : ReconstructionRow)

@[simp] theorem reconstructionId_updated :
    (row.updated reconstructionId status).reconstructionId = row.reconstructionId := by
  unfold updated
  split <;> rfl

@[simp] theorem sceneId_updated :
    (row.updated reconstructionId status).sceneId = row.sceneId := by
  unfold updated
  split <;> rfl

@[simp] theorem createdAtNs_updated :
    (row.updated reconstructionId status).createdAtNs = row.createdAtNs := by
  unfold updated
  split <;> rfl

variable {reconstructionId row} in
theorem updated_of_ne (h : row.reconstructionId ≠ reconstructionId) :
    row.updated reconstructionId status = row :=
  if_neg h

end ReconstructionRow

/-- The revisions, next to the tables of the scenes that they belong to. -/
structure RevisionTables where
  scenes : SceneTables := {}
  revisions : List ReconstructionRow := []
  nodup : (revisions.map ReconstructionRow.reconstructionId).Nodup

namespace RevisionTables

/-- The row with the identifier. -/
def find (db : RevisionTables) (reconstructionId : Uuid) : Option ReconstructionRow :=
  db.revisions.find? (·.reconstructionId = reconstructionId)

/-- `AddReconstruction`. -/
def addReconstruction (row : ReconstructionRow) (db : RevisionTables) :
    Except ProjectError RevisionTables :=
  if db.scenes.readOnly then .error ⟨.storageReadOnly, "cannot write to a read-only project"⟩
  else if h : row.reconstructionId ∈ db.revisions.map ReconstructionRow.reconstructionId then
    .error ⟨.schemaInvalid, "cannot insert reconstruction row: " ++
      "UNIQUE constraint failed: reconstructions.reconstruction_id"⟩
  else if db.scenes.scenes.all (·.sceneId ≠ row.sceneId) then
    .error ⟨.schemaInvalid, "cannot insert reconstruction row: FOREIGN KEY constraint failed"⟩
  else .ok { db with
    revisions := db.revisions ++ [row]
    nodup := by
      rw [List.map_append, List.nodup_append]
      refine ⟨db.nodup, List.nodup_singleton _, ?_⟩
      rintro _ hmem _ hrow rfl
      rw [List.map_singleton, List.mem_singleton] at hrow
      exact h (hrow ▸ hmem) }

/-- The transitions that `SetReconstructionStatus` allows. -/
def canTransition (current next : String) : Bool :=
  if current = "reconstructing" then next = "succeeded" || next = "failed" || next = "superseded"
  else if current = "succeeded" then next = "superseded"
  else false

/-- The tables with another status in one row. -/
def withStatus (reconstructionId : Uuid) (status : String) (db : RevisionTables) : RevisionTables where
  scenes := db.scenes
  revisions := db.revisions.map (·.updated reconstructionId status)
  nodup := by
    have hids : ReconstructionRow.reconstructionId ∘ ReconstructionRow.updated reconstructionId status =
        ReconstructionRow.reconstructionId :=
      funext fun row => row.reconstructionId_updated reconstructionId status
    rw [List.map_map, hids]
    exact db.nodup

/-- `SetReconstructionStatus`. -/
def setReconstructionStatus (reconstructionId : Uuid) (newStatus : String) (db : RevisionTables) :
    Except ProjectError RevisionTables :=
  if db.scenes.readOnly then .error ⟨.storageReadOnly, "cannot write to a read-only project"⟩
  else match db.find reconstructionId with
    | none => .error ⟨.storageIo, "reconstruction row not found for status update: " ++
        formatUuid reconstructionId⟩
    | some row =>
        if canTransition row.status newStatus then .ok (db.withStatus reconstructionId newStatus)
        else .error ⟨.storageIo, "invalid reconstruction status transition '" ++ row.status ++
          "' -> '" ++ newStatus ++ "' for " ++ formatUuid reconstructionId⟩

/-- The rows that can come last in the order of `created_at_ns`. -/
def newest (rows : List ReconstructionRow) : List ReconstructionRow :=
  rows.filter fun row => rows.all fun other => other.createdAtNs ≤ row.createdAtNs

/-- The row that does, `tie` being the choice among equal ones. -/
def lastByClock (tie : Nat) (rows : List ReconstructionRow) : Option ReconstructionRow :=
  (newest rows)[tie % (newest rows).length]?

/-- The last row of `FindReconstructionsByScene`. -/
def newestReconstructionOfScene (tie : Nat) (db : RevisionTables) (sceneId : Uuid) :
    Option ReconstructionRow :=
  lastByClock tie (db.revisions.filter (·.sceneId = sceneId))

/-- `QueryLatestReconstructionByScene`. -/
def queryLatestReconstructionByScene (tie : Nat) (db : RevisionTables) (sceneId : Uuid) :
    Option ReconstructionRow :=
  lastByClock tie (db.revisions.filter (·.SucceededIn sceneId))

/-- How many succeeded revisions the scene has. -/
def succeededCount (db : RevisionTables) (sceneId : Uuid) : Nat :=
  db.revisions.countP (·.SucceededIn sceneId)

/-! ## What the writes do

An insert appends, a status update changes one row in its place. -/

variable {db db' : RevisionTables} {row : ReconstructionRow} {reconstructionId sceneId : Uuid}
  {status : String}

theorem addReconstruction_eq_ok (h : db.addReconstruction row = .ok db') :
    db'.scenes = db.scenes ∧ db'.revisions = db.revisions ++ [row] := by
  unfold addReconstruction at h
  split at h
  · cases h
  · split at h
    · cases h
    · split at h
      · cases h
      · cases h
        exact ⟨rfl, rfl⟩

theorem setReconstructionStatus_eq_ok
    (h : db.setReconstructionStatus reconstructionId status = .ok db') :
    db' = db.withStatus reconstructionId status := by
  unfold setReconstructionStatus at h
  split at h
  · cases h
  · split at h
    · cases h
    · split at h
      · exact (Except.ok.inj h).symm
      · cases h

/-- The one row that changes. -/
theorem revisions_withStatus {before after : List ReconstructionRow}
    (h : db.revisions = before ++ row :: after) (status : String) :
    (db.withStatus row.reconstructionId status).revisions = before ++ { row with status } :: after := by
  have hnodup := db.nodup
  rw [h, List.map_append, List.map_cons, List.nodup_middle, List.nodup_cons] at hnodup
  have hother : ∀ other ∈ before ++ after, other.updated row.reconstructionId status = other := by
    intro other hother
    apply ReconstructionRow.updated_of_ne
    intro heq
    apply hnodup.1
    rw [← List.map_append, ← heq]
    exact List.mem_map_of_mem hother
  have hbefore : before.map (·.updated row.reconstructionId status) = before :=
    (List.map_congr_left fun other hmem => hother other (List.mem_append_left _ hmem)).trans
      (List.map_id _)
  have hafter : after.map (·.updated row.reconstructionId status) = after :=
    (List.map_congr_left fun other hmem => hother other (List.mem_append_right _ hmem)).trans
      (List.map_id _)
  show db.revisions.map _ = _
  rw [h, List.map_append, List.map_cons, hbefore, hafter]
  simp [ReconstructionRow.updated]

/-! ## The last row -/

variable {rows : List ReconstructionRow} {last : ReconstructionRow} {tie : Nat}

theorem mem_newest : row ∈ newest rows ↔
    row ∈ rows ∧ ∀ other ∈ rows, other.createdAtNs ≤ row.createdAtNs := by
  simp [newest]

theorem mem_newest_of_lastByClock (h : lastByClock tie rows = some row) : row ∈ newest rows :=
  List.mem_of_getElem? h

/-- Every row that can be the last one is it for some choice. -/
theorem exists_lastByClock (h : row ∈ newest rows) : ∃ tie, lastByClock tie rows = some row := by
  obtain ⟨i, hi, hrow⟩ := List.mem_iff_getElem.mp h
  refine ⟨i, ?_⟩
  rw [lastByClock, Nat.mod_eq_of_lt hi, List.getElem?_eq_getElem hi, hrow]

/-- A row is the last one whatever the choice exactly when all others are before it. -/
theorem lastByClock_eq_iff (hmem : last ∈ rows) :
    (∀ tie, lastByClock tie rows = some last) ↔
      ∀ row ∈ rows, row ≠ last → row.createdAtNs < last.createdAtNs := by
  constructor
  · intro h row hrow hne
    by_contra hlate
    have hle : last.createdAtNs ≤ row.createdAtNs := Int64.not_lt.mp hlate
    have hlast := (mem_newest.mp (mem_newest_of_lastByClock (h 0))).2
    have hnewest : row ∈ newest rows :=
      mem_newest.mpr ⟨hrow, fun other hother => Int64.le_trans (hlast other hother) hle⟩
    obtain ⟨tie, htie⟩ := exists_lastByClock hnewest
    exact hne (Option.some.inj (htie.symm.trans (h tie)))
  · intro h tie
    have hlast : last ∈ newest rows := by
      refine mem_newest.mpr ⟨hmem, fun other hother => ?_⟩
      by_cases heq : other = last
      · rw [heq]
        exact Int64.le_refl _
      · exact Int64.le_of_lt (h other hother heq)
    have honly : ∀ row ∈ newest rows, row = last := by
      intro row hrow
      by_contra hne
      obtain ⟨hmem', hmax⟩ := mem_newest.mp hrow
      exact absurd (h row hmem' hne) (Int64.not_lt.mpr (hmax last hmem))
    have hindex : tie % (newest rows).length < (newest rows).length :=
      Nat.mod_lt _ (List.length_pos_of_mem hlast)
    rw [lastByClock, List.getElem?_eq_getElem hindex, honly _ (List.getElem_mem hindex)]

end RevisionTables

end SpatialPlatform.Core
