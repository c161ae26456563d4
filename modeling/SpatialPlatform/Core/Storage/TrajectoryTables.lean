import SpatialPlatform.Core.Artifacts.StoreFiles
import SpatialPlatform.Lib.Replace
import SpatialPlatform.Lib.Uniform

/-!
# The tables of loop closures, pose graphs and optimization results

The rows of migration 0008 that the correction of trajectories writes, with the
three upserts of `core/storage/metadata_db.cpp`. The tables have no other key
than the primary one and no foreign keys. What the upserts do to them is a
monoid (`replacements`) whose members are idempotent.
-/

namespace SpatialPlatform.Core

open SpatialPlatform.Lib

/-- `LoopClosureRow`. A candidate that is nil and a number that is NaN stand for `NULL`. -/
structure LoopClosureRow (R : Type) where
  closureId : Uuid
  trajectoryId : Uuid
  candidateId : Uuid
  sourceFrameId : Uuid
  targetFrameId : Uuid
  status : String
  inlierRatio : R
  inlierCount : Int64
  confidence : R
  temporalSeparationNs : Int64
  spatialSeparationM : R
  createdAtNs : Int64

structure PoseGraphRow where
  graphId : Uuid
  trajectoryId : Uuid
  sceneId : Uuid
  status : String
  nodeCount : Int64
  edgeCount : Int64
  odometryEdgeCount : Int64
  loopClosureEdgeCount : Int64
  priorEdgeCount : Int64
  createdAtNs : Int64
  documentJson : String

/-- `OptimizationResultRow`. A number that is NaN stands for `NULL`. -/
structure OptimizationResultRow (R : Type) where
  resultId : Uuid
  graphId : Uuid
  trajectoryId : Uuid
  status : String
  iterations : Int64
  initialError : R
  finalError : R
  errorReduction : R
  createdAtNs : Int64
  documentJson : String

/-- The three tables. -/
@[ext]
structure TrajectoryTables (R : Type) where
  loopClosures : List (LoopClosureRow R) := []
  poseGraphs : List PoseGraphRow := []
  optimizationResults : List (OptimizationResultRow R) := []

/-- `MetadataDb`, with these tables. -/
structure TrajectoryDb (R : Type) where
  readOnly : Bool := false
  tables : TrajectoryTables R := {}

section Upserts

variable {R : Type} (db : TrajectoryDb R)

/-- A statement that writes. -/
def TrajectoryDb.execute (write : TrajectoryTables R → TrajectoryTables R) :
    Except ProjectError (TrajectoryDb R) :=
  if db.readOnly then .error ⟨.storageReadOnly, "cannot write to a read-only project"⟩
  else .ok { db with tables := write db.tables }

/-- The row as it is bound to the statement. -/
def LoopClosureRow.stored (row : LoopClosureRow R) : LoopClosureRow R :=
  { row with status := columnText row.status }

def PoseGraphRow.stored (row : PoseGraphRow) : PoseGraphRow :=
  { row with status := columnText row.status, documentJson := columnText row.documentJson }

def OptimizationResultRow.stored (row : OptimizationResultRow R) : OptimizationResultRow R :=
  { row with status := columnText row.status, documentJson := columnText row.documentJson }

def TrajectoryTables.putLoopClosure (row : LoopClosureRow R) (tables : TrajectoryTables R) :
    TrajectoryTables R :=
  let loopClosures := replaceRow LoopClosureRow.closureId tables.loopClosures row.stored
  { tables with loopClosures }

def TrajectoryTables.putPoseGraph (row : PoseGraphRow) (tables : TrajectoryTables R) :
    TrajectoryTables R :=
  let poseGraphs := replaceRow PoseGraphRow.graphId tables.poseGraphs row.stored
  { tables with poseGraphs }

def TrajectoryTables.putOptimizationResult (row : OptimizationResultRow R)
    (tables : TrajectoryTables R) : TrajectoryTables R :=
  let optimizationResults :=
    replaceRow OptimizationResultRow.resultId tables.optimizationResults row.stored
  { tables with optimizationResults }

/-- `UpsertLoopClosure`. -/
def TrajectoryDb.upsertLoopClosure (row : LoopClosureRow R) : Except ProjectError (TrajectoryDb R) :=
  db.execute (.putLoopClosure row)

/-- `UpsertPoseGraph`. -/
def TrajectoryDb.upsertPoseGraph (row : PoseGraphRow) : Except ProjectError (TrajectoryDb R) :=
  db.execute (.putPoseGraph row)

/-- `UpsertOptimizationResult`. -/
def TrajectoryDb.upsertOptimizationResult (row : OptimizationResultRow R) :
    Except ProjectError (TrajectoryDb R) :=
  db.execute (.putOptimizationResult row)

end Upserts

namespace TrajectoryTables

variable {R : Type}

/-! ## Replacements

Three tables are written by upserts, each by its own key, so a list of upserts
is one list for each table. -/

/-- Each table with some rows put into it. -/
def replaceAll (tables rows : TrajectoryTables R) : TrajectoryTables R where
  loopClosures := replaceRows LoopClosureRow.closureId tables.loopClosures rows.loopClosures
  poseGraphs := replaceRows PoseGraphRow.graphId tables.poseGraphs rows.poseGraphs
  optimizationResults :=
    replaceRows OptimizationResultRow.resultId tables.optimizationResults rows.optimizationResults

/-- What upserts do to the tables. -/
def replacements (R : Type) : Submonoid (Function.End (TrajectoryTables R)) where
  carrier := { f | ∃ rows, ∀ tables, f tables = replaceAll tables rows }
  one_mem' := ⟨{}, fun _ => rfl⟩
  mul_mem' := by
    rintro f g ⟨rows, hf⟩ ⟨rows', hg⟩
    refine ⟨⟨rows'.loopClosures ++ rows.loopClosures, rows'.poseGraphs ++ rows.poseGraphs,
      rows'.optimizationResults ++ rows.optimizationResults⟩, fun tables => ?_⟩
    show f (g tables) = _
    rw [hf, hg]
    simp only [replaceAll, replaceRows_append]

variable {f : Function.End (TrajectoryTables R)}

theorem putLoopClosure_mem (row : LoopClosureRow R) : putLoopClosure row ∈ replacements R :=
  ⟨{ loopClosures := [row.stored] }, fun _ => rfl⟩

theorem putPoseGraph_mem (row : PoseGraphRow) : putPoseGraph row ∈ replacements R :=
  ⟨{ poseGraphs := [row.stored] }, fun _ => rfl⟩

theorem putOptimizationResult_mem (row : OptimizationResultRow R) :
    putOptimizationResult row ∈ replacements R :=
  ⟨{ optimizationResults := [row.stored] }, fun _ => rfl⟩

/-- Upserts that are repeated in the same order change nothing. -/
theorem replacements_twice (hf : f ∈ replacements R) (tables : TrajectoryTables R) :
    f (f tables) = f tables := by
  obtain ⟨rows, hf⟩ := hf
  rw [hf, hf]
  simp only [replaceAll, replaceRows_twice]

/-- No two rows of the two have an id in common. -/
structure Apart (a b : TrajectoryTables R) : Prop where
  loopClosures : ∀ row ∈ a.loopClosures, ∀ row' ∈ b.loopClosures, row.closureId ≠ row'.closureId
  poseGraphs : ∀ row ∈ a.poseGraphs, ∀ row' ∈ b.poseGraphs, row.graphId ≠ row'.graphId
  optimizationResults : ∀ row ∈ a.optimizationResults, ∀ row' ∈ b.optimizationResults,
    row.resultId ≠ row'.resultId

/-- The tables have all the rows. -/
structure Contains (tables rows : TrajectoryTables R) : Prop where
  loopClosures : rows.loopClosures ⊆ tables.loopClosures
  poseGraphs : rows.poseGraphs ⊆ tables.poseGraphs
  optimizationResults : rows.optimizationResults ⊆ tables.optimizationResults

/-- Upserts leave what they would leave in empty tables. -/
theorem contains_new (hf : f ∈ replacements R) (tables : TrajectoryTables R) :
    (f tables).Contains (f {}) := by
  obtain ⟨rows, hf⟩ := hf
  rw [hf, hf]
  exact {
    loopClosures := fun _ h => mem_replaceRows.mpr (.inl h)
    poseGraphs := fun _ h => mem_replaceRows.mpr (.inl h)
    optimizationResults := fun _ h => mem_replaceRows.mpr (.inl h) }

/-- Upserts keep the rows with other ids. -/
theorem contains_old (hf : f ∈ replacements R) {tables kept : TrajectoryTables R}
    (hkept : tables.Contains kept) (hapart : (f {}).Apart kept) : (f tables).Contains kept := by
  obtain ⟨rows, hf⟩ := hf
  rw [hf] at hapart
  rw [hf]
  exact {
    loopClosures := fun row h => mem_replaceRows.mpr (.inr
      ⟨hkept.loopClosures h, fun other hother => hapart.loopClosures other hother row h⟩)
    poseGraphs := fun row h => mem_replaceRows.mpr (.inr
      ⟨hkept.poseGraphs h, fun other hother => hapart.poseGraphs other hother row h⟩)
    optimizationResults := fun row h => mem_replaceRows.mpr (.inr
      ⟨hkept.optimizationResults h, fun other hother =>
        hapart.optimizationResults other hother row h⟩) }

end TrajectoryTables

end SpatialPlatform.Core
