import SpatialPlatform.Core.Geometry.Reprojection
import SpatialPlatform.Core.Reconstruction.Document
import SpatialPlatform.Core.Storage.Reconstructions
import SpatialPlatform.Core.UuidText
import SpatialPlatform.Lib.Persist

/-!
# The bundle adjustment of a revision

`engine/pipeline/bundle_adjustment_optimize_pipeline.{h,cpp}`: an injected
optimizer refines a succeeded revision, and a result that passes the gate
replaces it in one transaction.
-/

namespace SpatialPlatform.Engine

open SpatialPlatform.Core SpatialPlatform.Lib
open SpatialPlatform.Core.Geometry (ReprojectionObservation)

/-- A program on the revisions of a project. -/
abbrev RevisionM := Persist RevisionTables ProjectError

/-- A statement by itself; `fault` is a failure of SQLite, after which nothing is changed. -/
def statement (fault : Option ProjectError)
    (body : RevisionTables → Except ProjectError RevisionTables) : RevisionM Unit :=
  Persist.write fun db => do
    let db' ← body db
    match fault with
    | none => return db'
    | some e => throw e

/-- A `WriteTransaction` around some statements; a failure of any of them, or of
the transaction, rolls back. -/
def writeTransaction (fault : Option ProjectError)
    (body : RevisionTables → Except ProjectError RevisionTables) : RevisionM Unit :=
  statement fault fun db =>
    if db.scenes.readOnly then
      .error ⟨.storageReadOnly, "cannot begin a write transaction on a read-only project"⟩
    else body db

/-- The insert of a revision and the end of another, as they stand in one transaction. -/
def replaceRevision (row : ReconstructionRow) (source : String) (db : RevisionTables) :
    Except ProjectError RevisionTables := do
  let db ← db.addReconstruction row
  db.setReconstructionStatus (← parseUuid source) "superseded"

structure BundleAdjustmentInput (R : Type) where
  source : Reconstruction R
  observations : List (ReprojectionObservation R)
  minParallaxDeg : R
  randomSeed : Option String
  maxIterations : Int

/-- `BundleAdjustmentTrace`, as far as the gate and its report read it. -/
structure BundleAdjustmentTrace (R : Type) where
  rmsBeforePx : R
  rmsAfterPx : R
  outlierCountAfter : Int64 := 0

structure BundleAdjustmentResult (R : Type) where
  reconstruction : Reconstruction R
  trace : BundleAdjustmentTrace R

/-- `ReconstructionOptimizer::optimize`. -/
abbrev ReconstructionOptimizer (R : Type) :=
  BundleAdjustmentInput R → Except ProjectError (BundleAdjustmentResult R)

/-- `BundleAdjustmentOptimizePipelineInput`; source and database are always given. -/
structure BundleAdjustmentOptimizePipelineInput (R : Type) [Double R] where
  sourceV3 : Reconstruction R
  observations : List (ReprojectionObservation R) := []
  optimizer : Option (ReconstructionOptimizer R) := none
  sceneId : Uuid
  randomSeed : Option String := none
  minParallaxDeg : R := (2.0 : R)
  maxIterations : Int := 100

structure BundleAdjustmentOptimizePipelineResult (R : Type) where
  ran : Bool := false
  gatePassed : Bool := false
  insertedV4 : Bool := false
  supersededV3 : Bool := false
  v4 : Option (Reconstruction R) := none
  failure : String := ""

section

variable {R : Type} [Double R]

/-- `PassesReprojectionGate`. -/
def passesReprojectionGate (rmsAfter rmsBefore improvementFactor : R) : Bool :=
  if !Double.isFinite rmsAfter || !Double.isFinite rmsBefore then false
  else if rmsAfter < (0.0 : R) ∨ rmsBefore < (0.0 : R) then false
  else if ¬ (0.0 : R) < improvementFactor then false
  else rmsAfter < improvementFactor * rmsBefore

/-- The report of a result that the gate refuses. -/
def gateFailure (trace : BundleAdjustmentTrace R) : String :=
  "bundle adjustment rejected by the D5 gate: rms_after " ++ Double.formatNumber trace.rmsAfterPx ++
    " px is not strictly below 0.9 * rms_before " ++ Double.formatNumber trace.rmsBeforePx ++
    " px (outliers after " ++
    Double.formatNumber ((trace.outlierCountAfter.toInt : Int) : R) ++ ")"

/-- The row of a document. -/
def revisionRow (codec : ReconstructionCodec R) (document : Reconstruction R)
    (reconstructionId sceneId : Uuid) (status : String) (createdAtNs : Int64) : ReconstructionRow where
  reconstructionId
  sceneId
  coordinateFrame := document.coordinateFrame
  status
  createdAtNs
  documentJson := codec.toJson document

/-- An `Except` as a program. -/
def attempt {α : Type} (x : Except ProjectError α) : RevisionM α := fun db => (x, db)

/-- `BundleAdjustmentOptimizePipeline`. -/
def bundleAdjustmentOptimizePipeline (codec : ReconstructionCodec R)
    (input : BundleAdjustmentOptimizePipelineInput R) (fault : Option ProjectError) :
    RevisionM (BundleAdjustmentOptimizePipelineResult R) :=
  match input.optimizer with
  | none => return {
      failure := "bundle-adjustment pipeline missing optimizer (ReconstructionOptimizer seam)" }
  | some optimizer =>
      if input.randomSeed.getD "" = "" then
        Persist.fail ⟨.validationDomain,
          "bundle-adjustment orchestration requires a pinned non-empty random_seed (D6)"⟩
      else if input.sourceV3.status ≠ "succeeded" then
        Persist.fail ⟨.validationDomain,
          "bundle adjustment source must be a succeeded v3 revision (got status '" ++
            input.sourceV3.status ++ "')"⟩
      else do
        let seam ← attempt <| optimizer
          { source := input.sourceV3
            observations := input.observations
            randomSeed := input.randomSeed
            minParallaxDeg := input.minParallaxDeg
            maxIterations := input.maxIterations }
        if seam.reconstruction.reconstructionId = input.sourceV3.reconstructionId then
          Persist.fail ⟨.validationDomain,
            "bundle-adjustment seam returned the v3 reconstruction id; the v4 document must carry a " ++
              "fresh UUIDv4 (D-CRM-07)"⟩
        else if !passesReprojectionGate seam.trace.rmsAfterPx seam.trace.rmsBeforePx (0.9 : R) then
          return { ran := true, v4 := some seam.reconstruction, failure := gateFailure seam.trace }
        else
          let v4Id ← attempt (parseUuid seam.reconstruction.reconstructionId)
          writeTransaction fault <| replaceRevision
            (revisionRow codec seam.reconstruction v4Id input.sceneId "succeeded"
              seam.reconstruction.createdAtNs) input.sourceV3.reconstructionId
          return {
            ran := true
            gatePassed := true
            insertedV4 := true
            supersededV3 := true
            v4 := some seam.reconstruction }

end

/-! ## What is left behind

The pipeline is run as a program, by triples from its statements to the whole.
Only the transaction writes revisions; a run that stops in front of it, or is
refused by the gate, has left them. -/

/-- The revisions are exactly these. -/
def Revisions (rows : List ReconstructionRow) (db : RevisionTables) : Prop := db.revisions = rows

/-- The row after `SetReconstructionStatus` has ended it. -/
def superseded (row : ReconstructionRow) : ReconstructionRow := { row with status := "superseded" }

section

variable {P Q : RevisionTables → Prop} {rows before after : List ReconstructionRow}
  {row source : ReconstructionRow} {sourceId : String} {fault : Option ProjectError}

theorem triple_attempt {α : Type} {x : Except ProjectError α} :
    Persist.Triple P (attempt x) (fun a db => x = .ok a ∧ P db) P := by
  intro db hdb
  cases x with
  | error e => exact hdb
  | ok a => exact ⟨rfl, hdb⟩

theorem triple_statement {body : RevisionTables → Except ProjectError RevisionTables}
    (h : ∀ db db', P db → body db = .ok db' → Q db') :
    Persist.Triple P (statement fault body) (fun _ => Q) P := by
  apply Persist.Triple.write
  · intro db db' hdb hok
    cases hbody : body db with
    | error e =>
        rw [hbody] at hok
        exact (nomatch hok)
    | ok db'' =>
        rw [hbody] at hok
        cases fault with
        | some e => exact (nomatch hok)
        | none =>
            cases hok
            exact h db db' hdb hbody
  · exact fun _ hdb => hdb

theorem triple_writeTransaction {body : RevisionTables → Except ProjectError RevisionTables}
    (h : ∀ db db', P db → body db = .ok db' → Q db') :
    Persist.Triple P (writeTransaction fault body) (fun _ => Q) P := by
  apply triple_statement
  intro db db' hdb hok
  split at hok
  · exact (nomatch hok)
  · exact h db db' hdb hok

theorem triple_addReconstruction :
    Persist.Triple (Revisions rows) (statement fault (RevisionTables.addReconstruction row))
      (fun _ => Revisions (rows ++ [row])) (Revisions rows) := by
  apply triple_statement
  intro db db' hdb hok
  rw [Revisions, (RevisionTables.addReconstruction_eq_ok hok).2, hdb]

/-- The status of one row among the others. -/
theorem revisions_setReconstructionStatus {db db' : RevisionTables}
    (hid : parseUuid sourceId = .ok source.reconstructionId)
    (hdb : Revisions (before ++ source :: after) db)
    (hok : (do db.setReconstructionStatus (← parseUuid sourceId) "superseded") = .ok db') :
    Revisions (before ++ superseded source :: after) db' := by
  rw [hid] at hok
  rw [RevisionTables.setReconstructionStatus_eq_ok hok]
  exact RevisionTables.revisions_withStatus hdb "superseded"

theorem triple_replaceRevision (hid : parseUuid sourceId = .ok source.reconstructionId) :
    Persist.Triple (Revisions (before ++ source :: after))
      (writeTransaction fault (replaceRevision row sourceId))
      (fun _ => Revisions (before ++ superseded source :: (after ++ [row])))
      (Revisions (before ++ source :: after)) := by
  apply triple_writeTransaction
  intro db db' hdb hok
  unfold replaceRevision at hok
  cases hadd : db.addReconstruction row with
  | error e =>
      rw [hadd] at hok
      exact (nomatch hok)
  | ok inserted =>
      rw [hadd] at hok
      have hinserted : Revisions (before ++ source :: (after ++ [row])) inserted := by
        rw [Revisions, (RevisionTables.addReconstruction_eq_ok hadd).2, hdb, List.append_assoc,
          List.cons_append]
      exact revisions_setReconstructionStatus hid hinserted hok

variable {R : Type} [Double R] {codec : ReconstructionCodec R}
  {input : BundleAdjustmentOptimizePipelineInput R}

/-- A result that passes the gate replaces the source; otherwise the revisions stay. -/
theorem triple_bundleAdjustmentOptimizePipeline
    (hid : parseUuid input.sourceV3.reconstructionId = .ok source.reconstructionId) :
    Persist.Triple (Revisions (before ++ source :: after))
      (bundleAdjustmentOptimizePipeline codec input fault)
      (fun out db =>
        (out.gatePassed = false ∧ Revisions (before ++ source :: after) db) ∨
        (out.gatePassed = true ∧ ∃ v4 reconstructionId, out.v4 = some v4 ∧
          parseUuid v4.reconstructionId = .ok reconstructionId ∧
          Revisions (before ++ superseded source :: (after ++ [revisionRow codec v4 reconstructionId
            input.sceneId "succeeded" v4.createdAtNs])) db))
      (Revisions (before ++ source :: after)) := by
  unfold bundleAdjustmentOptimizePipeline
  cases input.optimizer with
  | none => exact .pure fun db hdb => .inl ⟨rfl, hdb⟩
  | some optimizer =>
      apply Persist.Triple.ite
      · intro _
        exact .fail fun _ hdb => hdb
      intro _
      apply Persist.Triple.ite
      · intro _
        exact .fail fun _ hdb => hdb
      intro _
      refine triple_attempt.bind fun seam => .of_and fun _ => ?_
      apply Persist.Triple.ite
      · intro _
        exact .fail fun _ hdb => hdb
      intro _
      apply Persist.Triple.ite
      · intro _
        exact .pure fun db hdb => .inl ⟨rfl, hdb⟩
      intro _
      -- the gate has passed: from here on only the transaction may fail
      refine triple_attempt.bind fun v4Id => .of_and fun hv4 => ?_
      refine (triple_replaceRevision hid).bind fun _ => ?_
      exact .pure fun db hdb => .inr ⟨rfl, _, v4Id, rfl, hv4, hdb⟩

end

end SpatialPlatform.Engine
