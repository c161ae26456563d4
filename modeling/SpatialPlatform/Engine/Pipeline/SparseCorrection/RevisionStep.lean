import SpatialPlatform.Core.Geometry.DirectionMath
import SpatialPlatform.Engine.Pipeline.SparseCorrection.BundleAdjustment

/-!
# What a bundle adjustment leaves in the database

`BundleAdjustmentOptimizePipeline` with pointers that may be null. Whatever
stops it before the commit leaves the revisions as they were, and the commit
adds the refined revision and ends its source. The stage compares the two
identifiers as texts, though, and the table compares them as UUIDs: an optimizer
that answers with another spelling of its source's UUID gets its revision
inserted and, as the source, ended in one transaction, when the source has no
row that would stand in the way (`replaces_or_keeps_iff`).
-/

namespace SpatialPlatform.Engine

open SpatialPlatform.Core SpatialPlatform.Lib
open SpatialPlatform.Core.Geometry (ReprojectionObservation)

/-- `BundleAdjustmentOptimizePipelineInput`, with the pointers that the caller may leave null. -/
structure BundleAdjustmentOptimizePipelineArguments (R : Type) [Double R] where
  sourceV3 : Option (Reconstruction R) := none
  observations : List (ReprojectionObservation R) := []
  optimizer : Option (ReconstructionOptimizer R) := none
  hasDb : Bool := false
  sceneId : Uuid := .nil
  randomSeed : Option String := none
  minParallaxDeg : R := (2.0 : R)
  maxIterations : Int := 100

namespace BundleAdjustmentOptimizePipelineArguments

variable {R : Type} [Double R] (args : BundleAdjustmentOptimizePipelineArguments R)

/-- The input when the source is given. -/
def given (source : Reconstruction R) : BundleAdjustmentOptimizePipelineInput R where
  sourceV3 := source
  observations := args.observations
  optimizer := args.optimizer
  sceneId := args.sceneId
  randomSeed := args.randomSeed
  minParallaxDeg := args.minParallaxDeg
  maxIterations := args.maxIterations

/-- What the optimizer is asked. -/
def seamInput (source : Reconstruction R) : BundleAdjustmentInput R where
  source := source
  observations := args.observations
  randomSeed := args.randomSeed
  minParallaxDeg := args.minParallaxDeg
  maxIterations := args.maxIterations

/-- `BundleAdjustmentOptimizePipeline`. A document that cannot be printed throws
before the transaction, and is one of the faults. -/
def run (codec : ReconstructionCodec R) (fault : Option ProjectError) :
    RevisionM (BundleAdjustmentOptimizePipelineResult R) :=
  match args.optimizer with
  | none => return {
      failure := "bundle-adjustment pipeline missing optimizer (ReconstructionOptimizer seam)" }
  | some _ =>
      if !args.hasDb then return { failure := "bundle-adjustment pipeline missing MetadataDb" }
      else match args.sourceV3 with
        | none => return {
            failure := "bundle-adjustment pipeline missing source reconstruction (v3)" }
        | some source => bundleAdjustmentOptimizePipeline codec (args.given source) fault

/-- The row of the refined document. -/
def v4Row (codec : ReconstructionCodec R) (v4 : Reconstruction R) (v4Id : Uuid) :
    ReconstructionRow :=
  revisionRow codec v4 v4Id args.sceneId "succeeded" v4.createdAtNs

/-! ## The way to the commit

Up to its transaction the stage writes nothing. So a call reaches the
transaction or has changed nothing. -/

/-- The call reaches its transaction, to insert `v4` under `v4Id`. -/
structure Reaches (source v4 : Reconstruction R) (v4Id : Uuid) : Prop where
  hasDb : args.hasDb = true
  hasSource : args.sourceV3 = some source
  seeded : args.randomSeed.getD "" ≠ ""
  succeeded : source.status = "succeeded"
  refined : ∃ optimizer trace, args.optimizer = some optimizer ∧
    optimizer (args.seamInput source) = .ok ⟨v4, trace⟩ ∧
    passesReprojectionGate trace.rmsAfterPx trace.rmsBeforePx (0.9 : R) = true
  fresh : v4.reconstructionId ≠ source.reconstructionId
  parsed : parseUuid v4.reconstructionId = .ok v4Id

variable {args} {codec : ReconstructionCodec R} {fault : Option ProjectError}
  {source v4 : Reconstruction R} {v4Id : Uuid} {db db' : RevisionTables}

/-- The transaction of the stage, on a call that reaches it. -/
def Committed (args : BundleAdjustmentOptimizePipelineArguments R) (codec : ReconstructionCodec R)
    (fault : Option ProjectError) (db : RevisionTables)
    (out : BundleAdjustmentOptimizePipelineResult R) (db' : RevisionTables) : Prop :=
  ∃ source v4 v4Id, args.Reaches source v4 v4Id ∧ out.gatePassed = true ∧ out.v4 = some v4 ∧
    writeTransaction fault (replaceRevision (args.v4Row codec v4 v4Id) source.reconstructionId) db =
      (.ok (), db')

/-- Every way through the stage: it stops and leaves the revisions, or it commits. -/
theorem triple_run (db : RevisionTables) :
    Persist.Triple (· = db) (args.run codec fault)
      (fun out db' => (out.gatePassed = false ∧ db' = db) ∨ args.Committed codec fault db out db')
      (· = db) := by
  unfold run
  cases hoptimizer : args.optimizer with
  | none => exact .pure fun _ hdb => .inl ⟨rfl, hdb⟩
  | some optimizer =>
      apply Persist.Triple.ite
      · intro _
        exact .pure fun _ hdb => .inl ⟨rfl, hdb⟩
      intro hhasDb
      cases hsource : args.sourceV3 with
      | none => exact .pure fun _ hdb => .inl ⟨rfl, hdb⟩
      | some source =>
          show Persist.Triple _ (bundleAdjustmentOptimizePipeline codec (args.given source) fault) _ _
          unfold bundleAdjustmentOptimizePipeline
          rw [show (args.given source).optimizer = some optimizer from hoptimizer]
          apply Persist.Triple.ite
          · intro _
            exact .fail fun _ hdb => hdb
          intro hseed
          apply Persist.Triple.ite
          · intro _
            exact .fail fun _ hdb => hdb
          intro hstatus
          -- from here on the seam has refined the source
          refine triple_attempt.bind fun seam => .of_and fun hseam => ?_
          apply Persist.Triple.ite
          · intro _
            exact .fail fun _ hdb => hdb
          intro hfresh
          apply Persist.Triple.ite
          · intro _
            exact .pure fun _ hdb => .inl ⟨rfl, hdb⟩
          intro hgate
          refine triple_attempt.bind fun v4Id => .of_and fun hv4 => ?_
          have hreaches : args.Reaches source seam.reconstruction v4Id := {
            hasDb := by simpa using hhasDb
            hasSource := hsource
            seeded := hseed
            succeeded := not_not.mp hstatus
            refined := ⟨optimizer, seam.trace, hoptimizer, hseam, by simpa using hgate⟩
            fresh := hfresh
            parsed := hv4 }
          have hframe : Persist.Triple (· = db)
              (writeTransaction fault (replaceRevision (args.v4Row codec seam.reconstruction v4Id)
                source.reconstructionId)) (fun _ _ => True) (· = db) :=
            triple_writeTransaction fun _ _ _ _ => trivial
          -- the transaction alone writes, and a failed one has changed nothing
          refine hframe.run.bind fun _ => ?_
          exact .pure fun db' hdb' => .inr ⟨source, _, v4Id, hreaches, rfl, rfl, hdb'⟩

/-- The stage up to its transaction. -/
theorem run_of_reaches (h : args.Reaches source v4 v4Id)
    (hcommit : writeTransaction fault
      (replaceRevision (args.v4Row codec v4 v4Id) source.reconstructionId) db = (.ok (), db')) :
    ∃ out, args.run codec fault db = (.ok out, db') ∧ out.gatePassed = true := by
  obtain ⟨optimizer, trace, hoptimizer, hseam, hgate⟩ := h.refined
  have hrun : args.run codec fault =
      bundleAdjustmentOptimizePipeline codec (args.given source) fault := by
    unfold run
    rw [hoptimizer, h.hasDb, h.hasSource]
    rfl
  rw [hrun]
  unfold bundleAdjustmentOptimizePipeline
  rw [show (args.given source).optimizer = some optimizer from hoptimizer]
  refine ⟨{ ran := true, gatePassed := true, insertedV4 := true, supersededV3 := true
            v4 := some v4 }, ?_, rfl⟩
  show (if args.randomSeed.getD "" = "" then _ else if source.status ≠ "succeeded" then _ else _ :
    RevisionM _) db = _
  rw [if_neg h.seeded, if_neg (not_not.mpr h.succeeded)]
  have hattempt : attempt (optimizer (args.seamInput source)) db = (.ok ⟨v4, trace⟩, db) := by
    rw [hseam]
    rfl
  refine (Persist.bind_of_ok hattempt).trans ?_
  show (if v4.reconstructionId = source.reconstructionId then _
    else if (!passesReprojectionGate trace.rmsAfterPx trace.rmsBeforePx (0.9 : R)) = true then _
    else _ : RevisionM _) db = _
  rw [if_neg h.fresh, if_neg (by simp [hgate])]
  have hparse : attempt (parseUuid v4.reconstructionId) db = (.ok v4Id, db) := by
    rw [h.parsed]
    rfl
  refine (Persist.bind_of_ok hparse).trans ?_
  exact Persist.bind_of_ok hcommit

/-! ## The transaction

An insert and a status update, each inverted: what the tables had before and
what they have afterwards. The two speak of one row if the UUIDs are the same,
and of two rows otherwise. -/

/-- What a commit has done. -/
theorem replaceRevision_eq_ok {row : ReconstructionRow} {text : String}
    (h : replaceRevision row text db = .ok db') :
    ∃ inserted sourceId, db.addReconstruction row = .ok inserted ∧ parseUuid text = .ok sourceId ∧
      inserted.setReconstructionStatus sourceId "superseded" = .ok db' := by
  unfold replaceRevision at h
  cases hadd : db.addReconstruction row with
  | error e =>
      rw [hadd] at h
      exact (nomatch h)
  | ok inserted =>
      rw [hadd] at h
      cases hparse : parseUuid text with
      | error e =>
          rw [hparse] at h
          exact (nomatch h)
      | ok sourceId =>
          rw [hparse] at h
          exact ⟨inserted, sourceId, rfl, rfl, h⟩

/-- A transaction that returns has done its statements. -/
theorem writeTransaction_eq_ok {body : RevisionTables → Except ProjectError RevisionTables} :
    writeTransaction fault body db = (.ok (), db') ↔
      fault = none ∧ db.scenes.readOnly = false ∧ body db = .ok db' := by
  unfold writeTransaction statement Persist.write
  cases hread : db.scenes.readOnly with
  | true => simp [hread, bind, Except.bind]
  | false =>
      cases hbody : body db with
      | error e => simp [hread, hbody, bind, Except.bind]
      | ok db₁ =>
          cases fault with
          | none => simp [hread, hbody, bind, Except.bind, pure, Except.pure]
          | some e => simp [hread, hbody, bind, Except.bind, throw, throwThe, MonadExceptOf.throw]

/-- A row that was inserted had a free identifier and a scene. -/
theorem insertable_of_addReconstruction {row : ReconstructionRow}
    (h : db.addReconstruction row = .ok db') :
    row.reconstructionId ∉ db.revisions.map ReconstructionRow.reconstructionId ∧
      ∃ scene ∈ db.scenes.scenes, scene.sceneId = row.sceneId := by
  unfold RevisionTables.addReconstruction at h
  split at h
  · cases h
  · split at h
    · cases h
    · next hfree =>
        split at h
        · cases h
        · next hscene => exact ⟨hfree, by simpa using hscene⟩

/-- A status update finds its row. -/
theorem exists_of_setReconstructionStatus {reconstructionId : Uuid} {status : String}
    (h : db.setReconstructionStatus reconstructionId status = .ok db') :
    ∃ row ∈ db.revisions, row.reconstructionId = reconstructionId := by
  unfold RevisionTables.setReconstructionStatus at h
  split at h
  · cases h
  · split at h
    · cases h
    · next row hrow =>
        refine ⟨row, List.mem_of_find?_eq_some hrow, ?_⟩
        simpa using List.find?_some hrow

/-- The row of the source is there already and ends; the new one comes last. -/
theorem revisions_of_source_found {row : ReconstructionRow} {sourceId : Uuid}
    {inserted : RevisionTables} (hadd : db.addReconstruction row = .ok inserted)
    (hset : inserted.setReconstructionStatus sourceId "superseded" = .ok db')
    (hne : sourceId ≠ row.reconstructionId) :
    ∃ before ended after, ended.reconstructionId = sourceId ∧
      db.revisions = before ++ ended :: after ∧
      db'.revisions = before ++ superseded ended :: (after ++ [row]) := by
  obtain ⟨ended, hmem, hid⟩ := exists_of_setReconstructionStatus hset
  have hrows := (RevisionTables.addReconstruction_eq_ok hadd).2
  rw [hrows, List.mem_append, List.mem_singleton] at hmem
  rcases hmem with hmem | rfl
  · obtain ⟨before, after, hsplit⟩ := List.append_of_mem hmem
    refine ⟨before, ended, after, hid, hsplit, ?_⟩
    have hinserted : inserted.revisions = before ++ ended :: (after ++ [row]) := by
      rw [hrows, hsplit, List.append_assoc, List.cons_append]
    rw [RevisionTables.setReconstructionStatus_eq_ok hset, ← hid]
    exact RevisionTables.revisions_withStatus hinserted "superseded"
  · exact absurd hid.symm hne

/-- Both statements find the one row that has just been inserted. -/
theorem revisions_of_same_uuid {row : ReconstructionRow} {inserted : RevisionTables}
    (hadd : db.addReconstruction row = .ok inserted)
    (hset : inserted.setReconstructionStatus row.reconstructionId "superseded" = .ok db') :
    db'.revisions = db.revisions ++ [superseded row] := by
  rw [RevisionTables.setReconstructionStatus_eq_ok hset]
  exact RevisionTables.revisions_withStatus (RevisionTables.addReconstruction_eq_ok hadd).2 _

/-- The statements go through on a row that can be inserted, when the source has the same UUID. -/
theorem replaceRevision_of_same_uuid {row : ReconstructionRow} {text : String}
    (hstatus : row.status = "succeeded") (hparse : parseUuid text = .ok row.reconstructionId)
    (hwritable : db.scenes.readOnly = false)
    (hfree : row.reconstructionId ∉ db.revisions.map ReconstructionRow.reconstructionId)
    (hscene : ∃ scene ∈ db.scenes.scenes, scene.sceneId = row.sceneId) :
    ∃ db', replaceRevision row text db = .ok db' ∧
      db'.revisions = db.revisions ++ [superseded row] := by
  obtain ⟨inserted, hadd⟩ : ∃ inserted, db.addReconstruction row = .ok inserted := by
    have hforeign : ¬ ∀ scene ∈ db.scenes.scenes, ¬ scene.sceneId = row.sceneId := by
      intro hnone
      obtain ⟨scene, hmem, hid⟩ := hscene
      exact hnone scene hmem hid
    simp [RevisionTables.addReconstruction, hwritable, hfree, hforeign]
  obtain ⟨hscenes, hrows⟩ := RevisionTables.addReconstruction_eq_ok hadd
  -- the row that has just been inserted is found, and no other
  have hfind : inserted.find row.reconstructionId = some row := by
    have hnone : db.revisions.find? (·.reconstructionId = row.reconstructionId) = none := by
      rw [List.find?_eq_none]
      intro other hmem hid
      exact hfree ((of_decide_eq_true hid) ▸ List.mem_map_of_mem hmem)
    rw [RevisionTables.find, hrows, List.find?_append, hnone]
    simp
  have hset : inserted.setReconstructionStatus row.reconstructionId "superseded" =
      .ok (inserted.withStatus row.reconstructionId "superseded") := by
    unfold RevisionTables.setReconstructionStatus
    rw [hscenes, hwritable, hfind]
    simp [RevisionTables.canTransition, hstatus]
  refine ⟨_, ?_, revisions_of_same_uuid hadd hset⟩
  unfold replaceRevision
  rw [hadd]
  show (parseUuid text >>= fun id => inserted.setReconstructionStatus id "superseded") = _
  rw [hparse]
  exact hset

/-! ## The two identifiers

The pipeline compares the texts of two identifiers, the tables compare UUIDs. A
text that spells the UUID of the source in another way passes the first check
and fails the purpose of the second. -/

/-- The source revision has ended and its refinement, which succeeded, comes last. -/
def Replaced (args : BundleAdjustmentOptimizePipelineArguments R) (codec : ReconstructionCodec R)
    (out : BundleAdjustmentOptimizePipelineResult R) (rows rows' : List ReconstructionRow) : Prop :=
  ∃ source v4 v4Id before row after, args.sourceV3 = some source ∧
    parseUuid source.reconstructionId = .ok row.reconstructionId ∧ out.v4 = some v4 ∧
    parseUuid v4.reconstructionId = .ok v4Id ∧ rows = before ++ row :: after ∧
    rows' = before ++ superseded row :: (after ++ [args.v4Row codec v4 v4Id])

/-- A call that throws or whose result the gate does not pass leaves the
revisions, and any other replaces its source. -/
def ReplacesOrKeeps (args : BundleAdjustmentOptimizePipelineArguments R)
    (codec : ReconstructionCodec R) (fault : Option ProjectError) (db : RevisionTables) : Prop :=
  match args.run codec fault db with
  | (.error _, db') => db'.revisions = db.revisions
  | (.ok out, db') =>
      if out.gatePassed then args.Replaced codec out db.revisions db'.revisions
      else db'.revisions = db.revisions

/-- The refined document spells the UUID of its source in another way, and it
can be inserted, so that the source has no row. -/
def SpellsSource (args : BundleAdjustmentOptimizePipelineArguments R)
    (fault : Option ProjectError) (db : RevisionTables) : Prop :=
  ∃ source v4 v4Id, args.Reaches source v4 v4Id ∧ parseUuid source.reconstructionId = .ok v4Id ∧
    fault = none ∧ db.scenes.readOnly = false ∧
    v4Id ∉ db.revisions.map ReconstructionRow.reconstructionId ∧
    ∃ scene ∈ db.scenes.scenes, scene.sceneId = args.sceneId

/-- On such a call the only new row is the refined one, and it has ended. -/
theorem not_replacesOrKeeps (h : args.SpellsSource fault db) :
    ¬ args.ReplacesOrKeeps codec fault db := by
  obtain ⟨source, v4, v4Id, hreaches, hparse, rfl, hwritable, hfree, hscene⟩ := h
  have hreplace := @replaceRevision_of_same_uuid db (args.v4Row codec v4 v4Id)
    source.reconstructionId rfl hparse hwritable hfree hscene
  obtain ⟨db', hok, hrows⟩ := hreplace
  obtain ⟨out, hrun, hpassed⟩ := @run_of_reaches R _ args codec none _ _ _ _ _ hreaches
    (writeTransaction_eq_ok.mpr ⟨rfl, hwritable, hok⟩)
  intro houtcome
  rw [ReplacesOrKeeps, hrun] at houtcome
  simp only [hpassed, if_true] at houtcome
  obtain ⟨_, v4', v4Id', before, row, after, _, _, _, _, hbefore, hafter⟩ := houtcome
  -- the last row has ended on one side and succeeded on the other
  have hsplit : db.revisions ++ [superseded (args.v4Row codec v4 v4Id)] =
      (before ++ superseded row :: after) ++ [args.v4Row codec v4' v4Id'] := by
    rw [← hrows, hafter, List.append_assoc, List.cons_append]
  have hrefined := (List.cons.inj (List.append_inj' hsplit rfl).2).1
  have hstatus := congrArg ReconstructionRow.status hrefined.symm
  exact absurd hstatus (by show ¬ "succeeded" = "superseded"; decide)

/-- **The revisions after a bundle adjustment**: any call that stops keeps them,
and any that commits replaces its source, unless the optimizer spells the UUID
of the source in another way. -/
theorem replaces_or_keeps_iff (args : BundleAdjustmentOptimizePipelineArguments R)
    (codec : ReconstructionCodec R) (fault : Option ProjectError) (db : RevisionTables) :
    args.ReplacesOrKeeps codec fault db ↔ ¬ args.SpellsSource fault db := by
  constructor
  · intro h hspells
    exact not_replacesOrKeeps hspells h
  · intro hspells
    have hcases := @triple_run R _ args codec fault db db rfl
    unfold ReplacesOrKeeps
    revert hcases
    rcases args.run codec fault db with ⟨e | out, db'⟩
    · intro hdb
      exact congrArg RevisionTables.revisions hdb
    · intro hcases
      rcases hcases with ⟨hstopped, hdb⟩ | ⟨source, v4, v4Id, hreaches, hpassed, hv4, hcommit⟩
      · simp only [hstopped]
        exact congrArg RevisionTables.revisions hdb
      · simp only [hpassed, if_true]
        obtain ⟨hfault, hwritable, hok⟩ := writeTransaction_eq_ok.mp hcommit
        obtain ⟨inserted, sourceId, hadd, hparse, hset⟩ := replaceRevision_eq_ok hok
        -- one UUID for both rows is what the condition excludes
        have hne : sourceId ≠ v4Id := by
          intro heq
          obtain ⟨hfree, hscene⟩ := insertable_of_addReconstruction hadd
          exact hspells
            ⟨source, v4, v4Id, hreaches, heq ▸ hparse, hfault, hwritable, hfree, hscene⟩
        obtain ⟨before, row, after, hid, hrows, hrows'⟩ := revisions_of_source_found hadd hset hne
        exact ⟨source, v4, v4Id, before, row, after, hreaches.hasSource, hid ▸ hparse, hv4,
          hreaches.parsed, hrows, hrows'⟩

/-- A revision that has not been stored. -/
def unstoredSource : Reconstruction Rat where
  reconstructionId := "00000000-0000-4000-8000-00000000000a"
  status := "succeeded"

/-- The same UUID with a capital letter. -/
def respelledSource : Reconstruction Rat :=
  { unstoredSource with reconstructionId := "00000000-0000-4000-8000-00000000000A" }

def respelledArguments : BundleAdjustmentOptimizePipelineArguments Rat where
  sourceV3 := some unstoredSource
  optimizer := some fun _ => .ok ⟨respelledSource, { rmsBeforePx := 2, rmsAfterPx := 1 }⟩
  hasDb := true
  sceneId := ⟨2⟩
  randomSeed := some "7"

/-- A project with one scene and no revisions. -/
def oneScene : RevisionTables where
  scenes := { projects := [⟨1⟩], scenes := [{ sceneId := ⟨2⟩, projectId := ⟨1⟩ }] }
  revisions := []
  nodup := List.nodup_nil

/-- The call returns normally, and the project has one revision more, which has ended. -/
theorem respelled_source_ends :
    ¬ respelledArguments.ReplacesOrKeeps ⟨Reconstruction.reconstructionId, fun _ => none⟩ none
      oneScene := by
  apply not_replacesOrKeeps
  have hparse : parseUuid unstoredSource.reconstructionId =
      parseUuid respelledSource.reconstructionId := by decide +kernel
  obtain ⟨v4Id, hv4Id⟩ : ∃ id, parseUuid respelledSource.reconstructionId = .ok id := ⟨_, rfl⟩
  refine ⟨unstoredSource, respelledSource, v4Id, ?_, hparse.trans hv4Id, rfl, rfl,
    List.not_mem_nil, _, List.mem_singleton_self _, rfl⟩
  exact {
    hasDb := rfl
    hasSource := rfl
    seeded := by decide
    succeeded := rfl
    refined := ⟨_, _, rfl, rfl, by decide +kernel⟩
    fresh := by decide
    parsed := hv4Id }

end BundleAdjustmentOptimizePipelineArguments

end SpatialPlatform.Engine
