import SpatialPlatform.Engine.Pipeline.SparseCorrection.Retriangulation

/-!
# The stage "sparse_correction"

`RunSparseCorrectionStage` of `engine/pipeline/sparse_correction_runner.cpp`:
the input document is committed as a revision, its poses are corrected if a loop
closure was verified, its points are triangulated again, and the bundle
adjustment replaces what came out of that. The stage is cut into four parts, one
for each revision that it may insert.
-/

namespace SpatialPlatform.Engine

open SpatialPlatform.Core SpatialPlatform.Lib
open SpatialPlatform.Core.Geometry (ReprojectionObservation)

/-- The configuration of a run, as far as the stage itself reads it. -/
structure SparseCorrectionConfig where
  projectId : String := ""
  sceneName : String := "p3_sparse_correction_scene"
  randomSeed : String := ""

/-- Where the stage asks whether it was cancelled, by what it has done before. -/
inductive Checkpoint where
  | validated | verified | committed | assembled | optimized | applied | retriangulated | refined
  deriving DecidableEq, Repr

/-- The writes to the tables of scenes and revisions. -/
inductive StageWrite where
  | scene | commit | apply | retriangulate | compact | refine
  deriving DecidableEq, Repr

/-- The documents that go to the store, and the identifiers that the stage draws for them. -/
inductive StageDocument where
  | applied | retriangulated | refined
  deriving DecidableEq, Repr

/-- A call of the stage: the request, the seams, and what the call meets on its way. -/
structure StageCall (R : Type) [Double R] where
  /-- `EffectiveConfig`. -/
  config : Except ProjectError SparseCorrectionConfig
  inputRefs : List String
  /-- `ArtifactStore::Get`. -/
  get : String → Option String
  codec : ReconstructionCodec R
  baOptimizer : Option (ReconstructionOptimizer R) := none
  trajectoryOptimizer :
    Option (AssembledPoseGraph R → Except ProjectError (PoseOptimizationOutput R)) := none
  /-- `MaybeRunLoopClosureVerification`, after which the closure is in the tables of closures. -/
  verifyLoopClosure : Reconstruction R → Except ProjectError (Option (VerifiedLoopClosure R)) :=
    fun _ => .ok none
  /-- Whether `LoopClosureToPoseGraph` gives an edge. -/
  metricEdge : VerifiedLoopClosure R → Bool := fun _ => false
  persistPoseGraph : Except ProjectError String := .ok ""
  persistOptimization : OptimizationResult → List (OptimizedPoseNode R) → Except ProjectError String :=
    fun _ _ => .ok ""
  /-- The pose that the feedback gives the camera of a node. -/
  transform : Vector R 3 → Vector R 4 → ReconPose R
  observations : ObservationSources R := {}
  triangulate : Reconstruction R → List (TriangulationObservation R) →
    Except ProjectError (RetriangulatedPoints R)
  graphId : Uuid := .nil
  sceneId : Uuid
  versionId : Uuid
  reconstructionId : StageDocument → Uuid := fun _ => .nil
  cancelled : Checkpoint → Bool := fun _ => false
  /-- The failures of SQLite. -/
  fault : StageWrite → Option ProjectError := fun _ => none
  put : StageDocument → Except ProjectError Unit := fun _ => .ok ()
  /-- The choice among the newest revisions. -/
  newestTie : Nat := 0

/-- How a call ends early. -/
inductive StageExit where
  | cancelled
  | failed (e : ProjectError)
  deriving DecidableEq, Repr

abbrev StageM := Persist RevisionTables StageExit

/-- A request that passed the checks. -/
structure StageInput (R : Type) where
  config : SparseCorrectionConfig
  inputRef : String
  payload : String
  source : Reconstruction R

/-- The stage after its commit. -/
structure StageCommit (R : Type) where
  input : StageInput R
  verified : Option (VerifiedLoopClosure R)
  scene : SceneRow
  document : Reconstruction R

namespace StageCall

variable {R : Type} [Double R] (call : StageCall R)

/-- A part of the stage that cannot be cancelled. -/
def uncancelled {α : Type} (x : RevisionM α) : StageM α := x.mapError .failed

/-- `if (cancelled()) return`. -/
def checkpoint (place : Checkpoint) : StageM Unit :=
  if call.cancelled place then Persist.fail .cancelled else pure ()

/-! ## Commit

The checks, the scene, the artifact and the first row. Every step may stop the
call with an exception. -/

/-- The checks before anything is written. -/
def checked : Except ProjectError (StageInput R) := do
  let config ← call.config
  if config.projectId = "" then
    throw (rejected "configuration requires a pinned project_id (the owning project uuid)")
  else if config.randomSeed = "" then
    throw (rejected "configuration requires a pinned non-empty random_seed (D6)")
  else if call.baOptimizer.isNone then
    throw (rejected ("no ReconstructionOptimizer seam was injected; the bundle-adjustment backend " ++
      "provider is unavailable"))
  else match call.inputRefs with
    | [] => throw (rejected "requires the sparse reconstruction input artifact")
    | inputRef :: _ =>
        match call.get inputRef with
        | none => throw (rejected ("input reconstruction artifact '" ++ inputRef ++
            "' is not in the artifact store"))
        | some payload =>
            match call.codec.fromJson payload with
            | none => throw (rejected "input is not a canonical reconstruction document")
            | some source =>
                if source.status ≠ "succeeded" then
                  throw (rejected ("input reconstruction must carry status \"succeeded\" (got \"" ++
                    source.status ++ "\")"))
                else return { config, inputRef, payload, source }

/-- The look at the newest revision of the project's scene. -/
def preflight (projectId : Uuid) (db : RevisionTables) : Except ProjectError Unit :=
  match (db.scenes.openScenes projectId).head? with
  | none => .ok ()
  | some scene =>
      match db.newestReconstructionOfScene call.newestTie scene.sceneId with
      | none => .ok ()
      | some newest =>
          if newest.status = "succeeded" then .ok ()
          else .error (rejected ("the scene's newest reconstruction (any status) is '" ++
            newest.status ++ "'; only a succeeded newest may be superseded by the correction (N4/N6)"))

/-- `FindOrCreateScene`. -/
def findOrCreateScene (projectId : Uuid) (sceneName : String) : RevisionM SceneRow := fun db =>
  match call.fault .scene with
  | some e => (.error e, db)
  | none =>
      let (scene, scenes) := db.scenes.findOrCreateScene projectId sceneName "\x7b\x7d" 2000
        call.sceneId call.versionId
      (scene, { db with scenes })

/-- `CommitWorkerReconstructionArtifact`. -/
def commitWorkerReconstructionArtifact (sceneId : Uuid) (payload : String) (createdAtNs : Int64) :
    RevisionM (Reconstruction R) :=
  match call.codec.fromJson payload with
  | none => Persist.fail ⟨.validationDomain,
      "host-runner commit rejected a malformed worker reconstruction artifact"⟩
  | some document =>
      if document.reconstructionId = "" then
        Persist.fail ⟨.validationDomain,
          "host-runner commit rejected a reconstruction artifact with no reconstruction_id"⟩
      else if document.status ≠ "succeeded" then
        Persist.fail ⟨.validationDomain,
          "host-runner commit rejected a non-succeeded provisional reconstruction artifact"⟩
      else do
        let reconstructionId ← attempt (parseUuid document.reconstructionId)
        statement (call.fault .commit) fun db => db.addReconstruction
          (revisionRow call.codec document reconstructionId sceneId "succeeded" createdAtNs)
        return document

/-- The stage up to the insert of its input. -/
def committed : StageM (StageCommit R) := do
  let input ← uncancelled (attempt call.checked)
  let projectId ← uncancelled (attempt (parseUuid input.config.projectId))
  let preflight ← Persist.read (call.preflight projectId)
  uncancelled (attempt preflight)
  call.checkpoint .validated
  let verified ← uncancelled (attempt (call.verifyLoopClosure input.source))
  call.checkpoint .verified
  let scene ← uncancelled (call.findOrCreateScene projectId input.config.sceneName)
  let document ← uncancelled
    (call.commitWorkerReconstructionArtifact scene.sceneId input.payload input.source.createdAtNs)
  return { input, verified, scene, document }

/-! ## Corrected poses -/

/-- The pose graph, if there is a closure that yields one. -/
def assembled (commit : StageCommit R) : StageM (Option (AssembledPoseGraph R)) :=
  match commit.verified with
  | none => return none
  | some verified => uncancelled <| attempt <|
      maybePersistLoopClosurePoseGraph call.metricEdge call.graphId call.persistPoseGraph verified

/-- The optimized trajectory of the graph, with the closure that it comes from. -/
def optimization (assembled : Option (AssembledPoseGraph R)) :
    StageM (Option (VerifiedLoopClosure R × PersistedOptimization R)) :=
  match assembled with
  | none => return none
  | some assembled => do
      let optimization ← uncancelled <| attempt <|
        maybeRunTrajectoryOptimization call.trajectoryOptimizer call.persistOptimization assembled
      return some (assembled.closure, optimization)

/-- The steps between the commit and the corrected poses. -/
def optimized (commit : StageCommit R) :
    StageM (Option (VerifiedLoopClosure R × PersistedOptimization R)) := do
  call.checkpoint .committed
  let assembled ← call.assembled commit
  call.checkpoint .assembled
  let optimized ← call.optimization assembled
  call.checkpoint .optimized
  return optimized

/-- The stage until `MaybeApplyOptimizedTrajectory` has inserted its row. -/
def applied (commit : StageCommit R) : StageM (Option (Reconstruction R)) := do
  match ← call.optimized commit with
  | none => return none
  | some (verified, optimization) =>
      let document ← uncancelled <| attempt <|
        appliedDocument call.transform (call.reconstructionId .applied) commit.document verified
          optimization commit.input.inputRef
      uncancelled (insertDocument call.codec commit.scene.sceneId (call.fault .apply) document)
      return some document

/-! ## New points -/

/-- `MaybeRetriangulateAppliedRevision`. -/
def maybeRetriangulateAppliedRevision (sceneId : Uuid) (source : Reconstruction R) :
    RevisionM (Option (Reconstruction R)) :=
  if source.points3D.isEmpty then return none
  else do
    let v3 ← attempt <| retriangulatedDocument call.observations call.triangulate
      (call.reconstructionId .retriangulated) source
    replaceDocument call.codec sceneId (call.fault .retriangulate) v3 source
    attempt (call.put .retriangulated)
    return some v3

/-- The revision with new points, after the end of `MaybeApplyOptimizedTrajectory`. -/
def recomputed (commit : StageCommit R) (applied : Option (Reconstruction R)) :
    StageM (Option (Reconstruction R)) :=
  match applied with
  | none => do
      call.checkpoint .applied
      return none
  | some document => do
      uncancelled (attempt (call.put .applied))
      call.checkpoint .applied
      uncancelled (call.maybeRetriangulateAppliedRevision commit.scene.sceneId document)

/-- The end of the committed revision once there is one with new points. -/
def compacted (commit : StageCommit R) (v3 : Option (Reconstruction R)) : RevisionM Unit :=
  if v3.isSome then
    writeTransaction (call.fault .compact) fun db => do
      db.setReconstructionStatus (← parseUuid commit.document.reconstructionId) "superseded"
  else return ()

/-- The stage until only one revision of it is left. -/
def retriangulated (commit : StageCommit R) (applied : Option (Reconstruction R)) :
    StageM (Option (Reconstruction R)) := do
  let v3 ← call.recomputed commit applied
  call.checkpoint .retriangulated
  uncancelled (call.compacted commit v3)
  return v3

/-! ## Bundle adjustment -/

/-- The observations for the bundle adjustment; without new points there are none. -/
def refinedObservations (v3 : Option (Reconstruction R)) :
    Except ProjectError (List (ReprojectionObservation R)) :=
  match v3 with
  | none => .ok []
  | some v3 => buildBundleAdjustmentObservations call.observations v3

/-- The stage from the bundle adjustment on. -/
def refined (commit : StageCommit R) (v3 : Option (Reconstruction R)) : StageM (Reconstruction R) := do
  let observations ← uncancelled (attempt (call.refinedObservations v3))
  let out ← uncancelled <| bundleAdjustmentOptimizePipeline call.codec
    { sourceV3 := v3.getD commit.document
      observations
      optimizer := call.baOptimizer
      sceneId := commit.scene.sceneId
      randomSeed := some commit.input.config.randomSeed } (call.fault .refine)
  if out.ran = false then
    Persist.fail (.failed ⟨.internal,
      "sparse correction: bundle adjustment did not run: " ++ out.failure⟩)
  else if out.gatePassed = false then
    Persist.fail (.failed (rejected out.failure))
  else match out.v4 with
    | none => Persist.fail (.failed ⟨.internal,
        "sparse correction: bundle adjustment produced no v4"⟩)
    | some v4 => do
        call.checkpoint .refined
        uncancelled (attempt (call.put .refined))
        return v4

/-- `RunSparseCorrectionStage`; the result is the document that is emitted. -/
def run : StageM (Reconstruction R) := do
  let commit ← call.committed
  let applied ← call.applied commit
  let v3 ← call.retriangulated commit applied
  call.refined commit v3

end StageCall

end SpatialPlatform.Engine
