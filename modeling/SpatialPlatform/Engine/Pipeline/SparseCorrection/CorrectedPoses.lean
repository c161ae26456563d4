import SpatialPlatform.Core.Trajectory.PoseGraphHelpers
import SpatialPlatform.Engine.Pipeline.SparseCorrection.BundleAdjustment

/-!
# From a loop closure to corrected poses

Steps 5 to 7 of `engine/pipeline/sparse_correction_runner.cpp`: a verified
closure becomes a pose graph, the graph an optimized trajectory, and the
trajectory a revision with corrected poses. Every step passes on the clock of
the closure. The rows of graphs and results are in tables of their own, so here
they are only the outcome of writing them.
-/

namespace SpatialPlatform.Engine

open SpatialPlatform.Core SpatialPlatform.Lib

/-- `VerifiedLoopClosure`; of the closure itself, what the next steps read. -/
structure VerifiedLoopClosure (R : Type) where
  trajectoryId : String := ""
  createdAtNs : Int64 := 0
  nodes : List (TrajectoryPoseNode R) := []
  coordinateFrame : String := ""
  loopClosurePayloadHash : String := ""

/-- `AssembledPoseGraph`; its nodes and its one edge are those of the closure. -/
structure AssembledPoseGraph (R : Type) where
  graphId : Uuid
  closure : VerifiedLoopClosure R
  createdAtNs : Int64
  graphPayloadHash : String

/-- `PoseOptimizationOutput`, with its trace. -/
structure PoseOptimizationOutput (R : Type) where
  resultId : String
  optimizedNodes : List (OptimizedPoseNode R)
  status : String
  converged : Bool
  iterations : Int64
  initialError : R
  finalError : R
  errorReduction : R

structure PersistedOptimization (R : Type) where
  result : OptimizationResult
  optimizedNodes : List (OptimizedPoseNode R)
  resultPayloadHash : String

/-- A rejected request of the stage. -/
def rejected (text : String) : ProjectError := ⟨.validationDomain, "sparse correction: " ++ text⟩

variable {R : Type}

/-- `MaybePersistLoopClosurePoseGraph`; `metric` says whether the closure yields
a metric edge, and `persisted` is the hash of the payload once row and payload
are written. -/
def maybePersistLoopClosurePoseGraph (metric : VerifiedLoopClosure R → Bool) (graphId : Uuid)
    (persisted : Except ProjectError String) (verified : VerifiedLoopClosure R) :
    Except ProjectError (Option (AssembledPoseGraph R)) :=
  if metric verified then
    return some {
      graphId
      closure := verified
      createdAtNs := verified.createdAtNs
      graphPayloadHash := ← persisted }
  else return none

section

variable [Double R]

/-- The first complaint of `MaybeRunTrajectoryOptimization` about what the optimizer returned. -/
def trajectoryComplaint (initialNodes : List (TrajectoryPoseNode R))
    (output : PoseOptimizationOutput R) : Option String :=
  let finite (v : List R) : Bool := v.all Double.isFinite
  if output.status ≠ "converged" ∨ output.converged = false then
    some ("trajectory optimization did not converge (status '" ++ output.status ++
      "'); no optimized trajectory is produced")
  else if output.optimizedNodes.length ≠ initialNodes.length then
    some ("optimizer returned a node set that does not match the trajectory context; no optimized " ++
      "trajectory is produced")
  else if output.resultId = "" then
    some "optimizer returned no result id; no optimized trajectory is produced"
  else match output.optimizedNodes.find? fun node =>
      !(finite node.positionXyz.toList && finite node.rotationXyzw.toList) with
    | some node =>
        if !finite node.positionXyz.toList then
          some "optimizer returned a non-finite position; no optimized trajectory is produced"
        else some "optimizer returned a non-finite rotation; no optimized trajectory is produced"
    | none =>
        if (0.0 : R) ≤ output.initialError ∧ (0.0 : R) ≤ output.finalError ∧
            (0.0 : R) ≤ output.errorReduction ∧ output.errorReduction ≤ (1.0 : R) ∧
            0 ≤ output.iterations then
          none
        else
          some ("optimizer trace is outside its diagnostic domain; no optimized trajectory is " ++
            "produced")

/-- `MaybeRunTrajectoryOptimization`; `persist` writes row and payload of the
result and gives the hash of the payload. -/
def maybeRunTrajectoryOptimization
    (optimizer : Option (AssembledPoseGraph R → Except ProjectError (PoseOptimizationOutput R)))
    (persist : OptimizationResult → List (OptimizedPoseNode R) → Except ProjectError String)
    (assembled : AssembledPoseGraph R) : Except ProjectError (PersistedOptimization R) := do
  match optimizer with
  | none => throw (rejected ("pose graph assembled but no TrajectoryOptimizer seam was injected; the " ++
      "optimization backend provider is unavailable"))
  | some optimize =>
      let output ← optimize assembled
      match trajectoryComplaint assembled.closure.nodes output with
      | some complaint => throw (rejected complaint)
      | none =>
          let result : OptimizationResult :=
            { resultId := output.resultId
              createdAtNs := assembled.createdAtNs
              optimizer := ⟨"trajectory_optimizer", ""⟩
              adapterVersion := "" }
          return {
            result
            optimizedNodes := output.optimizedNodes
            resultPayloadHash := ← persist result output.optimizedNodes }

/-- The first complaint of `MaybeApplyOptimizedTrajectory` about one node. -/
def nodeComplaint (committed : Reconstruction R) (node : OptimizedPoseNode R) : Option String :=
  if node.frameId = "" then some "optimized node with an empty frame id cannot be applied"
  else if committed.images.all (·.frameId ≠ node.frameId) then
    some ("optimized node references frame '" ++ node.frameId ++
      "' absent from the reconstruction; refusing a dangling apply")
  else if node.positionXyz.toList.any (!Double.isFinite ·) then
    some ("optimized node for frame '" ++ node.frameId ++
      "' carries a non-finite position; refusing the apply")
  else if node.rotationXyzw.toList.any (!Double.isFinite ·) then
    some ("optimized node for frame '" ++ node.frameId ++
      "' carries a non-finite rotation; refusing the apply")
  else none

/-- The document that `MaybeApplyOptimizedTrajectory` inserts. -/
def appliedDocument (transform : Vector R 3 → Vector R 4 → ReconPose R) (reconstructionId : Uuid)
    (committed : Reconstruction R) (verified : VerifiedLoopClosure R)
    (optimization : PersistedOptimization R) (sourceCasHash : String) :
    Except ProjectError (Reconstruction R) :=
  if optimization.optimizedNodes.isEmpty then
    throw (rejected "optimization produced no pose nodes; refusing a vacuous apply")
  else if verified.coordinateFrame = "" ∨ verified.coordinateFrame ≠ committed.coordinateFrame then
    throw (rejected ("trajectory frame '" ++ verified.coordinateFrame ++
      "' does not match reconstruction frame '" ++ committed.coordinateFrame ++
      "'; cross-frame alignment is not resolved in this step"))
  else match optimization.optimizedNodes.findSome? (nodeComplaint committed) with
    | some complaint => throw (rejected complaint)
    | none =>
        match ReconstructionFeedback.applyOptimizedTrajectory transform
            { source := committed
              optimizationResult := optimization.result
              optimizedNodes := optimization.optimizedNodes
              sourceReconstructionCasHash := sourceCasHash
              optimizationResultCasHash := optimization.resultPayloadHash } reconstructionId with
        | .error what => throw (rejected ("apply rejected: " ++ what))
        | .ok (applied, details) =>
            if ReconstructionFeedback.validateOptimizedReconstruction applied = false then
              throw (rejected ("applied reconstruction failed structural validation; refusing to " ++
                "persist it"))
            else if details.all (·.updated = false) then
              throw (rejected "optimization matched no reconstruction image; refusing a vacuous apply")
            else return applied

/-- The insert of a document under its own status and clock. -/
def insertDocument (codec : ReconstructionCodec R) (sceneId : Uuid) (fault : Option ProjectError)
    (document : Reconstruction R) : RevisionM Unit := do
  let reconstructionId ← attempt (parseUuid document.reconstructionId)
  statement fault fun db => db.addReconstruction
    (revisionRow codec document reconstructionId sceneId document.status document.createdAtNs)

end

end SpatialPlatform.Engine
