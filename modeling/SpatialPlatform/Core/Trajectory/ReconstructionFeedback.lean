import Mathlib.Data.List.Sort
import Mathlib.Data.String.Basic
import SpatialPlatform.Core.Reconstruction.Document

/-!
# Corrected poses in a reconstruction

`core/trajectory/reconstruction_feedback.h`, with the types of
`core/trajectory/optimization.h` that it reads. `applyOptimizedTrajectory` makes
a new revision of a document in which the images that the optimized trajectory
has a node for get the pose of that node. The composition of poses is a
parameter.
-/

namespace SpatialPlatform.Core

/-- `OptimizedPoseNode`, without its covariances. -/
structure OptimizedPoseNode (R : Type) where
  frameId : String
  timestampNs : Int64 := 0
  sequenceIndex : Int64 := 0
  positionXyz : Vector R 3
  rotationXyzw : Vector R 4

/-- `OptimizationProvenance::OptimizerInfo`. -/
structure OptimizerInfo where
  name : String := ""
  version : String := ""

/-- `OptimizationResult`, as far as the feedback reads it. -/
structure OptimizationResult where
  resultId : String
  createdAtNs : Int64 := 0
  optimizer : OptimizerInfo := {}
  adapterVersion : String := ""

structure ReconstructionFeedbackInput (R : Type) where
  source : Reconstruction R
  optimizationResult : OptimizationResult
  optimizedNodes : List (OptimizedPoseNode R)
  alignmentResolved : Bool := true
  sourceReconstructionCasHash : String := ""
  optimizationResultCasHash : String := ""

structure PoseFeedbackDetail where
  frameId : String
  updated : Bool := false
  matchedNode : Bool := false
  preserved : Bool := false
  skipped : Bool := false

namespace ReconstructionFeedback

variable {R : Type}

/-- The provenance of the new revision. -/
def provenance (input : ReconstructionFeedbackInput R) : ReconstructionProvenance :=
  let result := input.optimizationResult
  let old := input.source.provenance
  let added := [input.optimizationResultCasHash, input.sourceReconstructionCasHash].filter (· ≠ "")
  let hashes := added.foldl (fun hashes hash => if hash ∈ hashes then hashes else hashes ++ [hash])
    old.inputArtifactHashes
  { backend := ⟨"spatial_optimizer", result.optimizer.version, result.adapterVersion⟩
    configurationHash := old.configurationHash
    inputArtifactHashes := hashes.insertionSort (· ≤ ·)
    engineVersion := old.engineVersion
    engineCommit := old.engineCommit
    gitCommit := old.gitCommit
    backendSpecificJson := "\x7b\"optimizer\":\"" ++ result.optimizer.name ++
      "\",\"optimization_result_id\":\"" ++ result.resultId ++ "\",\"option\":\"A\"\x7d" }

/-- The node for a frame, after the nodes with a frame are sorted by it. -/
def nodeOfFrame (nodes : List (OptimizedPoseNode R)) (frameId : String) :
    Option (OptimizedPoseNode R) :=
  ((nodes.filter (·.frameId ≠ "")).insertionSort fun a b => a.frameId ≤ b.frameId).find?
    (·.frameId = frameId)

/-- One image, with what is said about it; `transform` takes position and
rotation of a node to the pose of its camera in the reconstruction. -/
def applyToImage (transform : Vector R 3 → Vector R 4 → ReconPose R)
    (nodes : List (OptimizedPoseNode R)) (image : ReconImage R) :
    ReconImage R × PoseFeedbackDetail :=
  if image.frameId = "" ∨ image.detected = false then
    (image, { frameId := image.frameId, preserved := true, skipped := image.frameId = "" })
  else match nodeOfFrame nodes image.frameId with
    | none => (image, { frameId := image.frameId, preserved := true })
    | some node =>
        ({ image with pose := transform node.positionXyz node.rotationXyzw },
          { frameId := image.frameId, updated := true, matchedNode := true })

/-- `ApplyOptimizedTrajectory`; `reconstructionId` is what `GenerateUuid`
returns, and an error is the text of the exception. -/
def applyOptimizedTrajectory (transform : Vector R 3 → Vector R 4 → ReconPose R)
    (input : ReconstructionFeedbackInput R) (reconstructionId : Uuid) :
    Except String (Reconstruction R × List PoseFeedbackDetail) :=
  if input.optimizedNodes.isEmpty then
    .error ("ApplyOptimizedTrajectory: no optimized pose nodes (empty optimization result); " ++
      "nothing to apply.")
  else if input.alignmentResolved = false then
    .error ("ApplyOptimizedTrajectory: trajectory and reconstruction frames differ and no alignment " ++
      "(reconstruction_from_trajectory) is available; refusing to write raw poses (fail closed).")
  else
    let images := input.source.images.map (applyToImage transform input.optimizedNodes)
    .ok ({ input.source with
        reconstructionId := formatUuid reconstructionId
        status := "succeeded"
        createdAtNs := input.optimizationResult.createdAtNs
        provenance := provenance input
        images := images.map Prod.fst }, images.map Prod.snd)

/-- `ValidateOptimizedReconstruction`. -/
def validateOptimizedReconstruction [Double R] (r : Reconstruction R) : Bool :=
  r.reconstructionId ≠ "" && r.sceneId ≠ "" && r.status = "succeeded" &&
    r.provenance.backend.name ≠ "" && r.coordinateFrame ≠ "" &&
    r.images.all fun image =>
      ¬ image.pose.rotationXyzw.toList.foldl (fun n c => n + c * c) (0.0 : R) < (1e-3 : R)

end ReconstructionFeedback

end SpatialPlatform.Core
