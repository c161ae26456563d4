import SpatialPlatform.Core.Reconstruction.ReconstructionJson
import SpatialPlatform.Core.Trajectory.PoseGraphHelpers

/-!
# Pose graphs and optimization results

The assembly of a graph from a trajectory
(`core/trajectory/pose_graph_helpers.h`), the types of the optimizer behind it
(`core/trajectory/optimizer.h`), and the documents of both
(`core/trajectory/pose_graph_json.h`, `optimization_result_json.h`). How a
number stands in a document is a parameter.
-/

namespace SpatialPlatform.Core

/-- `Trajectory`, as far as the assembly reads it. -/
structure Trajectory where
  trajectoryId : String
  sceneId : String
  createdAtNs : Int64 := 0

/-- `TrajectoryPoseNode`, with its covariances. -/
structure CovariantPoseNode (R : Type) extends TrajectoryPoseNode R where
  covariancePosition : Vector R 6
  covarianceRotation : Vector R 6

structure PoseGraphNode where
  nodeId : Int64
  frameId : String
  timestampNs : Int64

/-- `PoseGraph`, without its provenance. -/
structure PoseGraph where
  graphId : String := ""
  trajectoryId : String := ""
  sceneId : String := ""
  status : String := ""
  nodeCount : Int64 := 0
  edgeCount : Int64 := 0
  odometryEdgeCount : Int64 := 0
  loopClosureEdgeCount : Int64 := 0
  priorEdgeCount : Int64 := 0
  createdAtNs : Int64 := 0

structure PoseGraphAssembly (R : Type) where
  graph : PoseGraph
  graphNodes : List PoseGraphNode
  graphEdges : List (PoseGraphEdge R)

/-- `PoseGraphAssemblerOptions`. -/
structure PoseGraphAssemblerOptions (R : Type) where
  odometryConfidence : R
  odometryInfoPosition : R
  odometryInfoRotation : R
  odometrySource : String := "visual_odometry"

section Assembly

variable {R : Type} [DoubleArith R]

/-- The edge from a node to the next one. -/
def odometryEdge (options : PoseGraphAssemblerOptions R) (i : Nat) (a b : TrajectoryPoseNode R) :
    PoseGraphEdge R :=
  let rel := relativePoseBetween a b
  { edgeId := Int64.ofNat i
    type := "odometry"
    sourceNodeId := Int64.ofNat i
    targetNodeId := Int64.ofNat (i + 1)
    relativePositionXyz := rel.translation
    relativeRotationXyzw := rel.rotation
    informationMatrix6x6 := diagonal6 options.odometryInfoPosition options.odometryInfoRotation
    confidence := options.odometryConfidence
    source := options.odometrySource }

/-- `AssemblePoseGraph`; the id is left to the caller. -/
def assemblePoseGraph (trajectory : Trajectory) (nodes : List (TrajectoryPoseNode R))
    (options : PoseGraphAssemblerOptions R) : PoseGraphAssembly R :=
  let graphNodes := nodes.zipIdx.map fun (node, i) =>
    { nodeId := Int64.ofNat i, frameId := node.frameId, timestampNs := node.timestampNs }
  let graphEdges := (nodes.zip nodes.tail).zipIdx.map fun ((a, b), i) => odometryEdge options i a b
  { graph := {
      trajectoryId := trajectory.trajectoryId
      sceneId := trajectory.sceneId
      status := "ready"
      createdAtNs := trajectory.createdAtNs
      nodeCount := Int64.ofNat nodes.length
      edgeCount := Int64.ofNat graphEdges.length
      odometryEdgeCount := Int64.ofNat graphEdges.length }
    graphNodes, graphEdges }

end Assembly

/-! ## The optimizer -/

/-- `PoseOptimizationInput`. -/
structure PoseOptimizationInput (R : Type) where
  graph : PoseGraph
  graphNodes : List PoseGraphNode
  graphEdges : List (PoseGraphEdge R)
  initialNodes : List (CovariantPoseNode R)
  anchorInformationScale : R
  anchorEnabled : Bool := true

/-- `OptimizationTrace`. -/
structure OptimizationTrace (R : Type) where
  converged : Bool := false
  iterations : Int64 := 0
  initialError : R
  finalError : R
  errorReduction : R
  status : String := ""

/-- `PoseOptimizationOutput`. -/
structure PoseOptimizationOutput (R : Type) where
  optimizedNodes : List (CovariantPoseNode R)
  trace : OptimizationTrace R
  resultId : String := ""

/-- `TrajectoryOptimizer`: the same output, or the same exception, for the same input. -/
abbrev TrajectoryOptimizer (R : Type) :=
  PoseOptimizationInput R → Except ProjectError (PoseOptimizationOutput R)

/-- `OptimizationResult`, with all its fields. -/
structure OptimizationOutcome (R : Type) extends OptimizationResult where
  graphId : String
  trajectoryId : String
  status : String
  iterations : Int64
  initialError : R
  finalError : R
  errorReduction : R
  configurationHash : String := ""
  inputArtifactHashes : List String := []
  gitCommit : String := ""
  backendSpecificJson : String := ""

/-! ## Documents

What is written of a graph and of a result; the order of the members is that of
the keys. -/

section Documents

variable {R : Type} (number : R → Json)

def PoseGraphNode.members (n : PoseGraphNode) : List (String × Json) :=
  [("node_id", .int n.nodeId.toInt),
    ("frame_id", .str n.frameId),
    ("timestamp_ns", .int n.timestampNs.toInt)]

def PoseGraphEdge.members (e : PoseGraphEdge R) : List (String × Json) :=
  [("edge_id", .int e.edgeId.toInt),
    ("type", .str e.type),
    ("source_node_id", .int e.sourceNodeId.toInt),
    ("target_node_id", .int e.targetNodeId.toInt),
    ("relative_position_xyz", .arr (e.relativePositionXyz.toList.map number)),
    ("relative_rotation_xyzw", .arr (e.relativeRotationXyzw.toList.map number)),
    ("information_matrix_6x6", .arr (e.informationMatrix6x6.toList.map number)),
    ("confidence", number e.confidence)] ++
  optionalText "source" e.source ++
  optionalText "configuration_hash" e.configurationHash

/-- `PoseGraphToJson`. -/
def poseGraphToJson (json : JsonLibrary) (graph : PoseGraph) (nodes : List PoseGraphNode)
    (edges : List (PoseGraphEdge R)) : String :=
  json.dump none <| .object
    [("schema_version", .int 1),
      ("graph_id", .str graph.graphId),
      ("trajectory_id", .str graph.trajectoryId),
      ("nodes", .arr (nodes.map fun n => .object n.members)),
      ("edges", .arr (edges.map fun e => .object (e.members number)))]

/-- The provenance of a result. -/
def OptimizationOutcome.provenanceMembers (r : OptimizationOutcome R) : List (String × Json) :=
  [("optimizer", .object [("name", .str r.optimizer.name), ("version", .str r.optimizer.version)]),
    ("configuration_hash", .str r.configurationHash),
    ("input_artifact_hashes", .arr (r.inputArtifactHashes.map .str)),
    ("adapter_version", .str r.adapterVersion)] ++
  optionalText "git_commit" r.gitCommit ++
  optionalText "backend_specific_json" r.backendSpecificJson

/-- One entry of `nodes`, of an `OptimizedPoseNode` with its covariances. -/
def CovariantPoseNode.members (n : CovariantPoseNode R) : List (String × Json) :=
  [("frame_id", .str n.frameId),
    ("timestamp_ns", .int n.timestampNs.toInt),
    ("sequence_index", .int n.sequenceIndex.toInt),
    ("position_xyz", .arr (n.positionXyz.toList.map number)),
    ("rotation_xyzw", .arr (n.rotationXyzw.toList.map number)),
    ("covariance_position", .arr (n.covariancePosition.toList.map number)),
    ("covariance_rotation", .arr (n.covarianceRotation.toList.map number))]

/-- `OptimizationResultToJson`. -/
def optimizationResultToJson (json : JsonLibrary) (result : OptimizationOutcome R)
    (optimizedNodes : List (CovariantPoseNode R)) : String :=
  json.dump none <| .object
    [("schema_version", .int 1),
      ("result_id", .str result.resultId),
      ("graph_id", .str result.graphId),
      ("trajectory_id", .str result.trajectoryId),
      ("status", .str result.status),
      ("iterations", .int result.iterations.toInt),
      ("initial_error", number result.initialError),
      ("final_error", number result.finalError),
      ("error_reduction", number result.errorReduction),
      ("created_at_ns", .int result.createdAtNs.toInt),
      ("provenance", .object result.provenanceMembers),
      ("nodes", .arr (optimizedNodes.map fun n => .object (n.members number)))]

end Documents

end SpatialPlatform.Core
