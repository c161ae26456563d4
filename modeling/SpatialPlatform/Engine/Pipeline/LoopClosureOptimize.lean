import SpatialPlatform.Core.Storage.TrajectoryTables
import SpatialPlatform.Core.Trajectory.PoseGraphAssembly
import SpatialPlatform.Core.UuidText
import SpatialPlatform.Core.Utils.UuidV5
import SpatialPlatform.Engine.Pipeline.LoopClosureToPoseGraph
import SpatialPlatform.Lib.Separated

/-!
# From a loop closure to an optimized trajectory

`engine/pipeline/loop_closure_optimize_pipeline.cpp`: the closure, the graph
with its one metric edge and the result of the optimizer become rows, the last
two under ids that are derived from the names of the closure and its trajectory.
-/

namespace SpatialPlatform.Engine

open SpatialPlatform.Core SpatialPlatform.Lib

/-- What the stage is built with: Eigen's determinant, the JSON library with the
numbers as they stand in its documents, and the build information. -/
structure OptimizePipelineEnv (R : Type) where
  determinant : Vector R 36 → R
  json : JsonLibrary
  number : R → Json
  kEngineVersion : String := ""
  kEngineGitCommit : String := ""

/-- `LoopClosureOptimizePipelineInput`. What a null pointer leaves out is `none` or `false`. -/
structure LoopClosureOptimizePipelineInput (R : Type) where
  trajectory : Option Trajectory
  trajectoryNodes : Option (List (CovariantPoseNode R))
  closure : LoopClosure R
  metricBasis : MetricBasis := {}
  configurationHash : String := ""
  optimizer : Option (TrajectoryOptimizer R)
  hasDb : Bool
  hasStore : Bool
  odometryInfoPosition : R
  odometryInfoRotation : R

/-- `LoopClosureOptimizePipelineResult`. The nodes are both `optimized_nodes` and `optimized`. -/
structure LoopClosureOptimizePipelineResult (R : Type) where
  ran : Bool := false
  spatialSeparationM : R
  metricEligible : Bool := false
  graph : PoseGraph := {}
  graphId : String := ""
  optimization : Option (OptimizationOutcome R) := none
  optimizedNodes : List (CovariantPoseNode R) := []
  resultId : String := ""

/-- The database, the store, and what `GenerateUuid` will return. -/
structure PipelineState (R : Type) where
  db : TrajectoryDb R
  store : StoreState
  random : Nat → Uuid

/-- A call that works on them. -/
abbrev PipelineCall (R : Type) := Persist (PipelineState R) ProjectError

/-! ## Ids -/

def kOrchestrationNamespace : Uuid := ⟨0x6ba7c9019dad11d180b400c04fd430c9⟩

/-- `NameUuid`. -/
def nameUuid (name : String) : Uuid := generateUuidV5 kOrchestrationNamespace name

section

variable {R : Type}

/-- The name of the graph of a closure. -/
def graphName (closure : LoopClosure R) : String :=
  "graph|" ++ closure.trajectoryId ++ "|" ++ closure.closureId

def graphIdOf (closure : LoopClosure R) : String := formatUuid (nameUuid (graphName closure))

/-- The name of the result for a graph. -/
def resultName (graphId : String) : String := "result|" ++ graphId

def resultIdOf (graphId : String) : String := formatUuid (nameUuid (resultName graphId))

/-! ## Rows

What is stored of each document: its reference and the columns that are queried. -/

/-- The candidate of a closure, nil if there is none. -/
def candidateUuid (candidateId : String) : Except ProjectError Uuid :=
  if candidateId = "" then .ok .nil else parseUuid candidateId

/-- `ToLoopClosureRow`. -/
def toLoopClosureRow (c : LoopClosure R) (spatialSeparationM : R) :
    Except ProjectError (LoopClosureRow R) := do
  let closureId ← parseUuid c.closureId
  let trajectoryId ← parseUuid c.trajectoryId
  let candidateId ← candidateUuid c.candidateId
  let sourceFrameId ← parseUuid c.sourceFrameId
  let targetFrameId ← parseUuid c.targetFrameId
  return {
    closureId, trajectoryId, candidateId, sourceFrameId, targetFrameId, spatialSeparationM
    status := c.status
    inlierRatio := c.inlierRatio
    inlierCount := c.inlierCount
    confidence := c.confidence
    temporalSeparationNs := c.temporalSeparationNs
    createdAtNs := c.createdAtNs }

/-- `ToPoseGraphRow`. -/
def toPoseGraphRow (g : PoseGraph) (casContentHash : String) : Except ProjectError PoseGraphRow := do
  let graphId ← parseUuid g.graphId
  let trajectoryId ← parseUuid g.trajectoryId
  let sceneId ← parseUuid g.sceneId
  return {
    graphId, trajectoryId, sceneId
    status := g.status
    nodeCount := g.nodeCount
    edgeCount := g.edgeCount
    odometryEdgeCount := g.odometryEdgeCount
    loopClosureEdgeCount := g.loopClosureEdgeCount
    priorEdgeCount := g.priorEdgeCount
    createdAtNs := g.createdAtNs
    documentJson := casContentHash }

/-- `ToOptimizationResultRow`. -/
def toOptimizationResultRow (r : OptimizationOutcome R) (casContentHash : String) :
    Except ProjectError (OptimizationResultRow R) := do
  let resultId ← parseUuid r.resultId
  let graphId ← parseUuid r.graphId
  let trajectoryId ← parseUuid r.trajectoryId
  return {
    resultId, graphId, trajectoryId
    status := r.status
    iterations := r.iterations
    initialError := r.initialError
    finalError := r.finalError
    errorReduction := r.errorReduction
    createdAtNs := r.createdAtNs
    documentJson := casContentHash }

/-! ## Writes

A document goes into the store, or is referred to by its id. Identifiers come
from a stream. -/

/-- `GenerateUuid`. -/
def generateUuid : PipelineCall R Uuid := fun s =>
  (.ok (s.random 0), { s with random := fun n => s.random (n + 1) })

/-- `Put`; `generated` is what it would give to a manifest without an id. -/
def putArtifact (payload : List UInt8) (manifest : ArtifactManifest) (generated : Uuid) :
    PipelineCall R ArtifactWriteResult := fun s =>
  let (result, store) := s.store.put payload manifest generated
  (result, { s with store })

variable (env : OptimizePipelineEnv R)

/-- `WriteCasArtifact`. -/
def writeCasArtifact (payload artifactType configurationHash : String) : PipelineCall R String := do
  let bytes := stringBytes payload
  let artifactUuid ← generateUuid
  let generated ← generateUuid
  let manifest : ArtifactManifest := {
    artifactUuid, configurationHash
    type := artifactType
    schemaVersion := 1
    producer := ⟨"spatial-platform", env.kEngineVersion, env.kEngineGitCommit⟩
    mimeType := "application/json"
    fileSize := Int64.ofNat bytes.length }
  let written ← putArtifact bytes manifest generated
  return written.contentHash

/-- An upsert of the database. -/
def upsert (write : TrajectoryDb R → Except ProjectError (TrajectoryDb R)) : PipelineCall R Unit :=
  .write fun s => (write s.db).map fun db => { s with db }

/-- The reference to a document: its hash in the store, or `id` without one. -/
def writeDocument (input : LoopClosureOptimizePipelineInput R)
    (payload artifactType id : String) : PipelineCall R String :=
  if input.hasStore then writeCasArtifact env payload artifactType input.configurationHash
  else pure id

/-- Step 2. -/
def persistClosure (closure : LoopClosure R) (spatialSeparationM : R) : PipelineCall R Unit := do
  let row ← .ofExcept (toLoopClosureRow closure spatialSeparationM)
  upsert (·.upsertLoopClosure row)

/-- The end of step 3. -/
def persistGraph (input : LoopClosureOptimizePipelineInput R) (assembly : PoseGraphAssembly R) :
    PipelineCall R Unit := do
  let graphDoc :=
    poseGraphToJson env.number env.json assembly.graph assembly.graphNodes assembly.graphEdges
  let graphCasHash ← writeDocument env input graphDoc "pose_graph" assembly.graph.graphId
  let row ← .ofExcept (toPoseGraphRow assembly.graph graphCasHash)
  upsert (·.upsertPoseGraph row)

/-- The end of step 6. -/
def persistResult (input : LoopClosureOptimizePipelineInput R) (result : OptimizationOutcome R)
    (optimized : List (CovariantPoseNode R)) : PipelineCall R Unit := do
  let optDoc := optimizationResultToJson env.number env.json result optimized
  let optCasHash ← writeDocument env input optDoc "optimization_result" result.resultId
  let row ← .ofExcept (toOptimizationResultRow result optCasHash)
  upsert (·.upsertOptimizationResult row)

end

/-! ## The pipeline

The steps in the order of the source. A step in which nothing is to be done ends
the call with what there is so far. -/

section

variable {R : Type} [DoubleArith R] (env : OptimizePipelineEnv R)

/-- The input of the first stage. -/
def stageInput (input : LoopClosureOptimizePipelineInput R) (nodes : List (CovariantPoseNode R)) :
    LoopClosureToPoseGraphInput R where
  trajectoryNodes := some (nodes.map (·.toTrajectoryPoseNode))
  closure := input.closure
  metricBasis := input.metricBasis
  configurationHash := input.configurationHash

/-- Step 3: the odometry edges and the metric edge behind them. -/
def assembleWithEdge (input : LoopClosureOptimizePipelineInput R) (trajectory : Trajectory)
    (nodes : List (CovariantPoseNode R)) (edge : PoseGraphEdge R) : PoseGraphAssembly R :=
  let assembly := assemblePoseGraph trajectory (nodes.map (·.toTrajectoryPoseNode))
    { odometryConfidence := 0.95
      odometryInfoPosition := input.odometryInfoPosition
      odometryInfoRotation := input.odometryInfoRotation }
  let metricEdge := { edge with edgeId := Int64.ofNat assembly.graphEdges.length }
  let graphEdges := assembly.graphEdges ++ [metricEdge]
  { assembly with
    graphEdges
    graph := { assembly.graph with
      graphId := graphIdOf input.closure
      edgeCount := Int64.ofNat graphEdges.length
      odometryEdgeCount := Int64.ofNat (graphEdges.length - 1)
      loopClosureEdgeCount := 1 } }

/-- Step 5. -/
def resultOf (input : LoopClosureOptimizePipelineInput R) (graphId : String)
    (trace : OptimizationTrace R) : OptimizationOutcome R where
  resultId := resultIdOf graphId
  graphId := graphId
  trajectoryId := input.closure.trajectoryId
  status := trace.status
  iterations := trace.iterations
  initialError := trace.initialError
  finalError := trace.finalError
  errorReduction := trace.errorReduction
  createdAtNs := input.closure.createdAtNs
  optimizer := ⟨"gtsam", "seam"⟩
  adapterVersion := "0.1.0"

/-- Steps 3 to 6, for a metric edge. -/
def optimizeEdge (input : LoopClosureOptimizePipelineInput R) (optimizer : TrajectoryOptimizer R)
    (trajectory : Trajectory) (nodes : List (CovariantPoseNode R)) (edge : PoseGraphEdge R)
    (out : LoopClosureOptimizePipelineResult R) :
    PipelineCall R (LoopClosureOptimizePipelineResult R) := do
  let assembly := assembleWithEdge input trajectory nodes edge
  persistGraph env input assembly
  let seamOut ← .ofExcept <| optimizer {
    graph := assembly.graph
    graphNodes := assembly.graphNodes
    graphEdges := assembly.graphEdges
    initialNodes := nodes
    anchorInformationScale := 1e6
    anchorEnabled := true }
  let result := resultOf input assembly.graph.graphId seamOut.trace
  persistResult env input result seamOut.optimizedNodes
  return { out with
    ran := true
    graph := assembly.graph
    graphId := assembly.graph.graphId
    optimization := some result
    optimizedNodes := seamOut.optimizedNodes
    resultId := result.resultId }

/-- `LoopClosureOptimizePipeline`. -/
def loopClosureOptimizePipeline (input : LoopClosureOptimizePipelineInput R) :
    PipelineCall R (LoopClosureOptimizePipelineResult R) :=
  match input.trajectory, input.trajectoryNodes with
  | some trajectory, some nodes => do
      let staged := loopClosureToPoseGraph env.determinant (stageInput input nodes)
      let out : LoopClosureOptimizePipelineResult R :=
        { spatialSeparationM := staged.spatialSeparationM
          metricEligible := staged.metricEligible }
      if input.hasDb then
        persistClosure staged.closure staged.spatialSeparationM
        match input.optimizer, staged.metricEdge with
        | some optimizer, some edge => optimizeEdge env input optimizer trajectory nodes edge out
        | _, _ => return out
      else return out
  | _, _ => return { spatialSeparationM := 0.0 }

end

end SpatialPlatform.Engine
