import Mathlib.Logic.Relation
import SpatialPlatform.Core.Trajectory.OdometryChain
import SpatialPlatform.Engine.Pipeline.LoopClosureOptimize
import SpatialPlatform.Engine.Pipeline.SparseCorrection.CorrectedPoses
import SpatialPlatform.Lib.Coordinates

/-!
# Two graphs for one loop closure

`MaybePersistLoopClosurePoseGraph` and `MaybeRunTrajectoryOptimization` of
`engine/pipeline/sparse_correction_runner.cpp` hand the optimizer a graph for a
verified closure, and so does
`engine/pipeline/loop_closure_optimize_pipeline.cpp`. The anchor of the
optimizer fixes node 0; a node that no edge ties to it is free.

* `assembleWithEdge_gauged` — the graph of the pipeline ties every node to node
  0.
* `gauged_single_iff` — a graph with a single edge does so up to two nodes.
-/

namespace SpatialPlatform.Engine

open SpatialPlatform.Core SpatialPlatform.Core.Geometry Relation

section

variable {R : Type}

/-- An edge leads from one node to the other. -/
def Joined (edges : List (PoseGraphEdge R)) (u v : Int64) : Prop :=
  ∃ e ∈ edges, e.sourceNodeId = u ∧ e.targetNodeId = v

/-- Every node is connected through edges to node 0. -/
def Gauged (graphNodes : List PoseGraphNode) (graphEdges : List (PoseGraphEdge R)) : Prop :=
  ∀ node ∈ graphNodes, EqvGen (Joined graphEdges) 0 node.nodeId

/-- A single edge connects its ends, and nothing else. -/
theorem ends_of_single {e : PoseGraphEdge R} {u v : Int64} (h : EqvGen (Joined [e]) u v) :
    u = v ∨ (u = e.sourceNodeId ∨ u = e.targetNodeId) ∧
      (v = e.sourceNodeId ∨ v = e.targetNodeId) := by
  induction h with
  | rel u v h =>
    obtain ⟨e', he', rfl, rfl⟩ := h
    rw [List.mem_singleton.mp he']
    exact Or.inr ⟨Or.inl rfl, Or.inr rfl⟩
  | refl u => exact Or.inl rfl
  | symm u v _ ih => grind
  | trans u v w _ _ ihu ihv => grind

/-- The edges `0 → 1 → 2 → …` connect what they reach with node 0. -/
theorem connected_of_chain {edges : List (PoseGraphEdge R)} (n : Nat)
    (hchain : ∀ i < n, Joined edges (Int64.ofNat i) (Int64.ofNat (i + 1))) {i : Nat} (hi : i ≤ n) :
    EqvGen (Joined edges) 0 (Int64.ofNat i) := by
  induction i with
  | zero => exact EqvGen.refl _
  | succ i ih => exact (ih (by omega)).trans _ _ _ (EqvGen.rel _ _ (hchain i (by omega)))

end

section

variable {R : Type} [DoubleArith R]

/-! ## The graph of the sparse correction

The stage hands over one closure as a graph of its own. Its nodes are numbered
by their places, so whether the odometry connects them is a question about the
number of places. -/

/-- `VerifiedLoopClosure`, with the closure and the basis of its poses. -/
structure VerifiedMetricClosure (R : Type) where
  closure : LoopClosure R
  nodes : List (CovariantPoseNode R)
  metricBasis : MetricBasis := {}
  coordinateFrame : String := ""
  loopClosurePayloadHash : String := ""

/-- What the later steps read of it. -/
def VerifiedMetricClosure.verified (v : VerifiedMetricClosure R) : VerifiedLoopClosure R where
  trajectoryId := v.closure.trajectoryId
  createdAtNs := v.closure.createdAtNs
  nodes := v.nodes.map (·.toTrajectoryPoseNode)
  coordinateFrame := v.coordinateFrame
  loopClosurePayloadHash := v.loopClosurePayloadHash

/-- `stage_in`. -/
def VerifiedMetricClosure.stageInput (v : VerifiedMetricClosure R) (pipelineHash : String) :
    LoopClosureToPoseGraphInput R where
  trajectoryNodes := some (v.nodes.map (·.toTrajectoryPoseNode))
  closure := v.closure
  metricBasis := v.metricBasis
  configurationHash := pipelineHash

/-- The graph that `MaybePersistLoopClosurePoseGraph` writes and returns, if there is a metric edge. -/
def closureGraph (determinant : Vector R 36 → R) (v : VerifiedMetricClosure R)
    (graphId sceneId : Uuid) (pipelineHash : String) : Option (PoseGraphAssembly R) :=
  (loopClosureToPoseGraph determinant (v.stageInput pipelineHash)).metricEdge.map fun edge =>
    let graphNodes := v.nodes.zipIdx.map fun (node, i) =>
      { nodeId := Int64.ofNat i, frameId := node.frameId, timestampNs := node.timestampNs }
    { graph := {
        graphId := formatUuid graphId
        trajectoryId := v.closure.trajectoryId
        sceneId := formatUuid sceneId
        status := "ready"
        nodeCount := Int64.ofNat graphNodes.length
        edgeCount := 1
        odometryEdgeCount := 0
        loopClosureEdgeCount := 1
        priorEdgeCount := 0
        createdAtNs := v.closure.createdAtNs }
      graphNodes
      graphEdges := [edge] }

/-- The `input` of `MaybeRunTrajectoryOptimization`, with the defaults of the seam. -/
def optimizerInput (v : VerifiedMetricClosure R) (assembled : PoseGraphAssembly R) :
    PoseOptimizationInput R where
  graph := assembled.graph
  graphNodes := assembled.graphNodes
  graphEdges := assembled.graphEdges
  initialNodes := v.nodes
  anchorInformationScale := 1e6
  anchorEnabled := true

/-- `metric` of the step that persists the graph is that there is one. -/
theorem maybePersist_closureGraph (determinant : Vector R 36 → R) (v : VerifiedMetricClosure R)
    (graphId sceneId : Uuid) (pipelineHash : String) (persisted : Except ProjectError String) :
    maybePersistLoopClosurePoseGraph
        (fun _ => (closureGraph determinant v graphId sceneId pipelineHash).isSome) graphId persisted
        v.verified =
      match closureGraph determinant v graphId sceneId pipelineHash with
      | none => .ok none
      | some assembled => persisted.map fun hash =>
          some ⟨graphId, v.verified, assembled.graph.createdAtNs, hash⟩ := by
  unfold maybePersistLoopClosurePoseGraph
  cases hgraph : closureGraph determinant v graphId sceneId pipelineHash with
  | none => rfl
  | some assembled =>
    have hcreated : assembled.graph.createdAtNs = v.closure.createdAtNs := by
      obtain ⟨edge, _, rfl⟩ := Option.map_eq_some_iff.mp hgraph
      rfl
    cases persisted with
    | error e => rfl
    | ok hash =>
      exact congrArg (fun createdAtNs => Except.ok (some (⟨graphId, v.verified, createdAtNs, hash⟩ :
        AssembledPoseGraph R))) hcreated.symm

variable {determinant : Vector R 36 → R} {v : VerifiedMetricClosure R} {graphId sceneId : Uuid}
  {pipelineHash : String} {assembled : PoseGraphAssembly R}

/-- The nodes are numbered in their order, and the one edge joins two different ones. -/
theorem closureGraph_spec (h : closureGraph determinant v graphId sceneId pipelineHash =
    some assembled) :
    assembled.graphNodes.map (·.nodeId) = (List.range v.nodes.length).map Int64.ofNat ∧
    ∃ edge source target, assembled.graphEdges = [edge] ∧ source ≠ target ∧
      source < v.nodes.length ∧ target < v.nodes.length ∧
      edge.sourceNodeId = Int64.ofNat source ∧ edge.targetNodeId = Int64.ofNat target := by
  obtain ⟨edge, hedge, rfl⟩ := Option.map_eq_some_iff.mp h
  constructor
  · apply List.ext_getElem
    · simp
    · intro i _ _
      simp
  · obtain ⟨source, target, ⟨nodes, hnodes, hadmits⟩, rfl⟩ := metricEdge_eq_some.mp hedge
    obtain rfl := Option.some.inj hnodes
    have hsource := lastNode_eq_some hadmits.sourceNode
    have htarget := lastNode_eq_some hadmits.targetNode
    refine ⟨_, source.2, target.2, rfl, ?_, ?_, ?_, rfl, rfl⟩
    · -- one place has one frame
      intro hsame
      rw [hsame, htarget.2] at hsource
      apply hadmits.distinct
      exact hsource.1.symm.trans ((congrArg _ (Option.some.inj hsource.2)).symm.trans htarget.1)
    · simpa using (List.getElem?_eq_some_iff.mp hsource.2).1
    · simpa using (List.getElem?_eq_some_iff.mp htarget.2).1

omit [DoubleArith R] in
/-- The nodes of the graph are those with the number of a place. -/
theorem gauged_iff_places {graphNodes : List PoseGraphNode} {graphEdges : List (PoseGraphEdge R)}
    {n : Nat} (hids : graphNodes.map (·.nodeId) = (List.range n).map Int64.ofNat) :
    Gauged graphNodes graphEdges ↔ ∀ i < n, EqvGen (Joined graphEdges) 0 (Int64.ofNat i) := by
  have hmem : ∀ u : Int64, (∃ node ∈ graphNodes, node.nodeId = u) ↔ ∃ i < n, Int64.ofNat i = u := by
    intro u
    rw [← List.mem_map, hids]
    simp
  constructor
  · intro h i hi
    obtain ⟨node, hnode, hid⟩ := (hmem _).mpr ⟨i, hi, rfl⟩
    exact hid ▸ h node hnode
  · intro h node hnode
    obtain ⟨i, hi, hid⟩ := (hmem _).mp ⟨node, hnode, rfl⟩
    exact hid ▸ h i hi

theorem gauged_single_iff (h : closureGraph determinant v graphId sceneId pipelineHash =
    some assembled) :
    Gauged assembled.graphNodes assembled.graphEdges ↔ v.nodes.length ≤ 2 := by
  obtain ⟨hids, edge, source, target, hedges, hne, hsource, htarget, hs, ht⟩ := closureGraph_spec h
  rw [gauged_iff_places hids, hedges]
  constructor
  · intro hgauged
    by_contra hlong
    have hfirst := ends_of_single (hgauged 1 (by omega))
    have hsecond := ends_of_single (hgauged 2 (by omega))
    have h01 : (0 : Int64) ≠ Int64.ofNat 1 := by decide
    have h02 : (0 : Int64) ≠ Int64.ofNat 2 := by decide
    have h12 : Int64.ofNat 1 ≠ Int64.ofNat 2 := by decide
    grind
  · intro hshort i hi
    have hjoined : Joined [edge] (Int64.ofNat source) (Int64.ofNat target) :=
      ⟨edge, List.mem_singleton_self _, hs, ht⟩
    obtain rfl | rfl : i = 0 ∨ i = 1 := by omega
    · exact EqvGen.refl _
    · -- the edge joins the two nodes, one way or the other
      obtain ⟨rfl, rfl⟩ | ⟨rfl, rfl⟩ : source = 0 ∧ target = 1 ∨ source = 1 ∧ target = 0 := by omega
      · exact EqvGen.rel _ _ hjoined
      · exact (EqvGen.rel _ _ hjoined).symm

/-! ## The graph of the pipeline -/

/-- The odometry edges tie every node to node 0. -/
theorem assembleWithEdge_gauged (input : LoopClosureOptimizePipelineInput R)
    (trajectory : Trajectory) (nodes : List (CovariantPoseNode R)) (edge : PoseGraphEdge R) :
    Gauged (assembleWithEdge input trajectory nodes edge).graphNodes
      (assembleWithEdge input trajectory nodes edge).graphEdges := by
  have hids := nodeIds_graphNodes trajectory (nodes.map (·.toTrajectoryPoseNode))
    { odometryConfidence := 0.95
      odometryInfoPosition := input.odometryInfoPosition
      odometryInfoRotation := input.odometryInfoRotation }
  refine (gauged_iff_places hids).mpr fun i hi => ?_
  rw [List.length_map] at hi
  apply connected_of_chain i _ (Nat.le_refl i)
  intro k hk
  have hlength := length_graphEdges trajectory (nodes.map (·.toTrajectoryPoseNode))
    { odometryConfidence := 0.95
      odometryInfoPosition := input.odometryInfoPosition
      odometryInfoRotation := input.odometryInfoRotation }
  rw [List.length_map] at hlength
  refine ⟨_, List.mem_append_left _ (List.getElem_mem (by omega : k < _)), ?_⟩
  rw [getElem_graphEdges _ _ _ (by omega) (by rw [List.length_map]; omega)]
  exact ⟨rfl, rfl⟩

/-- In the graph that the optimizer is handed by the sparse correction every
node is tied to node 0 exactly when there are no more than two; in the graph of
the pipeline for the same closure every node is. -/
theorem closureGraph_gauged_iff (determinant : Vector R 36 → R) (v : VerifiedMetricClosure R)
    (graphId sceneId : Uuid) (pipelineHash : String) (assembled : PoseGraphAssembly R)
    (h : closureGraph determinant v graphId sceneId pipelineHash = some assembled) :
    (Gauged (optimizerInput v assembled).graphNodes (optimizerInput v assembled).graphEdges ↔
      v.nodes.length ≤ 2) ∧
    ∀ (input : LoopClosureOptimizePipelineInput R) (trajectory : Trajectory) (edge : PoseGraphEdge R),
      input.closure = v.closure →
      (loopClosureToPoseGraph determinant (stageInput input v.nodes)).metricEdge = some edge →
      Gauged (assembleWithEdge input trajectory v.nodes edge).graphNodes
        (assembleWithEdge input trajectory v.nodes edge).graphEdges :=
  ⟨gauged_single_iff h, fun input trajectory edge _ _ =>
    assembleWithEdge_gauged input trajectory v.nodes edge⟩

end

/-! ## A node without an edge -/

/-- A node in the origin. -/
def nodeAtOrigin (frameId : String) : CovariantPoseNode Rat where
  frameId := frameId
  positionXyz := .triple 0 0 0
  rotationXyzw := .quadruple 0 0 0 1
  covariancePosition := Vector.replicate 6 0
  covarianceRotation := Vector.replicate 6 0

/-- The closure between two frames one metre apart, with more nodes behind them. -/
def sampleVerified (others : List (CovariantPoseNode Rat)) : VerifiedMetricClosure Rat where
  closure := (sampleClosureInput true).closure
  metricBasis := (sampleClosureInput true).metricBasis
  nodes := nodeAtOrigin "first" ::
    { nodeAtOrigin "second" with positionXyz := .triple 1 0 0 } :: others

/-- Two nodes are tied to each other. -/
theorem sampleVerified_gauged : ∃ assembled,
    closureGraph diagonalDeterminant (sampleVerified []) ⟨1⟩ ⟨2⟩ "configuration" = some assembled ∧
    Gauged (optimizerInput (sampleVerified []) assembled).graphNodes
      (optimizerInput (sampleVerified []) assembled).graphEdges := by
  have hsome : (closureGraph diagonalDeterminant (sampleVerified []) ⟨1⟩ ⟨2⟩
      "configuration").isSome = true := by decide +kernel
  obtain ⟨assembled, h⟩ := Option.isSome_iff_exists.mp hsome
  exact ⟨assembled, h, (closureGraph_gauged_iff _ _ _ _ _ _ h).1.mpr (by decide)⟩

/-- A third node has no edge at all. -/
theorem third_node_free : ∃ assembled,
    closureGraph diagonalDeterminant (sampleVerified [nodeAtOrigin "third"]) ⟨1⟩ ⟨2⟩
      "configuration" = some assembled ∧
    ¬ Gauged (optimizerInput (sampleVerified [nodeAtOrigin "third"]) assembled).graphNodes
      (optimizerInput (sampleVerified [nodeAtOrigin "third"]) assembled).graphEdges := by
  have hsome : (closureGraph diagonalDeterminant (sampleVerified [nodeAtOrigin "third"]) ⟨1⟩ ⟨2⟩
      "configuration").isSome = true := by decide +kernel
  obtain ⟨assembled, h⟩ := Option.isSome_iff_exists.mp hsome
  refine ⟨assembled, h, fun hgauged => ?_⟩
  have hshort := (gauged_single_iff h).mp hgauged
  simp [sampleVerified] at hshort

end SpatialPlatform.Engine
