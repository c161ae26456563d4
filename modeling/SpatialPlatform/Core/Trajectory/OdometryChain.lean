import SpatialPlatform.Core.Geometry.RigidGroup
import SpatialPlatform.Core.Trajectory.PoseGraphAssembly
import SpatialPlatform.Lib.Coordinates

/-!
# The odometry chain

What `AssemblePoseGraph` builds from a trajectory with unit quaternions, over
the reals: a chain of edges whose measurements, composed from one node to a
later one, give the relative pose of the two.
-/

namespace SpatialPlatform.Core

open SpatialPlatform.Core.Geometry

section

variable {R : Type} [DoubleArith R]

/-- The measurement of an edge, `T_source_target`. -/
def PoseGraphEdge.measurement (e : PoseGraphEdge R) : Rigid R :=
  ⟨e.relativeRotationXyzw, e.relativePositionXyz⟩

/-- The measurements of the edges from `i` up to, but without, `j`, one after the other. -/
def composeEdges (edges : List (PoseGraphEdge R)) (i j : Nat) : Rigid R :=
  (((edges.take j).drop i).map (·.measurement)).foldl Rigid.mul .identity

/-- What the measurement of an edge leaves of the relative pose of two nodes. -/
def edgeResidual (e : PoseGraphEdge R) (a b : TrajectoryPoseNode R) : Rigid R :=
  e.measurement.inverse.mul (relativePoseBetween a b)

/-- A graph is the odometry chain of a list of nodes. -/
structure OdometryChain (nodes : List (TrajectoryPoseNode R)) (assembly : PoseGraphAssembly R) :
    Prop where
  nodeIds : assembly.graphNodes.map (·.nodeId) = (List.range nodes.length).map Int64.ofNat
  numbered : nodes.length ≤ 2 ^ 63 → ∀ i (h : i < assembly.graphNodes.length),
    assembly.graphNodes[i].nodeId.toInt = i
  edgeCount : assembly.graphEdges.length = nodes.length - 1
  odometry : ∀ e ∈ assembly.graphEdges, e.type = "odometry"
  chained : ∀ i (h : i < assembly.graphEdges.length),
    assembly.graphEdges[i].sourceNodeId = Int64.ofNat i ∧
      assembly.graphEdges[i].targetNodeId = Int64.ofNat (i + 1)
  counts : assembly.graph.nodeCount = Int64.ofNat assembly.graphNodes.length ∧
    assembly.graph.edgeCount = Int64.ofNat assembly.graphEdges.length ∧
    assembly.graph.odometryEdgeCount = Int64.ofNat assembly.graphEdges.length ∧
    assembly.graph.loopClosureEdgeCount = 0 ∧ assembly.graph.priorEdgeCount = 0
  composed : ∀ i j (_ : i ≤ j) (hj : j < nodes.length),
    composeEdges assembly.graphEdges i j = relativePoseBetween nodes[i] nodes[j]
  unmoved : ∀ i (h : i < assembly.graphEdges.length) (hi : i + 1 < nodes.length),
    edgeResidual assembly.graphEdges[i] nodes[i] nodes[i + 1] = .identity

/-! ## The lists -/

variable (trajectory : Trajectory) (nodes : List (TrajectoryPoseNode R))
  (options : PoseGraphAssemblerOptions R)

theorem length_graphEdges :
    (assemblePoseGraph trajectory nodes options).graphEdges.length = nodes.length - 1 := by
  simp [assemblePoseGraph]

theorem getElem_graphEdges {i : Nat}
    (h : i < (assemblePoseGraph trajectory nodes options).graphEdges.length)
    (hi : i + 1 < nodes.length) :
    (assemblePoseGraph trajectory nodes options).graphEdges[i] =
      odometryEdge options i nodes[i] nodes[i + 1] := by
  simp [assemblePoseGraph]

theorem nodeIds_graphNodes :
    (assemblePoseGraph trajectory nodes options).graphNodes.map (·.nodeId) =
      (List.range nodes.length).map Int64.ofNat := by
  apply List.ext_getElem
  · simp [assemblePoseGraph]
  · intro i _ _
    simp [assemblePoseGraph]

end

/-! ## Poses with unit quaternions

In the group of rigid transforms an edge is the quotient of two poses, and a
chain of edges telescopes. -/

/-- The pose of a node with a unit quaternion. -/
noncomputable def unitPose (n : TrajectoryPoseNode ℝ) (h : squaredNorm n.rotationXyzw = 1) :
    UnitRigid :=
  ⟨poseFromNode n, by
    show squaredNorm (normalized n.rotationXyzw) = 1
    rw [normalized_of_unit h, h]⟩

theorem relativePoseBetween_eq {a b : TrajectoryPoseNode ℝ} (ha : squaredNorm a.rotationXyzw = 1)
    (hb : squaredNorm b.rotationXyzw = 1) :
    relativePoseBetween a b = ((unitPose a ha)⁻¹ * unitPose b hb).toRigid := rfl

section

variable {trajectory : Trajectory} {nodes : List (TrajectoryPoseNode ℝ)}
  {options : PoseGraphAssemblerOptions ℝ}

/-- The edges between two nodes, as elements of the group. -/
theorem measurements_between (hunit : ∀ node ∈ nodes, squaredNorm node.rotationXyzw = 1)
    (pose : Nat → UnitRigid)
    (hpose : ∀ k (hk : k < nodes.length), pose k = unitPose nodes[k] (hunit _ (List.getElem_mem hk)))
    {i j : Nat} (hij : i ≤ j) (hj : j < nodes.length) :
    (((assemblePoseGraph trajectory nodes options).graphEdges.take j).drop i).map (·.measurement) =
      ((List.range (j - i)).map fun k =>
        (pose (i + k))⁻¹ / (pose (i + (k + 1)))⁻¹).map UnitRigid.toRigid := by
  have hlength := length_graphEdges trajectory nodes options
  apply List.ext_getElem
  · simp only [List.length_map, List.length_drop, List.length_take, List.length_range, hlength]
    omega
  · intro k hk _
    simp only [List.length_map, List.length_drop, List.length_take, hlength] at hk
    have hnext : i + k + 1 < nodes.length := by omega
    simp only [List.getElem_map, List.getElem_drop, List.getElem_take, List.getElem_range,
      div_inv_eq_mul]
    rw [getElem_graphEdges _ _ _ (by omega) hnext, hpose _ (by omega), hpose _ (by omega)]
    rfl

/-- Between two nodes all the poses in the middle cancel. -/
theorem composeEdges_eq (hunit : ∀ node ∈ nodes, squaredNorm node.rotationXyzw = 1) {i j : Nat}
    (hij : i ≤ j) (hj : j < nodes.length) :
    composeEdges (assemblePoseGraph trajectory nodes options).graphEdges i j =
      relativePoseBetween nodes[i] nodes[j] := by
  let pose : Nat → UnitRigid := fun k =>
    if hk : k < nodes.length then unitPose nodes[k] (hunit _ (List.getElem_mem hk)) else 1
  have hpose : ∀ k (hk : k < nodes.length),
      pose k = unitPose nodes[k] (hunit _ (List.getElem_mem hk)) := fun k hk => dif_pos hk
  rw [composeEdges, measurements_between hunit pose hpose hij hj, ← UnitRigid.toRigid_prod,
    List.prod_range_div' (j - i) fun k => (pose (i + k))⁻¹, div_inv_eq_mul, Nat.add_zero,
    Nat.add_sub_cancel' hij, hpose i (by omega), hpose j hj]
  rfl

/-- The trajectory itself leaves nothing of an edge. -/
theorem edgeResidual_eq (hunit : ∀ node ∈ nodes, squaredNorm node.rotationXyzw = 1) {i : Nat}
    (h : i < (assemblePoseGraph trajectory nodes options).graphEdges.length)
    (hi : i + 1 < nodes.length) :
    edgeResidual (assemblePoseGraph trajectory nodes options).graphEdges[i] nodes[i]
      nodes[i + 1] = .identity := by
  have ha := hunit _ (List.getElem_mem (Nat.lt_of_succ_lt hi))
  have hb := hunit _ (List.getElem_mem hi)
  rw [getElem_graphEdges _ _ _ h hi]
  show (relativePoseBetween nodes[i] nodes[i + 1]).inverse.mul
    (relativePoseBetween nodes[i] nodes[i + 1]) = _
  rw [relativePoseBetween_eq ha hb]
  exact congrArg UnitRigid.toRigid (inv_mul_cancel _)

end

/-- A trajectory with unit quaternions becomes its odometry chain. -/
theorem assemblePoseGraph_odometryChain (trajectory : Trajectory)
    (nodes : List (TrajectoryPoseNode ℝ)) (options : PoseGraphAssemblerOptions ℝ)
    (hunit : ∀ node ∈ nodes, squaredNorm node.rotationXyzw = 1) :
    OdometryChain nodes (assemblePoseGraph trajectory nodes options) where
  nodeIds := nodeIds_graphNodes trajectory nodes options
  numbered := by
    intro hbound i h
    have hi : i < nodes.length := by simpa [assemblePoseGraph] using h
    have hid : (assemblePoseGraph trajectory nodes options).graphNodes[i].nodeId = Int64.ofNat i := by
      simp [assemblePoseGraph]
    rw [hid, Int64.toInt_ofNat_of_lt (by omega)]
  edgeCount := length_graphEdges trajectory nodes options
  odometry := by
    intro e he
    obtain ⟨i, h, rfl⟩ := List.mem_iff_getElem.mp he
    have hlength := length_graphEdges trajectory nodes options
    rw [getElem_graphEdges _ _ _ h (by omega)]
    rfl
  chained := by
    intro i h
    have hlength := length_graphEdges trajectory nodes options
    rw [getElem_graphEdges _ _ _ h (by omega)]
    exact ⟨rfl, rfl⟩
  counts := by simp [assemblePoseGraph]
  composed _ _ hij hj := composeEdges_eq hunit hij hj
  unmoved _ h hi := edgeResidual_eq hunit h hi

/-- Three nodes, a half turn between the first two. -/
noncomputable def sampleTrajectory : List (TrajectoryPoseNode ℝ) :=
  [{ frameId := "a", positionXyz := .triple 0 0 0, rotationXyzw := .quadruple 0 0 0 1 },
    { frameId := "b", positionXyz := .triple 1 0 0, rotationXyzw := .quadruple 0 1 0 0 },
    { frameId := "c", positionXyz := .triple 1 2.0 0, rotationXyzw := .quadruple 0 1 0 0 }]

theorem sampleTrajectory_odometryChain : OdometryChain sampleTrajectory
    (assemblePoseGraph ⟨"trajectory", "scene", 0⟩ sampleTrajectory
      ⟨0.95, 100, 100, "visual_odometry"⟩) := by
  apply assemblePoseGraph_odometryChain
  intro node hnode
  simp only [sampleTrajectory, List.mem_cons, List.not_mem_nil, or_false] at hnode
  obtain rfl | rfl | rfl := hnode <;> simp [squaredNorm_real]

end SpatialPlatform.Core
