import SpatialPlatform.Core.Trajectory.PoseGraphHelpers

/-!
# From a loop closure to an edge

`engine/pipeline/loop_closure_to_pose_graph.cpp`, the one stage that makes a
verified closure an edge of a pose graph.

* `metricEdge_eq_some` — which inputs yield an edge, and which one.
* `edges_backed_iff` — the edges of an input rest on what they should exactly
  when an input that passes the guards has a resolved pose, which no guard asks
  for.
-/

namespace SpatialPlatform.Engine

open SpatialPlatform.Core SpatialPlatform.Core.Geometry

/-- `LoopClosureToPoseGraphInput`, without the trajectory, of which only the nodes are read. -/
structure LoopClosureToPoseGraphInput (R : Type) where
  trajectoryNodes : Option (List (TrajectoryPoseNode R)) := none
  closure : LoopClosure R
  metricBasis : MetricBasis := {}
  configurationHash : String := ""

/-- `LoopClosureToPoseGraphResult`. -/
structure LoopClosureToPoseGraphResult (R : Type) where
  closure : LoopClosure R
  spatialSeparationM : R
  metricEligible : Bool := false
  metricEdge : Option (PoseGraphEdge R) := none

variable {R : Type} [DoubleArith R]

/-- `ComputeSpatialSeparationM`. -/
def computeSpatialSeparationM (nodes : List (TrajectoryPoseNode R))
    (sourceFrameId targetFrameId : String) : R :=
  match lastNode nodes sourceFrameId, lastNode nodes targetFrameId with
  | some (source, _), some (target, _) =>
      if sourceFrameId = targetFrameId then 0.0 else baselineBetween source target
  | _, _ => 0.0

/-- The measurement of a closure. -/
def measurementOf (closure : LoopClosure R) : MetricLoopClosureMeasurement R where
  positionCs := closure.relativePositionXyz
  rotationCst := closure.relativeRotationXyzw
  geometricResidual := closure.geometricResidual

/-- `LoopClosureToPoseGraph`. -/
def loopClosureToPoseGraph (determinant : Vector R 36 → R) (input : LoopClosureToPoseGraphInput R) :
    LoopClosureToPoseGraphResult R :=
  match input.trajectoryNodes with
  | none =>
      { closure := { input.closure with spatialSeparationM := 0.0 }, spatialSeparationM := 0.0 }
  | some nodes =>
      let spatial :=
        computeSpatialSeparationM nodes input.closure.sourceFrameId input.closure.targetFrameId
      let result : LoopClosureToPoseGraphResult R :=
        { closure := { input.closure with spatialSeparationM := spatial }
          spatialSeparationM := spatial
          metricEligible := metricEligibleTrajectoryBasis input.metricBasis }
      if !result.metricEligible then result
      else if input.closure.status ≠ "accepted" then result
      else if input.closure.sourceFrameId = input.closure.targetFrameId then result
      else
        { result with
          metricEdge := buildMetricLoopClosureEdge determinant input.closure nodes
            (measurementOf input.closure) 0 input.configurationHash input.metricBasis }

/-- The input passes every guard on the way to an edge between two nodes. -/
def Passes (determinant : Vector R 36 → R) (input : LoopClosureToPoseGraphInput R)
    (source target : TrajectoryPoseNode R × Nat) : Prop :=
  ∃ nodes, input.trajectoryNodes = some nodes ∧
    Admits determinant input.closure nodes (measurementOf input.closure) input.metricBasis source
      target

theorem metricEdge_eq_some {determinant : Vector R 36 → R} {input : LoopClosureToPoseGraphInput R}
    {edge : PoseGraphEdge R} :
    (loopClosureToPoseGraph determinant input).metricEdge = some edge ↔
      ∃ source target, Passes determinant input source target ∧
        edge = metricLoopClosureEdge input.closure (measurementOf input.closure) 0
          input.configurationHash source target := by
  unfold loopClosureToPoseGraph Passes
  cases hnodes : input.trajectoryNodes with
  | none => simp
  | some nodes =>
    simp only [Option.some.injEq, exists_eq_left']
    rw [← buildMetricLoopClosureEdge_eq_some]
    -- The guards of the stage are the first ones of the helper again.
    unfold buildMetricLoopClosureEdge
    by_cases heligible : metricEligibleTrajectoryBasis input.metricBasis = true
    · by_cases haccepted : input.closure.status = "accepted"
      · by_cases hsame : input.closure.sourceFrameId = input.closure.targetFrameId
        · simp [heligible, haccepted, hsame]
        · simp [heligible, haccepted, hsame]
      · simp [heligible, haccepted]
    · simp [heligible]

/-! ## What an edge rests on

The guards of the stage, read backwards from an edge that was written. -/

/-- A node of the input with the given frame, under the number it has in the graph. -/
def Resolves (input : LoopClosureToPoseGraphInput R) (frameId : String) (nodeId : Int64)
    (node : TrajectoryPoseNode R) : Prop :=
  ∃ nodes place, input.trajectoryNodes = some nodes ∧ nodes[place]? = some node ∧
    node.frameId = frameId ∧ nodeId = Int64.ofNat place

/-- What the closure behind an edge has to be. -/
structure Backed (input : LoopClosureToPoseGraphInput R) (edge : PoseGraphEdge R) : Prop where
  accepted : input.closure.status = "accepted"
  eligible : metricEligibleTrajectoryBasis input.metricBasis = true
  hasRelativePose : input.closure.hasRelativePose = true
  distinct : input.closure.sourceFrameId ≠ input.closure.targetFrameId
  measured : edge.relativePositionXyz = input.closure.relativePositionXyz ∧
    ¬ norm3 edge.relativePositionXyz ≤ (1e-9 : R)
  resolved : ∃ source target,
    Resolves input input.closure.sourceFrameId edge.sourceNodeId source ∧
    Resolves input input.closure.targetFrameId edge.targetNodeId target ∧
    (0.5 : R) ≤ directionAgreement source target edge.relativePositionXyz

/-- The guards establish everything but the flag. -/
theorem backed_of_passes [LawfulArith R] {determinant : Vector R 36 → R}
    {input : LoopClosureToPoseGraphInput R} {source target : TrajectoryPoseNode R × Nat}
    (h : Passes determinant input source target) (hpose : input.closure.hasRelativePose = true) :
    Backed input (metricLoopClosureEdge input.closure (measurementOf input.closure) 0
      input.configurationHash source target) := by
  obtain ⟨nodes, hnodes, hadmits⟩ := h
  have hsource := lastNode_eq_some hadmits.sourceNode
  have htarget := lastNode_eq_some hadmits.targetNode
  exact {
    accepted := hadmits.accepted
    eligible := hadmits.eligible
    hasRelativePose := hpose
    distinct := hadmits.distinct
    measured := ⟨rfl, hadmits.measured⟩
    resolved := ⟨source.1, target.1, ⟨nodes, source.2, hnodes, hsource.2, hsource.1, rfl⟩,
      ⟨nodes, target.2, hnodes, htarget.2, htarget.1, rfl⟩, half_le_directionAgreement hadmits⟩ }

/-- Every edge of an input rests on an accepted closure with a resolved pose
between two distinct nodes exactly when no input that passes the guards lacks
the pose. -/
theorem edges_backed_iff [LawfulArith R] (determinant : Vector R 36 → R)
    (input : LoopClosureToPoseGraphInput R) :
    (∀ edge, (loopClosureToPoseGraph determinant input).metricEdge = some edge →
        Backed input edge) ↔
      ∀ source target, Passes determinant input source target →
        input.closure.hasRelativePose = true := by
  constructor
  · intro h source target hpasses
    exact (h _ (metricEdge_eq_some.mpr ⟨source, target, hpasses, rfl⟩)).hasRelativePose
  · intro h edge hedge
    obtain ⟨source, target, hpasses, rfl⟩ := metricEdge_eq_some.mp hedge
    exact backed_of_passes hpasses (h source target hpasses)

/-! ## A closure without a resolved pose -/

/-- Two frames one metre apart, and an accepted closure between them that has a
translation and, as the argument says, a resolved pose. -/
def sampleClosureInput (hasRelativePose : Bool) : LoopClosureToPoseGraphInput Rat where
  trajectoryNodes := some [
    { frameId := "first", positionXyz := #v[0, 0, 0], rotationXyzw := #v[0, 0, 0, 1] },
    { frameId := "second", positionXyz := #v[1, 0, 0], rotationXyzw := #v[0, 0, 0, 1] }]
  closure :=
    { sourceFrameId := "first"
      targetFrameId := "second"
      status := "accepted"
      inlierRatio := 1
      inlierCount := 40
      confidence := 1
      spatialSeparationM := 0
      hasRelativePose
      relativePositionXyz := #v[1, 0, 0]
      relativeRotationXyzw := #v[0, 0, 0, 1]
      geometricResidual := 0 }
  metricBasis :=
    { declared := true
      scaleCalibrationRef := "calibration"
      provenance := { configurationHash := "configuration" } }

/-- The determinant of a diagonal matrix. -/
def diagonalDeterminant (info : Vector Rat 36) : Rat :=
  (List.finRange 6).foldl (fun product i => product * entry info i i) 1

/-- With the flag there is an edge, and it is backed. -/
theorem sampleClosureInput_backed :
    (loopClosureToPoseGraph diagonalDeterminant (sampleClosureInput true)).metricEdge.isSome = true ∧
    ∀ edge, (loopClosureToPoseGraph diagonalDeterminant (sampleClosureInput true)).metricEdge =
      some edge → Backed (sampleClosureInput true) edge :=
  ⟨by decide +kernel,
    (edges_backed_iff diagonalDeterminant (sampleClosureInput true)).mpr fun _ _ _ => rfl⟩

/-- Without it there is an edge all the same. -/
theorem edge_without_relative_pose :
    ¬ ∀ edge, (loopClosureToPoseGraph diagonalDeterminant (sampleClosureInput false)).metricEdge =
      some edge → Backed (sampleClosureInput false) edge := by
  intro h
  have hedge : (loopClosureToPoseGraph diagonalDeterminant
      (sampleClosureInput false)).metricEdge.isSome = true := by decide +kernel
  obtain ⟨edge, hsome⟩ := Option.isSome_iff_exists.mp hedge
  exact (nomatch (h edge hsome).hasRelativePose)

end SpatialPlatform.Engine
