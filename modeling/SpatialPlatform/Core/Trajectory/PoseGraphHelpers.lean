import SpatialPlatform.Core.Geometry.DirectionMath
import SpatialPlatform.Core.Trajectory.ReconstructionFeedback

/-!
# Building pose graphs

`core/trajectory/pose_graph_helpers.h` as far as it turns poses and verified
loop closures into edges, with the closures of `core/trajectory/loop_closure.h`,
the edges of `core/trajectory/pose_graph.h` and the declaration of
`core/trajectory/metric_basis.h`. The determinant that Eigen computes is a
parameter.

* `buildMetricLoopClosureEdge_eq_some` — which closures yield an edge, and which
  one.
-/

namespace SpatialPlatform.Core

open SpatialPlatform.Core.Geometry

structure TrajectoryPoseNode (R : Type) where
  frameId : String
  timestampNs : Int64 := 0
  sequenceIndex : Int64 := 0
  positionXyz : Vector R 3
  rotationXyzw : Vector R 4
  deriving DecidableEq

/-- `LoopClosure`. -/
structure LoopClosure (R : Type) where
  closureId : String := ""
  trajectoryId : String := ""
  candidateId : String := ""
  sourceFrameId : String
  targetFrameId : String
  status : String
  inlierRatio : R
  inlierCount : Int64
  confidence : R
  temporalSeparationNs : Int64 := 0
  spatialSeparationM : R
  hasRelativePose : Bool := false
  relativePositionXyz : Vector R 3
  relativeRotationXyzw : Quat R
  geometricResidual : R
  createdAtNs : Int64 := 0

/-- `PoseGraphEdge`. -/
structure PoseGraphEdge (R : Type) where
  edgeId : Int64
  type : String
  sourceNodeId : Int64
  targetNodeId : Int64
  relativePositionXyz : Vector R 3
  relativeRotationXyzw : Quat R
  informationMatrix6x6 : Vector R 36
  confidence : R
  source : String
  configurationHash : String := ""

/-! ## Metric bases -/

/-- `MetricBasis`, without its two descriptive names. -/
structure MetricBasis where
  declared : Bool := false
  provenance : ReconstructionProvenance := {}
  scaleCalibrationRef : String := ""

/-- `ValidateMetricBasis`: a reason, and whether it is a good one. -/
def validateMetricBasis (basis : MetricBasis) : Bool × String :=
  if !basis.declared then (true, "undeclared")
  else if basis.scaleCalibrationRef = "" then
    (false, "declared metric basis missing scale_calibration_ref")
  else if basis.provenance.configurationHash = "" then
    (false, "declared metric basis missing provenance.configuration_hash")
  else (true, "metric")

/-- `MetricEligibleTrajectoryBasis`. -/
def metricEligibleTrajectoryBasis (basis : MetricBasis) : Bool :=
  basis.declared && (validateMetricBasis basis).1

section

variable {R : Type} [DoubleArith R]

/-! ## Poses -/

/-- `MakeCameraPose`. -/
def makeCameraPose (positionXyz : Vector R 3) (rotationXyzw : Quat R) : Rigid R :=
  ⟨normalized rotationXyzw, positionXyz⟩

/-- `PoseFromNode`. -/
def poseFromNode (n : TrajectoryPoseNode R) : Rigid R := makeCameraPose n.positionXyz n.rotationXyzw

/-- `RelativePoseBetween`. -/
def relativePoseBetween (a b : TrajectoryPoseNode R) : Rigid R :=
  (poseFromNode a).inverse.mul (poseFromNode b)

/-! ## Information matrices -/

/-- The entry in a row and a column. -/
def entry (info : Vector R 36) (r c : Fin 6) : R := info[6 * r.val + c.val]

/-- `isApprox` of a matrix and its transpose. -/
def isApproxSymmetric (info : Vector R 36) (precision : R) : Bool :=
  let sum (f : Fin 6 → Fin 6 → R) : R :=
    (List.finRange 6).foldl (fun total r =>
      (List.finRange 6).foldl (fun total c => total + f r c * f r c) total) 0.0
  let difference := sum fun r c => entry info r c - entry info c r
  let size := sum fun r c => entry info r c
  let transposed := sum fun r c => entry info c r
  decide (difference ≤ precision * precision * (if transposed < size then transposed else size))

/-- `ValidateInformationMatrix`: a reason when the matrix is refused. -/
def validateInformationMatrix (determinant : Vector R 36 → R) (info : Vector R 36)
    (minDiagonal : R := 1e-9) : Option String :=
  if info.toList.any (!Double.isFinite ·) then some "non-finite entry"
  else if !isApproxSymmetric info 1e-9 then some "not symmetric"
  else if (List.finRange 6).any fun i => entry info i i < minDiagonal then
    some "zero/negative diagonal"
  else if ¬ (0.0 : R) < determinant info ∨ !Double.isFinite (determinant info) then
    some "not positive definite / singular"
  else none

/-- A diagonal matrix with one number for the position and one for the rotation. -/
def diagonal6 (position rotation : R) : Vector R 36 :=
  Vector.ofFn fun i =>
    if i.val % 6 = i.val / 6 then if i.val / 6 < 3 then position else rotation else 0.0

def clamp01 (v : R) : R := if v < (0.0 : R) then 0.0 else if (1.0 : R) < v then 1.0 else v

/-- `MakeDeterministicLoopInfo6`. -/
def makeDeterministicLoopInfo6 (inlierRatio : R) (inlierCount : Int64)
    (geometricResidual cosTheta baselineM : R) : Vector R 36 :=
  let confidenceC := clamp01 (inlierRatio / (0.6 : R))
  let confidenceN := clamp01 (((inlierCount - 15).toInt : R) / (25.0 : R))
  let confidenceRes := clamp01 ((1.0 : R) - geometricResidual / (2.0 : R))
  let confidenceAlign := clamp01 (cosTheta / (0.5 : R))
  let q := confidenceC * confidenceN * confidenceRes * confidenceAlign
  let q := if q < (0.01 : R) then 0.01 else q
  let sigmaT := baselineM * ((0.25 : R) / q)
  let sigmaR := (0.05 : R) * ((1.0 : R) / q)
  diagonal6 ((1.0 : R) / (sigmaT * sigmaT)) ((1.0 : R) / (sigmaR * sigmaR))

/-! ## Loop closures -/

/-- `MetricLoopClosureMeasurement`. -/
structure MetricLoopClosureMeasurement (R : Type) where
  positionCs : Vector R 3
  rotationCst : Quat R
  geometricResidual : R

/-- The last node of a frame, with its place. -/
def lastNode (nodes : List (TrajectoryPoseNode R)) (frameId : String) :
    Option (TrajectoryPoseNode R × Nat) :=
  nodes.zipIdx.reverse.find? fun n => n.1.frameId = frameId

/-- `cos_theta`: how well a translation in the source camera agrees with the way
from the source to the target. -/
def directionAgreement (source target : TrajectoryPoseNode R) (translation : Vector R 3) : R :=
  let deltaPW := sub3 target.positionXyz source.positionXyz
  let baseline := norm3 deltaPW
  let rWs := (makeCameraPose source.positionXyz source.rotationXyzw).rotation
  let tW := rotateDirection rWs translation
  let tWNorm := norm3 tW
  if (1e-12 : R) < tWNorm then dot3 (div3 tW tWNorm) (div3 deltaPW baseline) else 0.0

/-- The distance between two nodes. -/
def baselineBetween (source target : TrajectoryPoseNode R) : R :=
  norm3 (sub3 target.positionXyz source.positionXyz)

/-- The information matrix of the edge between two nodes. -/
def edgeInformation (lc : LoopClosure R) (measurement : MetricLoopClosureMeasurement R)
    (source target : TrajectoryPoseNode R) : Vector R 36 :=
  makeDeterministicLoopInfo6 lc.inlierRatio lc.inlierCount measurement.geometricResidual
    (directionAgreement source target measurement.positionCs) (baselineBetween source target)

/-- The edge that a measurement between two nodes becomes. -/
def metricLoopClosureEdge (lc : LoopClosure R) (measurement : MetricLoopClosureMeasurement R)
    (edgeId : Int64) (configurationHash : String) (source target : TrajectoryPoseNode R × Nat) :
    PoseGraphEdge R where
  edgeId := edgeId
  type := "loop_closure"
  sourceNodeId := Int64.ofNat source.2
  targetNodeId := Int64.ofNat target.2
  relativePositionXyz := measurement.positionCs
  relativeRotationXyzw := measurement.rotationCst
  informationMatrix6x6 := edgeInformation lc measurement source.1 target.1
  confidence := lc.confidence
  source := "loop_closure_verifier"
  configurationHash := configurationHash

/-- `BuildMetricLoopClosureEdge`. -/
def buildMetricLoopClosureEdge (determinant : Vector R 36 → R) (lc : LoopClosure R)
    (nodes : List (TrajectoryPoseNode R)) (measurement : MetricLoopClosureMeasurement R)
    (edgeId : Int64) (configurationHash : String) (basis : MetricBasis) :
    Option (PoseGraphEdge R) :=
  if lc.status ≠ "accepted" then none
  else if lc.sourceFrameId = lc.targetFrameId then none
  else if !metricEligibleTrajectoryBasis basis then none
  else
    match lastNode nodes lc.sourceFrameId, lastNode nodes lc.targetFrameId with
    | some source, some target =>
        let info := edgeInformation lc measurement source.1 target.1
        if norm3 measurement.positionCs ≤ (1e-9 : R) then none
        else if baselineBetween source.1 target.1 ≤ (1e-9 : R) then none
        else if directionAgreement source.1 target.1 measurement.positionCs < (0.5 : R) then none
        else if (validateInformationMatrix determinant info).isSome then none
        else some (metricLoopClosureEdge lc measurement edgeId configurationHash source target)
    | _, _ => none

/-- `ResolveMetricTranslationFromUnitDirection`. -/
def resolveMetricTranslationFromUnitDirection (lc : LoopClosure R)
    (nodes : List (TrajectoryPoseNode R)) (tDirectionCs : Vector R 3) (rotationCst : Quat R)
    (geometricResidual : R) : Option (MetricLoopClosureMeasurement R) :=
  if lc.status ≠ "accepted" then none
  else if lc.sourceFrameId = lc.targetFrameId then none
  else
    match lastNode nodes lc.sourceFrameId, lastNode nodes lc.targetFrameId with
    | some (source, _), some (target, _) =>
        let deltaPW := sub3 target.positionXyz source.positionXyz
        if norm3 tDirectionCs ≤ (1e-9 : R) then none
        else if baselineBetween source target ≤ (1e-9 : R) then none
        else
          let rWs := (makeCameraPose source.positionXyz source.rotationXyzw).rotation
          let lambda := dot3 (rotateDirection rWs tDirectionCs) deltaPW
          if directionAgreement source target tDirectionCs < (0.5 : R) then none
          else if ¬ (0.0 : R) < lambda then none
          else some ⟨scale3 lambda tDirectionCs, rotationCst, geometricResidual⟩
    | _, _ => none

/-! ## Which closures yield an edge

The guards of `buildMetricLoopClosureEdge`, one by one. Some of them are implied
by others, and some look at numbers that are not comparable, which a valid
matrix excludes. -/

/-- What is asked of a closure and a measurement before they become an edge between two nodes. -/
structure Admits (determinant : Vector R 36 → R) (lc : LoopClosure R)
    (nodes : List (TrajectoryPoseNode R)) (measurement : MetricLoopClosureMeasurement R)
    (basis : MetricBasis) (source target : TrajectoryPoseNode R × Nat) : Prop where
  accepted : lc.status = "accepted"
  distinct : lc.sourceFrameId ≠ lc.targetFrameId
  eligible : metricEligibleTrajectoryBasis basis = true
  sourceNode : lastNode nodes lc.sourceFrameId = some source
  targetNode : lastNode nodes lc.targetFrameId = some target
  measured : ¬ norm3 measurement.positionCs ≤ (1e-9 : R)
  apart : ¬ baselineBetween source.1 target.1 ≤ (1e-9 : R)
  agrees : ¬ directionAgreement source.1 target.1 measurement.positionCs < (0.5 : R)
  valid : validateInformationMatrix determinant (edgeInformation lc measurement source.1 target.1) =
    none

theorem buildMetricLoopClosureEdge_eq_some {determinant : Vector R 36 → R} {lc : LoopClosure R}
    {nodes : List (TrajectoryPoseNode R)} {measurement : MetricLoopClosureMeasurement R}
    {edgeId : Int64} {configurationHash : String} {basis : MetricBasis} {edge : PoseGraphEdge R} :
    buildMetricLoopClosureEdge determinant lc nodes measurement edgeId configurationHash basis =
        some edge ↔
      ∃ source target, Admits determinant lc nodes measurement basis source target ∧
        edge = metricLoopClosureEdge lc measurement edgeId configurationHash source target := by
  unfold buildMetricLoopClosureEdge
  constructor
  · intro h
    split at h
    · cases h
    next hstatus =>
    split at h
    · cases h
    next hdistinct =>
    split at h
    · cases h
    next heligible =>
    split at h
    · next source target hsource htarget =>
      -- both nodes are there: now the measurement is judged
      simp only at h
      split at h
      · cases h
      next hmeasured =>
      split at h
      · cases h
      next hapart =>
      split at h
      · cases h
      next hagrees =>
      split at h
      · cases h
      next hvalid =>
      refine ⟨source, target, ?_, (Option.some.inj h).symm⟩
      exact {
        accepted := by simpa using hstatus
        distinct := hdistinct
        eligible := by simpa using heligible
        sourceNode := hsource
        targetNode := htarget
        measured := hmeasured
        apart := hapart
        agrees := hagrees
        valid := by simpa using hvalid }
    · cases h
  · intro ⟨source, target, h, hedge⟩
    rw [if_neg (not_not_intro h.accepted), if_neg h.distinct, if_neg (by simp [h.eligible]),
      h.sourceNode, h.targetNode]
    simp only
    rw [if_neg h.measured, if_neg h.apart, if_neg h.agrees, if_neg (by simp [h.valid]), hedge]

omit [DoubleArith R] in
/-- The last node of a frame is a node of that frame, in its place. -/
theorem lastNode_eq_some {nodes : List (TrajectoryPoseNode R)} {frameId : String}
    {node : TrajectoryPoseNode R × Nat} (h : lastNode nodes frameId = some node) :
    node.1.frameId = frameId ∧ nodes[node.2]? = some node.1 := by
  have hmem := List.mem_of_find?_eq_some h
  refine ⟨by simpa using List.find?_some h, ?_⟩
  exact List.mem_zipIdx_iff_getElem?.mp (List.mem_reverse.mp hmem)

theorem finite_of_valid {determinant : Vector R 36 → R} {info : Vector R 36}
    (h : validateInformationMatrix determinant info = none) (i : Nat) (hi : i < 36) :
    Double.isFinite info[i] = true := by
  unfold validateInformationMatrix at h
  split at h
  · cases h
  next hany =>
  by_contra hnot
  apply hany
  refine List.any_eq_true.mpr ⟨info[i], ?_, by simpa using hnot⟩
  exact Vector.mem_toList_iff.mpr (Vector.getElem_mem hi)

section

variable [LawfulArith R]

/-- `clamp01` lets NaN through. -/
theorem self_of_clamp01 {v : R} (h : clamp01 v ≤ clamp01 v) : v ≤ v := by
  unfold clamp01 at h
  split at h
  next hneg => exact (LawfulArith.lt_self hneg).1
  next =>
    split at h
    next hone => exact (LawfulArith.lt_self hone).2
    next => exact h

/-- A number in the first place means that the cosine is one. -/
theorem self_of_makeDeterministicLoopInfo6 {inlierRatio : R} {inlierCount : Int64}
    {geometricResidual cosTheta baselineM : R}
    (h : (makeDeterministicLoopInfo6 inlierRatio inlierCount geometricResidual cosTheta
        baselineM)[0] ≤
      (makeDeterministicLoopInfo6 inlierRatio inlierCount geometricResidual cosTheta baselineM)[0]) :
    cosTheta ≤ cosTheta := by
  simp only [makeDeterministicLoopInfo6, diagonal6, Vector.getElem_ofFn, Nat.zero_mod, Nat.zero_div,
    if_true, Nat.zero_lt_succ] at h
  have hsigma := (LawfulArith.mul_self (LawfulArith.div_self h).2).1
  have hfloor := (LawfulArith.div_self (LawfulArith.mul_self hsigma).2).2
  -- The floor under the quality lets NaN through as well.
  have hquality : ∀ q : R, (if q < (0.01 : R) then 0.01 else q) ≤ (if q < (0.01 : R) then 0.01 else q) →
      q ≤ q := by
    intro q hq
    split at hq
    next hlow => exact (LawfulArith.lt_self hlow).1
    next => exact hq
  have halign := (LawfulArith.mul_self (hquality _ hfloor)).2
  exact (LawfulArith.div_self (self_of_clamp01 halign)).1

end

/-- A valid matrix has no NaN in it, so neither has the direction agreement behind it. -/
theorem half_le_directionAgreement [LawfulArith R] {determinant : Vector R 36 → R}
    {lc : LoopClosure R} {nodes : List (TrajectoryPoseNode R)}
    {measurement : MetricLoopClosureMeasurement R} {basis : MetricBasis}
    {source target : TrajectoryPoseNode R × Nat}
    (h : Admits determinant lc nodes measurement basis source target) :
    (0.5 : R) ≤ directionAgreement source.1 target.1 measurement.positionCs := by
  apply LawfulArith.le_of_not_lt _ LawfulArith.half_self h.agrees
  have hfinite := finite_of_valid h.valid 0 (by decide)
  exact self_of_makeDeterministicLoopInfo6 (LawfulArith.le_self_of_isFinite hfinite)

end

end SpatialPlatform.Core
