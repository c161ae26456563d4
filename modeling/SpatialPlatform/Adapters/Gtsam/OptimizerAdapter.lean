import SpatialPlatform.Adapters.Gtsam.OptimizerInput
import SpatialPlatform.Lib.Fallible
import SpatialPlatform.Lib.Coordinates

/-!
# The pose-graph optimizer

`optimize` of `adapters/gtsam/gtsam_optimizer_adapter.cpp`. GTSAM is a parameter
each of whose calls returns or throws; some of the calls stand in a `try`, the
others do not. The output is fresh, as it is wherever the adapter is called.
-/

namespace SpatialPlatform.Adapters.Gtsam

open SpatialPlatform.Core SpatialPlatform.Lib

/-! ## GTSAM -/

/-- What a call of the solver or of the linear algebra behind it throws. -/
abbrev SolverException := String

/-- `PriorFactor<Pose3>` and `BetweenFactor<Pose3>`. -/
inductive Factor (Pose Noise : Type) where
  | prior (key : UInt64) (pose : Pose) (noise : Noise)
  | between (source target : UInt64) (relative : Pose) (noise : Noise)

/-- `LevenbergMarquardtParams`, as far as they are set. -/
structure LevenbergMarquardtParams (R : Type) where
  maxIterations : UInt64
  relativeErrorTol : R
  absoluteErrorTol : R
  lambdaInitial : R
  lambdaFactor : R

/-- The calls of GTSAM. -/
structure GtsamCalls (R : Type) where
  Pose : Type
  Noise : Type
  Values : Type
  Optimizer : Type
  Marginals : Type
  /-- `Pose3()`. -/
  identity : Pose
  pose : Vector R 3 → Vector R 4 → Except SolverException Pose
  parts : Pose → Except SolverException (Vector R 3 × Vector R 4)
  /-- The same rotation at another place. -/
  movedTo : Pose → Vector R 3 → Except SolverException Pose
  /-- `Gaussian::Information`. -/
  information : Vector R 36 → Except SolverException Noise
  /-- Making a factor and adding it. -/
  add : Factor Pose Noise → Except SolverException Unit
  /-- `Values()`. -/
  noValues : Values
  insert : Values → UInt64 → Pose → Except SolverException Values
  /-- `Values::at<Pose3>`. -/
  valueAt : Values → UInt64 → Except SolverException Pose
  error : List (Factor Pose Noise) → Values → Except SolverException R
  optimizer : List (Factor Pose Noise) → Values → LevenbergMarquardtParams R →
    Except SolverException Optimizer
  /-- `LevenbergMarquardtOptimizer::optimize`. -/
  run : Optimizer → Except SolverException Values
  iterations : Optimizer → Except SolverException UInt64
  marginals : List (Factor Pose Noise) → Values → Except SolverException Marginals
  covariance : Marginals → UInt64 → Except SolverException (Vector R 36)

/-! ## Conversions -/

/-- `kTangentPermutation`. -/
def tangentPermutation (i : Nat) : Nat := (i + 3) % 6

/-- `permuteMatrix6x6`. -/
def permuteMatrix6x6 {R : Type} (m : Vector R 36) : Vector R 36 :=
  Vector.ofFn fun i =>
    m.get ⟨tangentPermutation (i / 6) * 6 + tangentPermutation (i % 6), by
      have hi := i.isLt
      unfold tangentPermutation
      omega⟩

def nodeIdToKey (nodeId : Int64) : UInt64 := nodeId.toUInt64

/-- `OptimizedPoseNode`, with its covariances. -/
structure CovariantOptimizedNode (R : Type) extends OptimizedPoseNode R where
  covariancePosition : Vector R 6
  covarianceRotation : Vector R 6

structure OptimizationOutput (R : Type) where
  result : OptimizationOutcome R
  optimizedNodes : List (CovariantOptimizedNode R) := []

section

variable {R : Type} [DoubleArith R]

/-- `diagonalInformation`. -/
def diagonalInformation (scale : R) : Vector R 36 :=
  Vector.ofFn fun i => if i.val / 6 = i.val % 6 then scale else 0.0

def noCovariance : Vector R 6 := Vector.replicate 6 0.0

/-- `extractCovarianceUpperTriangle`. -/
def extractCovarianceUpperTriangle (covariance : Vector R 36) : Vector R 6 × Vector R 6 :=
  let p3 := permuteMatrix6x6 covariance
  (#v[0, 1, 2, 7, 8, 14].map p3.get, #v[21, 22, 23, 28, 29, 35].map p3.get)

variable (g : GtsamCalls R) (print : R → List Char) (newId : String) (input : OptimizationInput R)

/-! ## The problem

Nodes are found by their ids, of which the last one counts. What the loops add
to the graph is kept in order. -/

/-- The entry of `nodeid_to_graph_index`: of several nodes with an id, the last one. -/
def OptimizationInput.graphNode (nodeId : Int64) : Option PoseGraphNode :=
  input.graphNodes.reverse.find? (·.nodeId = nodeId)

/-- Where a node starts, for GTSAM. -/
def startPose (node : PoseGraphNode) : Except SolverException g.Pose :=
  match input.trajectoryPose node.frameId with
  | some pose => g.pose pose.positionXyz pose.rotationXyzw
  | none => .ok g.identity

def initialValues : Except SolverException g.Values :=
  input.graphNodes.foldlM (fun values node => do
    let pose ← startPose g input node
    g.insert values (nodeIdToKey node.nodeId) pose) g.noValues

def addFactor (factor : Factor g.Pose g.Noise) : Except SolverException (Option (Factor g.Pose g.Noise)) :=
  do
    g.add factor
    return some factor

/-- The prior that anchors the first node. -/
def anchorFactor : Except SolverException (Option (Factor g.Pose g.Noise)) :=
  match input.graphNodes with
  | [] => return none
  | first :: _ =>
      if !input.anchorPrior.enabled then return none
      else do
        let pose ← startPose g input first
        let noise ← g.information (permuteMatrix6x6 (diagonalInformation input.anchorPrior.informationScale))
        addFactor g (.prior (nodeIdToKey first.nodeId) pose noise)

/-- The factor of an edge; an edge to nowhere has none, and neither has one of another type. -/
def edgeFactor (edge : PoseGraphEdge R) : Except SolverException (Option (Factor g.Pose g.Noise)) :=
  match input.graphNode edge.sourceNodeId with
  | none => return none
  | some source =>
      if edge.type ≠ "prior" ∧ input.graphNode edge.targetNodeId = none then return none
      else do
        let noise ← g.information (permuteMatrix6x6 edge.informationMatrix6x6)
        let key := nodeIdToKey edge.sourceNodeId
        if edge.type = "prior" then
          let pose ← g.pose edge.relativePositionXyz edge.relativeRotationXyzw
          addFactor g (.prior key pose noise)
        else if edge.type = "odometry" ∨ edge.type = "loop_closure" ∨ edge.type = "lidar_odometry" then
          let relative ← g.pose edge.relativePositionXyz edge.relativeRotationXyzw
          addFactor g (.between key (nodeIdToKey edge.targetNodeId) relative noise)
        else if edge.type = "gps" then
          -- only the position is measured; the rotation is that of the trajectory
          let start ← startPose g input source
          let pose ← g.movedTo start edge.relativePositionXyz
          let noise ← g.information (permuteMatrix6x6 edge.informationMatrix6x6)
          addFactor g (.prior key pose noise)
        else return none

/-- The graph and its initial values. -/
def problem : Except SolverException (List (Factor g.Pose g.Noise) × g.Values) := do
  let values ← initialValues g input
  let anchor ← anchorFactor g input
  let factors ← input.graphEdges.mapM (edgeFactor g input)
  return ((anchor :: factors).filterMap id, values)

/-! ## The result

The ways to end, each with the record that the source fills for it. -/

/-- `buildProvenance`, the members of which are members of the result here, and the ids. -/
def identified (status : String) (iterations : Int64) (initialError finalError errorReduction : R) :
    OptimizationOutcome R where
  resultId := newId
  graphId := input.graph.graphId
  trajectoryId := input.trajectory.trajectoryId
  status
  iterations
  initialError
  finalError
  errorReduction
  optimizer := { name := "gtsam", version := "4.2.1" }
  configurationHash := input.computeConfigurationHash print
  adapterVersion := "0.1.0"
  gitCommit := "unknown"
  backendSpecificJson := "\x7b\"optimizer\":\"LevenbergMarquardt\",\"max_iterations\":" ++
    toString input.options.maxIterations ++ ",\"lambda_initial\":" ++
    Double.formatNumber input.options.lambdaInitial ++ ",\"lambda_factor\":" ++
    Double.formatNumber input.options.lambdaFactor ++ ",\"function_tolerance\":" ++
    Double.formatNumber input.options.functionTolerance ++ ",\"anchor_prior\":\x7b\"enabled\":" ++
    (if input.anchorPrior.enabled then "true" else "false") ++ ",\"information_scale\":" ++
    Double.formatNumber input.anchorPrior.informationScale ++ "\x7d,\"status\":\"" ++ status ++
    "\",\"iterations\":" ++ toString iterations ++ "\x7d"

/-- A node of the output at some pose. -/
def nodeAt (node : PoseGraphNode) (pose : Vector R 3 × Vector R 4)
    (covariance : Vector R 6 × Vector R 6) : CovariantOptimizedNode R where
  frameId := node.frameId
  timestampNs := node.timestampNs
  sequenceIndex := node.nodeId
  positionXyz := pose.1
  rotationXyzw := pose.2
  covariancePosition := covariance.1
  covarianceRotation := covariance.2

/-- The output of a request that leaves nothing to solve. -/
def unsolved : OptimizationOutput R where
  result := identified print newId input "failed" 0 0.0 0.0 0.0
  optimizedNodes := input.graphNodes.map fun node =>
    nodeAt node (input.initialPose node) (noCovariance, noCovariance)

/-- The output that is left when the initial error cannot be evaluated. -/
def unevaluated : OptimizationOutput R where
  result :=
    { resultId := ""
      graphId := ""
      trajectoryId := ""
      status := "failed"
      iterations := 0
      initialError := 0.0
      finalError := 0.0
      errorReduction := 0.0 }

def lmParams : LevenbergMarquardtParams R where
  maxIterations := input.options.maxIterations.toUInt64
  relativeErrorTol := input.options.functionTolerance
  absoluteErrorTol := input.options.parameterTolerance
  lambdaInitial := input.options.lambdaInitial
  lambdaFactor := input.options.lambdaFactor

/-- What the solver leaves behind: its values, the iterations it reports, and whether it has thrown. -/
structure Solution (g : GtsamCalls R) where
  values : g.Values
  iterations : Int64
  threw : Bool

/-- The first `try`: the values are assigned before the iterations are asked for. -/
def solution (graph : List (Factor g.Pose g.Noise)) (values : g.Values) : Solution g :=
  match (do
    let optimizer ← g.optimizer graph values (lmParams input)
    return (optimizer, ← g.run optimizer)) with
  | .error _ => ⟨g.noValues, 0, true⟩
  | .ok (optimizer, result) =>
      match g.iterations optimizer with
      | .error _ => ⟨result, 0, true⟩
      | .ok iterations => ⟨result, iterations.toInt64, false⟩

/-- The pose of a node for which the solver has no value. -/
def identityPose : Vector R 3 × Vector R 4 := (.triple 0.0 0.0 0.0, .quadruple 0.0 0.0 0.0 1.0)

/-- The pose of a node in the result. -/
def resultPose (values : g.Values) (node : PoseGraphNode) : Vector R 3 × Vector R 4 :=
  match (do g.parts (← g.valueAt values (nodeIdToKey node.nodeId))) with
  | .ok parts => parts
  | .error _ => identityPose

def resultCovariance (graph : List (Factor g.Pose g.Noise)) (values : g.Values) (node : PoseGraphNode) :
    Vector R 6 × Vector R 6 :=
  match (do g.covariance (← g.marginals graph values) (nodeIdToKey node.nodeId)) with
  | .ok covariance => extractCovarianceUpperTriangle covariance
  | .error _ => (noCovariance, noCovariance)

/-- The status of a solution, with its final error. -/
def solutionStatus (solution : Solution g) (initialError : R) (final : Except SolverException R) :
    String × R :=
  match final with
  | .error _ => ("failed", 0.0)
  | .ok finalError =>
      if solution.threw then ("failed", finalError)
      else if initialError * (10.0 : R) < finalError ∧ (0.0 : R) < initialError then
        ("diverged", finalError)
      else ("converged", finalError)

/-- The output of a graph with factors whose initial error is known. -/
def solved (graph : List (Factor g.Pose g.Noise)) (values : g.Values) (initialError : R) :
    OptimizationOutput R :=
  let solution := solution g input graph values
  let (status, finalError) := solutionStatus g solution initialError (g.error graph solution.values)
  { result := identified print newId input status solution.iterations initialError finalError
      (if (0.0 : R) < initialError then (initialError - finalError) / initialError else 0.0)
    optimizedNodes := input.graphNodes.map fun node =>
      nodeAt node (resultPose g solution.values node) (resultCovariance g graph solution.values node) }

/-- `optimize`. -/
def optimize : Except SolverException (OptimizationOutput R) :=
  if input.graphNodes.isEmpty || input.graphEdges.isEmpty then return unsolved print newId input
  else do
    let (graph, values) ← problem g input
    if graph.isEmpty then return unsolved print newId input
    else
      match g.error graph values with
      | .error _ => return unevaluated
      | .ok initialError => return solved g print newId input graph values initialError

end

/-! ## When the optimizer returns

The calls outside a `try` are those that set the problem up; everything after
them is caught, or returns. -/

section

variable {R : Type} [DoubleArith R] {g : GtsamCalls R} {print : R → List Char} {newId : String}
  {input : OptimizationInput R}

/-- The calls outside a `try` all return. -/
structure SetupReturns (g : GtsamCalls R) (input : OptimizationInput R) : Prop where
  values : ∃ values, initialValues g input = .ok values
  anchor : ∃ factor, anchorFactor g input = .ok factor
  edges : ∀ edge ∈ input.graphEdges, ∃ factor, edgeFactor g input edge = .ok factor

theorem problem_returns_iff : (∃ problem', problem g input = .ok problem') ↔ SetupReturns g input := by
  unfold problem
  constructor
  · rintro ⟨_, h⟩
    obtain ⟨values, hvalues, h⟩ := bind_eq_ok_iff.mp h
    obtain ⟨anchor, hanchor, h⟩ := bind_eq_ok_iff.mp h
    obtain ⟨factors, hfactors, -⟩ := bind_eq_ok_iff.mp h
    exact ⟨⟨values, hvalues⟩, ⟨anchor, hanchor⟩, exists_mapM_ok_iff.mp ⟨factors, hfactors⟩⟩
  · rintro ⟨⟨values, hvalues⟩, ⟨anchor, hanchor⟩, hedges⟩
    obtain ⟨factors, hfactors⟩ := exists_mapM_ok_iff.mpr hedges
    exact ⟨_, bind_eq_ok_iff.mpr ⟨values, hvalues,
      bind_eq_ok_iff.mpr ⟨anchor, hanchor, bind_eq_ok_iff.mpr ⟨factors, hfactors, rfl⟩⟩⟩⟩

/-- The request asks for nothing. -/
def OptimizationInput.Empty (input : OptimizationInput R) : Prop :=
  input.graphNodes = [] ∨ input.graphEdges = []

theorem optimize_of_empty (h : input.Empty) :
    optimize g print newId input = .ok (unsolved print newId input) := by
  unfold optimize
  rw [if_pos]
  · rfl
  · obtain h | h := h <;> simp [h]

/-- What the optimizer makes of a problem that it has set up. -/
theorem optimize_of_problem (h : ¬ input.Empty) {graph : List (Factor g.Pose g.Noise)}
    {values : g.Values} (hproblem : problem g input = .ok (graph, values)) :
    optimize g print newId input = .ok
      (if graph = [] then unsolved print newId input
      else match g.error graph values with
        | .error _ => unevaluated
        | .ok initialError => solved g print newId input graph values initialError) := by
  unfold optimize
  rw [if_neg, hproblem]
  · show (if graph.isEmpty then _ else _) = _
    simp only [List.isEmpty_iff]
    split
    next => rfl
    next => cases g.error graph values <;> rfl
  · simpa [OptimizationInput.Empty] using h

theorem optimize_of_throw (h : ¬ input.Empty) {e : SolverException} (hproblem : problem g input = .error e) :
    optimize g print newId input = .error e := by
  unfold optimize
  rw [if_neg, hproblem]
  · rfl
  · simpa [OptimizationInput.Empty] using h

/-- No exception escapes if there is nothing to do or if all the calls outside a `try` return. -/
theorem optimize_returns_iff :
    (∃ output, optimize g print newId input = .ok output) ↔ input.Empty ∨ SetupReturns g input := by
  rw [← problem_returns_iff]
  by_cases h : input.Empty
  · exact iff_of_true ⟨_, optimize_of_empty h⟩ (.inl h)
  cases hproblem : problem g input with
  | error e => simp [optimize_of_throw h hproblem, h]
  | ok problem' =>
    obtain ⟨graph, values⟩ := problem'
    simp [optimize_of_problem h hproblem]

/-! ## What a failure leaves

Three exits report a failure: the one without factors, the one whose first error
cannot be evaluated, and the last one. The first leaves the initial poses, the
second nothing at all, and what the third one leaves depends on the values of
the solver, whose three ways to end `solution_cases` lists. -/

/-- One entry for each node, in order, at its initial pose, and the three ids. -/
structure LeavesInitial (newId : String) (input : OptimizationInput R) (output : OptimizationOutput R) :
    Prop where
  nodes : output.optimizedNodes.map (fun node => (node.frameId, node.positionXyz, node.rotationXyzw)) =
    input.graphNodes.map fun node => (node.frameId, input.initialPose node)
  resultId : output.result.resultId = newId
  graphId : output.result.graphId = input.graph.graphId
  trajectoryId : output.result.trajectoryId = input.trajectory.trajectoryId

theorem unsolved_leavesInitial : LeavesInitial newId input (unsolved print newId input) where
  nodes := by
    rw [unsolved, List.map_map]
    rfl
  resultId := rfl
  graphId := rfl
  trajectoryId := rfl

theorem unevaluated_not_leavesInitial (h : ¬ input.Empty) : ¬ LeavesInitial newId input unevaluated := by
  intro hleaves
  have hnone : input.graphNodes.map (fun node => (node.frameId, input.initialPose node)) = [] :=
    hleaves.nodes.symm
  exact h (.inl (List.map_eq_nil_iff.mp hnone))

theorem solved_leavesInitial_iff {graph : List (Factor g.Pose g.Noise)} {values : g.Values} {e : R} :
    LeavesInitial newId input (solved g print newId input graph values e) ↔
      ∀ node ∈ input.graphNodes,
        resultPose g (solution g input graph values).values node = input.initialPose node := by
  have hnodes : (solved g print newId input graph values e).optimizedNodes.map
      (fun node => (node.frameId, node.positionXyz, node.rotationXyzw)) = input.graphNodes.map
        fun node => (node.frameId, resultPose g (solution g input graph values).values node) := by
    rw [solved, List.map_map]
    rfl
  constructor
  · intro h node hnode
    have hsame := List.map_inj_left.mp (hnodes.symm.trans h.nodes) node hnode
    exact (Prod.mk.inj hsame).2
  · intro h
    refine ⟨hnodes.trans (List.map_inj_left.mpr fun node hnode => ?_), rfl, rfl, rfl⟩
    rw [h node hnode]

/-- The solution is failed if the solver has thrown or its final error cannot be evaluated. -/
theorem solved_failed_iff {graph : List (Factor g.Pose g.Noise)} {values : g.Values} {e : R} :
    (solved g print newId input graph values e).result.status = "failed" ↔
      (solution g input graph values).threw = true ∨
        ∃ ex, g.error graph (solution g input graph values).values = .error ex := by
  show (solutionStatus g (solution g input graph values) e
    (g.error graph (solution g input graph values).values)).1 = "failed" ↔ _
  cases g.error graph (solution g input graph values).values with
  | error ex => simp [solutionStatus]
  | ok final =>
    by_cases hthrew : (solution g input graph values).threw = true
    · simp [solutionStatus, hthrew]
    · simp only [solutionStatus, hthrew, if_false, reduceCtorEq, exists_false, or_false]
      split <;> simp

/-- The solver gets as far as to return values. -/
def Returns (g : GtsamCalls R) (input : OptimizationInput R) (graph : List (Factor g.Pose g.Noise))
    (start : g.Values) (optimizer : g.Optimizer) (values : g.Values) : Prop :=
  g.optimizer graph start (lmParams input) = .ok optimizer ∧ g.run optimizer = .ok values

/-- The value of a key, taken apart. -/
def Holds (g : GtsamCalls R) (values : g.Values) (key : UInt64) (parts : Vector R 3 × Vector R 4) : Prop :=
  ∃ pose, g.valueAt values key = .ok pose ∧ g.parts pose = .ok parts

omit [DoubleArith R] in
theorem holds_iff {values : g.Values} {key : UInt64} {parts : Vector R 3 × Vector R 4} :
    Holds g values key parts ↔ (do g.parts (← g.valueAt values key)) = .ok parts :=
  bind_eq_ok_iff.symm

/-- What has to be so for a failure to leave the initial poses. A solver that
has returned values must have left each node where it was in them, and one that
they do not hold must have been at the origin. -/
structure FailureKeepsPoses (g : GtsamCalls R) (input : OptimizationInput R)
    (graph : List (Factor g.Pose g.Noise)) (start : g.Values) : Prop where
  evaluated : ∃ initialError, g.error graph start = .ok initialError
  withoutValues : (∀ optimizer values, ¬ Returns g input graph start optimizer values) →
    ∀ node ∈ input.graphNodes, input.initialPose node = identityPose
  withValues : ∀ optimizer values, Returns g input graph start optimizer values →
    ((∃ e, g.iterations optimizer = .error e) ∨ ∃ e, g.error graph values = .error e) →
      ∀ node ∈ input.graphNodes,
        (∀ parts, Holds g values (nodeIdToKey node.nodeId) parts → input.initialPose node = parts) ∧
          ((∀ parts, ¬ Holds g values (nodeIdToKey node.nodeId) parts) →
            input.initialPose node = identityPose)

/-- The pose that is reported is the one that the values hold, and otherwise the origin. -/
theorem resultPose_eq_iff {values : g.Values} {node : PoseGraphNode} {pose : Vector R 3 × Vector R 4} :
    resultPose g values node = pose ↔
      (∀ parts, Holds g values (nodeIdToKey node.nodeId) parts → pose = parts) ∧
        ((∀ parts, ¬ Holds g values (nodeIdToKey node.nodeId) parts) → pose = identityPose) := by
  unfold resultPose
  simp only [holds_iff]
  cases hread : (do g.parts (← g.valueAt values (nodeIdToKey node.nodeId))) with
  | ok parts =>
    constructor
    · rintro rfl
      exact ⟨fun _ h => Except.ok.inj h, fun h => absurd rfl (h parts)⟩
    · exact fun h => (h.1 parts rfl).symm
  | error e =>
    constructor
    · rintro rfl
      exact ⟨nofun, fun _ => rfl⟩
    · exact fun h => (h.2 nofun).symm

/-- An empty `Values` has a value for no key. -/
def EmptyValuesThrow (g : GtsamCalls R) : Prop := ∀ key, ∃ e, g.valueAt g.noValues key = .error e

theorem resultPose_noValues (hempty : EmptyValuesThrow g) (node : PoseGraphNode) :
    resultPose g g.noValues node = identityPose := by
  obtain ⟨e, he⟩ := hempty (nodeIdToKey node.nodeId)
  unfold resultPose
  rw [he]
  rfl

omit [DoubleArith R] in
/-- The three ways in which the solver can end. -/
theorem solution_cases (input : OptimizationInput R) (graph : List (Factor g.Pose g.Noise))
    (start : g.Values) :
    ((∀ optimizer values, ¬ Returns g input graph start optimizer values) ∧
        solution g input graph start = ⟨g.noValues, 0, true⟩) ∨
      ∃ optimizer values, Returns g input graph start optimizer values ∧
        (((∃ e, g.iterations optimizer = .error e) ∧
            solution g input graph start = ⟨values, 0, true⟩) ∨
          ∃ iterations, g.iterations optimizer = .ok iterations ∧
            solution g input graph start = ⟨values, iterations.toInt64, false⟩) := by
  unfold solution Returns
  cases hoptimizer : g.optimizer graph start (lmParams input) with
  | error e => exact .inl ⟨by simp, rfl⟩
  | ok optimizer =>
    cases hrun : g.run optimizer with
    | error e =>
      refine .inl ⟨?_, by simp [bind, Except.bind, hrun]⟩
      rintro _ _ ⟨h, h'⟩
      cases h
      simp [hrun] at h'
    | ok values =>
      refine .inr ⟨optimizer, values, ⟨rfl, hrun⟩, ?_⟩
      cases hiterations : g.iterations optimizer with
      | error e => exact .inl ⟨⟨e, rfl⟩, by simp [bind, Except.bind, hrun, hiterations, pure, Except.pure]⟩
      | ok n => exact .inr ⟨n, rfl, by simp [bind, Except.bind, hrun, hiterations, pure, Except.pure]⟩

omit [DoubleArith R] in
theorem Returns.unique {graph : List (Factor g.Pose g.Noise)} {start : g.Values}
    {optimizer optimizer' : g.Optimizer} {values values' : g.Values}
    (h : Returns g input graph start optimizer values)
    (h' : Returns g input graph start optimizer' values') : optimizer = optimizer' ∧ values = values' := by
  obtain ⟨ho, hv⟩ := h
  obtain ⟨ho', hv'⟩ := h'
  obtain rfl := Except.ok.inj (ho.symm.trans ho')
  exact ⟨rfl, Except.ok.inj (hv.symm.trans hv')⟩

/-- A solution that is failed leaves the initial poses if they are what the lookups give. -/
theorem solved_failed_leavesInitial_iff (hempty : EmptyValuesThrow g)
    {graph : List (Factor g.Pose g.Noise)} {start : g.Values} {initialError : R}
    (herror : g.error graph start = .ok initialError) :
    ((solved g print newId input graph start initialError).result.status = "failed" →
        LeavesInitial newId input (solved g print newId input graph start initialError)) ↔
      FailureKeepsPoses g input graph start := by
  rw [solved_failed_iff, solved_leavesInitial_iff]
  obtain ⟨hnone, hsolution⟩ | ⟨optimizer, values, hreturns, hsolution⟩ :=
    solution_cases input graph start
  · simp only [hsolution, true_or, true_implies, resultPose_noValues hempty]
    constructor
    · intro h
      exact ⟨⟨_, herror⟩, fun _ node hnode => (h node hnode).symm,
        fun o v hov => absurd hov (hnone o v)⟩
    · intro h node hnode
      exact (h.withoutValues hnone node hnode).symm
  · have hreported : ((solution g input graph start).threw = true ∨
        ∃ e, g.error graph (solution g input graph start).values = .error e) ↔
          (∃ e, g.iterations optimizer = .error e) ∨ ∃ e, g.error graph values = .error e := by
      obtain ⟨hiterations, h⟩ | ⟨n, hiterations, h⟩ := hsolution
      · simp [h, hiterations]
      · simp [h, hiterations]
    have hvalues : (solution g input graph start).values = values := by
      obtain ⟨-, h⟩ | ⟨_, -, h⟩ := hsolution <;> rw [h]
    rw [hreported, hvalues]
    simp only [resultPose_eq_iff]
    constructor
    · intro h
      refine ⟨⟨_, herror⟩, fun hnone => absurd hreturns (hnone _ _), ?_⟩
      intro o v hov hfails
      obtain ⟨rfl, rfl⟩ := hreturns.unique hov
      exact h hfails
    · intro h hfails
      exact h.withValues optimizer values hreturns hfails

/-- When a failed optimization leaves the initial poses and the ids. -/
theorem optimize_failed_iff (hempty : EmptyValuesThrow g) :
    (∀ output, optimize g print newId input = .ok output → output.result.status = "failed" →
        LeavesInitial newId input output) ↔
      input.Empty ∨ ∀ graph start, problem g input = .ok (graph, start) → graph ≠ [] →
        FailureKeepsPoses g input graph start := by
  by_cases h : input.Empty
  · refine iff_of_true ?_ (.inl h)
    intro output houtput _
    obtain rfl := Except.ok.inj ((optimize_of_empty h).symm.trans houtput)
    exact unsolved_leavesInitial
  cases hproblem : problem g input with
  | error e => simp [optimize_of_throw h hproblem]
  | ok problem' =>
    obtain ⟨graph, start⟩ := problem'
    rw [optimize_of_problem h hproblem]
    by_cases hgraph : graph = []
    · -- no factors
      rw [if_pos hgraph]
      refine iff_of_true ?_ (.inr ?_)
      · intro output houtput _
        obtain rfl := Except.ok.inj houtput
        exact unsolved_leavesInitial
      · rintro _ _ ⟨rfl, rfl⟩ hfactors
        exact absurd hgraph hfactors
    rw [if_neg hgraph]
    cases herror : g.error graph start with
    | error e =>
      refine iff_of_false ?_ ?_
      · intro hall
        exact unevaluated_not_leavesInitial h (hall _ rfl rfl)
      · rintro (hempty' | hall)
        · exact h hempty'
        · obtain ⟨e0, he0⟩ := (hall graph start rfl hgraph).evaluated
          rw [herror] at he0
          cases he0
    | ok initialError =>
      constructor
      · intro hall
        refine .inr ?_
        rintro _ _ ⟨rfl, rfl⟩ _
        exact (solved_failed_leavesInitial_iff hempty herror).mp (hall _ rfl)
      · rintro (hempty' | hall) output houtput hfailed
        · exact absurd hempty' h
        · obtain rfl := Except.ok.inj houtput
          exact (solved_failed_leavesInitial_iff hempty herror).mpr (hall graph start rfl hgraph) hfailed

end

end SpatialPlatform.Adapters.Gtsam
