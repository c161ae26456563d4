import SpatialPlatform.Core.Sha256
import SpatialPlatform.Core.Trajectory.PoseGraphAssembly
import SpatialPlatform.Lib.FixedNotation
import SpatialPlatform.Lib.Coordinates

/-!
# What the pose-graph optimizer is asked

The request of `adapters/gtsam/gtsam_optimizer_adapter.h` and its
`computeConfigurationHash`: the fields are printed and hashed one after the
other, numbers with six decimals and nothing in between. So the hash tells two
requests apart if they are not printed alike, which requests with different
numbers can be, and requests with different numbers of digits in neighbouring
fields as well.

* `configurationText_eq_iff`, `graphText_eq_iff` — the text taken apart: where a
  number ends is told by its point, so only an integer before a number runs into
  it.
* `configurationHash_same_iff` — which requests the hash tells apart.
-/

namespace SpatialPlatform.Adapters.Gtsam

open SpatialPlatform.Core SpatialPlatform.Lib

/-! ## Requests -/

structure OptimizerOptions (R : Type) where
  maxIterations : Int64 := 100
  lambdaInitial : R
  lambdaFactor : R
  functionTolerance : R
  parameterTolerance : R
  gradientTolerance : R

structure AnchorPriorConfig (R : Type) where
  informationScale : R
  enabled : Bool := true

structure OptimizationInput (R : Type) where
  trajectory : Trajectory
  trajectoryNodes : List (TrajectoryPoseNode R) := []
  graph : PoseGraph := {}
  graphNodes : List PoseGraphNode := []
  graphEdges : List (PoseGraphEdge R) := []
  options : OptimizerOptions R
  anchorPrior : AnchorPriorConfig R

namespace OptimizationInput

variable {R : Type}

/-- The entry of `frame_to_traj`: of several poses of a frame, the last one. -/
def trajectoryPose (input : OptimizationInput R) (frameId : String) : Option (TrajectoryPoseNode R) :=
  input.trajectoryNodes.reverse.find? (·.frameId = frameId)

/-- Where the optimizer starts from at a node: the pose of its frame, or the identity. -/
def initialPose [OfScientific R] (input : OptimizationInput R) (node : PoseGraphNode) :
    Vector R 3 × Vector R 4 :=
  match input.trajectoryPose node.frameId with
  | some pose => (pose.positionXyz, pose.rotationXyzw)
  | none => (#v[0.0, 0.0, 0.0], #v[0.0, 0.0, 0.0, 1.0])

def sortedEdges (input : OptimizationInput R) : List (PoseGraphEdge R) :=
  input.graphEdges.insertionSort (·.edgeId ≤ ·.edgeId)

def sortedNodes (input : OptimizationInput R) : List PoseGraphNode :=
  input.graphNodes.insertionSort (·.nodeId ≤ ·.nodeId)

/-! ## The configuration hash -/

section

variable (print : R → List Char)

def numbersText (numbers : List R) : List Char := (numbers.map print).flatten

/-- The numbers of an edge, in the order in which they are hashed. -/
def edgeNumbers (edge : PoseGraphEdge R) : List R :=
  edge.relativePositionXyz.toList ++ edge.relativeRotationXyzw.toList ++
    edge.informationMatrix6x6.toList

def edgeText (edge : PoseGraphEdge R) : List Char :=
  edge.type.toList ++ integerText edge.sourceNodeId.toInt ++ integerText edge.targetNodeId.toInt ++
    numbersText print (edgeNumbers edge)

/-- A node, with the first pose of its frame. -/
def nodeText (input : OptimizationInput R) (node : PoseGraphNode) : List Char :=
  integerText node.nodeId.toInt ++
    match input.trajectoryNodes.find? (·.frameId = node.frameId) with
    | some pose => numbersText print (pose.positionXyz.toList ++ pose.rotationXyzw.toList)
    | none => []

def edgesText (input : OptimizationInput R) : List Char :=
  (input.sortedEdges.map (edgeText print)).flatten

def nodesText (input : OptimizationInput R) : List Char :=
  (input.sortedNodes.map (input.nodeText print)).flatten

/-- All that is passed to the hasher. -/
def configurationText (input : OptimizationInput R) : List Char :=
  integerText input.options.maxIterations.toInt ++ print input.options.functionTolerance ++
    print input.options.parameterTolerance ++ print input.options.gradientTolerance ++
    print input.options.lambdaInitial ++ print input.options.lambdaFactor ++
    print input.anchorPrior.informationScale ++ (if input.anchorPrior.enabled then ['1'] else ['0']) ++
    input.edgesText print ++ input.nodesText print

def hashedBytes (input : OptimizationInput R) : List UInt8 :=
  stringBytes (String.ofList (input.configurationText print))

/-- `hasher.Final()`, after all updates. -/
def digest (input : OptimizationInput R) : List UInt8 := (Sha256.update {} (input.hashedBytes print)).final

/-- `computeConfigurationHash`: `Sha256Hex` hashes the digest again. -/
def computeConfigurationHash (input : OptimizationInput R) : String := sha256Hex (input.digest print)

end

/-! ## What the hash should tell

What makes two requests the same for the solver, and what makes their texts the
same. -/

/-- What an edge asks of the solver. -/
def constraint (edge : PoseGraphEdge R) :
    String × Int64 × Int64 × Vector R 3 × Vector R 4 × Vector R 36 :=
  (edge.type, edge.sourceNodeId, edge.targetNodeId, edge.relativePositionXyz,
    edge.relativeRotationXyzw, edge.informationMatrix6x6)

/-- Two requests that are the same for the solver. -/
structure SameRequest [OfScientific R] (a b : OptimizationInput R) : Prop where
  options : a.options = b.options
  anchorPrior : a.anchorPrior = b.anchorPrior
  edges : a.sortedEdges.map constraint = b.sortedEdges.map constraint
  nodes : a.sortedNodes.map (fun node => (node.nodeId, a.initialPose node)) =
    b.sortedNodes.map fun node => (node.nodeId, b.initialPose node)

def graphText (print : R → List Char) (input : OptimizationInput R) : List Char :=
  input.edgesText print ++ input.nodesText print

/-- Two requests that leave the same text, field by field. -/
structure PrintedAlike (print : R → List Char) (a b : OptimizationInput R) : Prop where
  iterations : integerText a.options.maxIterations.toInt ++ print a.options.functionTolerance =
    integerText b.options.maxIterations.toInt ++ print b.options.functionTolerance
  parameterTolerance : print a.options.parameterTolerance = print b.options.parameterTolerance
  gradientTolerance : print a.options.gradientTolerance = print b.options.gradientTolerance
  lambdaInitial : print a.options.lambdaInitial = print b.options.lambdaInitial
  lambdaFactor : print a.options.lambdaFactor = print b.options.lambdaFactor
  informationScale : print a.anchorPrior.informationScale = print b.anchorPrior.informationScale
  enabled : a.anchorPrior.enabled = b.anchorPrior.enabled
  graph : a.graphText print = b.graphText print

variable {print : R → List Char} {a b : OptimizationInput R}

/-- The texts of two requests agree if their fields do; only the limit of the
iterations has no end of its own. -/
theorem configurationText_eq_iff (hprint : ∀ v, IsRun (print v)) :
    a.configurationText print = b.configurationText print ↔ PrintedAlike print a b := by
  have hnumber : ∀ v w s t, print v ++ s = print w ++ t ↔ print v = print w ∧ s = t :=
    fun v w _ _ => prefixFree_isRun.append_eq_append_iff (hprint v) (hprint w)
  have hlimit : ∀ m n v w s t, integerText m ++ print v ++ s = integerText n ++ print w ++ t ↔
      integerText m ++ print v = integerText n ++ print w ∧ s = t := by
    intro m n v w s t
    exact prefixFree_isRun.append_eq_append_iff
      ((hprint v).append fun _ => isSignOrDigit_of_mem_integerText)
      ((hprint w).append fun _ => isSignOrDigit_of_mem_integerText)
  have hflag : ∀ (x y : Bool) (s t : List Char),
      (if x then ['1'] else ['0']) ++ s = (if y then ['1'] else ['0']) ++ t ↔ x = y ∧ s = t := by
    intro x y s t
    cases x <;> cases y <;> simp
  unfold configurationText
  constructor
  · intro h
    simp only [List.append_assoc] at h
    rw [← List.append_assoc, ← List.append_assoc (integerText b.options.maxIterations.toInt), hlimit,
      hnumber, hnumber, hnumber, hnumber, hnumber, hflag] at h
    obtain ⟨h1, h2, h3, h4, h5, h6, h7, h8⟩ := h
    exact ⟨h1, h2, h3, h4, h5, h6, h7, h8⟩
  · intro h
    rw [List.append_assoc _ (a.edgesText print), List.append_assoc _ (b.edgesText print), h.iterations,
      h.parameterTolerance, h.gradientTolerance, h.lambdaInitial, h.lambdaFactor, h.informationScale,
      h.enabled, ← graphText, h.graph, graphText]

/-! ## Graphs that are printed alike

The texts of numbers stand next to each other without a separator, so a text is
cut where a number must end: behind its sixth decimal, or behind the word for a
number that is not finite. The inductions over edges and nodes carry along what
has been written since the last cut. -/

/-- The types that `core/trajectory/pose_graph.h` gives an edge. -/
def edgeTypes : List String :=
  ["odometry", "loop_closure", "prior", "gps", "imu_preintegration", "lidar_odometry"]

/-- The end points of an edge run into its first coordinate. -/
def edgeRun (print : R → List Char) (edge : PoseGraphEdge R) : List Char :=
  integerText edge.sourceNodeId.toInt ++ integerText edge.targetNodeId.toInt ++
    print (edge.relativePositionXyz 0)

/-- Two edges that leave the same text: their types agree, the run of their end
points and their first coordinate, and each other number. -/
structure EdgePrintedAlike (print : R → List Char) (e e' : PoseGraphEdge R) : Prop where
  type : e.type = e'.type
  run : edgeRun print e = edgeRun print e'
  rest : (edgeNumbers e).tail.map print = (edgeNumbers e').tail.map print

theorem length_edgeNumbers (edge : PoseGraphEdge R) : (edgeNumbers edge).length = 43 := by
  simp [edgeNumbers]

theorem edgeNumbers_eq_cons (edge : PoseGraphEdge R) :
    edgeNumbers edge = edge.relativePositionXyz 0 :: (edgeNumbers edge).tail := by
  have hfirst : (edgeNumbers edge)[0]? = some (edge.relativePositionXyz 0) := by simp [edgeNumbers]
  cases hnumbers : edgeNumbers edge with
  | nil => simp [hnumbers] at hfirst
  | cons x xs =>
    rw [hnumbers] at hfirst
    rw [← Option.some.inj hfirst]
    rfl

/-- No type begins another one. -/
theorem prefixFree_edgeTypes : PrefixFree fun text => ∃ type ∈ edgeTypes, text = type.toList := by
  have hpairs : ∀ type ∈ edgeTypes, ∀ type' ∈ edgeTypes, type.toList <+: type'.toList →
      type.toList = type'.toList := by decide
  rintro _ _ ⟨type, htype, rfl⟩ ⟨type', htype', rfl⟩ hprefix
  exact hpairs type htype type' htype' hprefix

/-- A type begins with a letter. -/
theorem exists_cons_of_mem_edgeTypes {type : String} (h : type ∈ edgeTypes) :
    ∃ c rest, type.toList = c :: rest ∧ isSignOrDigit c = false := by
  have hletter : ∀ type ∈ edgeTypes, type.toList.head?.any (!isSignOrDigit ·) = true := by decide
  have hhead := hletter type h
  cases htext : type.toList with
  | nil => simp [htext] at hhead
  | cons c rest => exact ⟨c, rest, rfl, by simpa [htext] using hhead⟩

/-- What `edgeText` writes after the type: the run, and the other numbers. -/
theorem edgeText_eq (print : R → List Char) (edge : PoseGraphEdge R) :
    edgeText print edge = edge.type.toList ++
      (edgeRun print edge ++ ((edgeNumbers edge).tail.map print).flatten) := by
  rw [edgeText, edgeRun, numbersText, edgeNumbers_eq_cons, List.map_cons, List.flatten_cons, List.tail_cons]
  simp only [List.append_assoc]

theorem isRun_edge (hprint : ∀ v, IsRun (print v)) (edge : PoseGraphEdge R) :
    IsRun (edgeRun print edge) := by
  unfold edgeRun
  refine (hprint _).append fun c hc => ?_
  obtain hc | hc := List.mem_append.mp hc
  · exact isSignOrDigit_of_mem_integerText hc
  · exact isSignOrDigit_of_mem_integerText hc

/-- The text of an edge, and how it goes on, tell its type and its numbers. -/
theorem edgeText_append_inj (hprint : ∀ v, IsRun (print v)) {e e' : PoseGraphEdge R}
    (he : e.type ∈ edgeTypes) (he' : e'.type ∈ edgeTypes) {s t : List Char}
    (h : edgeText print e ++ s = edgeText print e' ++ t) : EdgePrintedAlike print e e' ∧ s = t := by
  rw [edgeText_eq, edgeText_eq, List.append_assoc e.type.toList, List.append_assoc e'.type.toList] at h
  obtain ⟨htype, h⟩ := prefixFree_edgeTypes.append_inj ⟨_, he, rfl⟩ ⟨_, he', rfl⟩ h
  rw [List.append_assoc, List.append_assoc _ _ t] at h
  obtain ⟨hrun, h⟩ := prefixFree_isRun.append_inj (isRun_edge hprint e) (isRun_edge hprint e') h
  have hruns : ∀ edge : PoseGraphEdge R, ∀ text ∈ (edgeNumbers edge).tail.map print, IsRun text := by
    intro edge text htext
    obtain ⟨v, -, rfl⟩ := List.mem_map.mp htext
    exact hprint v
  obtain ⟨hrest, hend⟩ := prefixFree_isRun.flatten_inj (hruns e) (hruns e')
    (by simp [length_edgeNumbers]) h
  exact ⟨⟨String.toList_inj.mp htype, hrun, hrest⟩, hend⟩

theorem edgeText_eq_edgeText {e e' : PoseGraphEdge R} (h : EdgePrintedAlike print e e') :
    edgeText print e = edgeText print e' := by
  rw [edgeText_eq, edgeText_eq, h.type, h.run, h.rest]

theorem prefixFree_edgeText (hprint : ∀ v, IsRun (print v)) :
    PrefixFree fun text => ∃ e : PoseGraphEdge R, e.type ∈ edgeTypes ∧ text = edgeText print e := by
  rintro _ _ ⟨e, he, rfl⟩ ⟨e', he', rfl⟩ ⟨rest, hrest⟩
  have heq : edgeText print e ++ rest = edgeText print e' ++ [] := by rw [hrest, List.append_nil]
  exact edgeText_eq_edgeText (edgeText_append_inj hprint he he' heq).1

theorem forall₂_edgePrintedAlike_iff (hprint : ∀ v, IsRun (print v)) {xs ys : List (PoseGraphEdge R)}
    (hxs : ∀ e ∈ xs, e.type ∈ edgeTypes) (hys : ∀ e ∈ ys, e.type ∈ edgeTypes) :
    xs.map (edgeText print) = ys.map (edgeText print) ↔ List.Forall₂ (EdgePrintedAlike print) xs ys := by
  induction xs generalizing ys with
  | nil =>
    rw [List.forall₂_nil_left_iff, List.map_nil, eq_comm, List.map_eq_nil_iff]
  | cons x xs ih =>
    obtain _ | ⟨y, ys⟩ := ys
    · simp
    rw [List.forall_mem_cons] at hxs hys
    rw [List.map_cons, List.map_cons, List.cons.injEq, List.forall₂_cons, ih hxs.2 hys.2]
    refine and_congr_left fun _ => ⟨fun h => ?_, edgeText_eq_edgeText⟩
    exact (edgeText_append_inj hprint hxs.1 hys.1 (congrArg (· ++ []) h)).1

/-- The texts of the nodes, cut where a number ends: the ids of the nodes whose
frame has no pose run into the id and the first coordinate of the next node that
has one. Behind the last pose there are only ids. -/
def nodeRuns (print : R → List Char) (input : OptimizationInput R) :
    List PoseGraphNode → List Char → List (List Char) × List Char
  | [], ids => ([], ids)
  | node :: nodes, ids =>
      match input.trajectoryNodes.find? (·.frameId = node.frameId) with
      | none => nodeRuns print input nodes (ids ++ integerText node.nodeId.toInt)
      | some pose =>
          let numbers := pose.positionXyz.toList ++ pose.rotationXyzw.toList
          let (runs, rest) := nodeRuns print input nodes []
          ((ids ++ integerText node.nodeId.toInt ++ print (pose.positionXyz 0)) ::
            numbers.tail.map print ++ runs, rest)

theorem poseNumbers_eq_cons (pose : TrajectoryPoseNode R) :
    pose.positionXyz.toList ++ pose.rotationXyzw.toList =
      pose.positionXyz 0 :: (pose.positionXyz.toList ++ pose.rotationXyzw.toList).tail := by
  have hfirst : (pose.positionXyz.toList ++ pose.rotationXyzw.toList)[0]? =
      some (pose.positionXyz 0) := by simp
  cases hnumbers : pose.positionXyz.toList ++ pose.rotationXyzw.toList with
  | nil => simp [hnumbers] at hfirst
  | cons x xs =>
    rw [hnumbers] at hfirst
    rw [← Option.some.inj hfirst]
    rfl

/-- Cutting changes nothing of the text: induction on the nodes, with the ids carried along. -/
theorem flatten_nodeRuns (print : R → List Char) (input : OptimizationInput R)
    (nodes : List PoseGraphNode) (ids : List Char) :
    (input.nodeRuns print nodes ids).1.flatten ++ (input.nodeRuns print nodes ids).2 =
      ids ++ (nodes.map (input.nodeText print)).flatten := by
  induction nodes generalizing ids with
  | nil => simp [nodeRuns]
  | cons node nodes ih =>
    rw [nodeRuns, List.map_cons, List.flatten_cons, nodeText]
    cases input.trajectoryNodes.find? (·.frameId = node.frameId) with
    | none =>
      simp only [ih, List.append_assoc, List.nil_append]
    | some pose =>
      have hrest := ih []
      rw [List.nil_append] at hrest
      have hnumbers : numbersText print (pose.positionXyz.toList ++ pose.rotationXyzw.toList) =
          print (pose.positionXyz 0) ++
            ((pose.positionXyz.toList ++ pose.rotationXyzw.toList).tail.map print).flatten := by
        rw [numbersText, poseNumbers_eq_cons, List.map_cons, List.flatten_cons, List.tail_cons]
      simp only [List.cons_append, List.flatten_cons, List.flatten_append, List.append_assoc, hrest,
        hnumbers]

/-- Each of the cut texts ends as a number does, and the last one has signs and digits only. -/
theorem isRun_nodeRuns (hprint : ∀ v, IsRun (print v)) (nodes : List PoseGraphNode) {ids : List Char}
    (hids : ∀ c ∈ ids, isSignOrDigit c = true) :
    (∀ text ∈ (a.nodeRuns print nodes ids).1, IsRun text) ∧
      ∀ c ∈ (a.nodeRuns print nodes ids).2, isSignOrDigit c = true := by
  induction nodes generalizing ids with
  | nil => exact ⟨fun _ h => absurd h List.not_mem_nil, hids⟩
  | cons node nodes ih =>
    have hmore : ∀ c ∈ ids ++ integerText node.nodeId.toInt, isSignOrDigit c = true := by
      rw [List.forall_mem_append]
      exact ⟨hids, fun _ => isSignOrDigit_of_mem_integerText⟩
    rw [nodeRuns]
    cases a.trajectoryNodes.find? (·.frameId = node.frameId) with
    | none => exact ih hmore
    | some pose =>
      obtain ⟨hruns, hrest⟩ := @ih [] (by simp)
      refine ⟨?_, hrest⟩
      rw [List.forall_mem_append, List.forall_mem_cons]
      refine ⟨⟨(hprint _).append hmore, fun text htext => ?_⟩, hruns⟩
      obtain ⟨v, -, rfl⟩ := List.mem_map.mp htext
      exact hprint v

/-- No number is over before its point or its word. -/
theorem IsRun.not_prefix {text rest : List Char} (h : IsRun text)
    (hrest : ∀ c ∈ rest, isSignOrDigit c = true) : ¬ text <+: rest := by
  obtain ⟨head, tail, rfl, -, htail⟩ := h
  obtain ⟨c, more, rfl, hc⟩ := htail.exists_cons
  intro hstart
  rw [hrest c (hstart.subset (by simp))] at hc
  cases hc

theorem nodesText_eq_iff (hprint : ∀ v, IsRun (print v)) :
    a.nodesText print = b.nodesText print ↔
      a.nodeRuns print a.sortedNodes [] = b.nodeRuns print b.sortedNodes [] := by
  have htext : ∀ c : OptimizationInput R, c.nodesText print =
      (c.nodeRuns print c.sortedNodes []).1.flatten ++ (c.nodeRuns print c.sortedNodes []).2 :=
    fun c => (flatten_nodeRuns print c c.sortedNodes []).symm
  rw [htext, htext]
  constructor
  · intro h
    obtain ⟨hruns, hrest⟩ := @isRun_nodeRuns _ print a hprint a.sortedNodes [] (by simp)
    obtain ⟨hruns', hrest'⟩ := @isRun_nodeRuns _ print b hprint b.sortedNodes [] (by simp)
    obtain ⟨hsame, hend⟩ := prefixFree_isRun.flatten_append_inj hruns hruns'
      (fun _ hx => IsRun.not_prefix hx hrest) (fun _ hx => IsRun.not_prefix hx hrest') h
    exact Prod.ext hsame hend
  · intro h
    rw [h]

/-- The list of the nodes begins with a number, or is empty. -/
theorem nodesText_cons {c : Char} {rest : List Char} (h : a.nodesText print = c :: rest) :
    isSignOrDigit c = true := by
  unfold nodesText at h
  cases hnodes : a.sortedNodes with
  | nil => simp [hnodes] at h
  | cons node nodes =>
    rw [hnodes, List.map_cons, List.flatten_cons, nodeText] at h
    cases hid : integerText node.nodeId.toInt with
    | nil => exact absurd hid (integerText_ne_nil _)
    | cons d more =>
      rw [hid] at h
      obtain ⟨rfl, -⟩ := List.cons.inj h
      exact isSignOrDigit_of_mem_integerText (hid ▸ List.mem_cons_self)

/-- The text of a graph whose edges have known types tells the edges and the
nodes, up to what the runs leave open. -/
theorem graphText_eq_iff (hprint : ∀ v, IsRun (print v)) (ha : ∀ e ∈ a.graphEdges, e.type ∈ edgeTypes)
    (hb : ∀ e ∈ b.graphEdges, e.type ∈ edgeTypes) :
    a.graphText print = b.graphText print ↔
      List.Forall₂ (EdgePrintedAlike print) a.sortedEdges b.sortedEdges ∧
        a.nodeRuns print a.sortedNodes [] = b.nodeRuns print b.sortedNodes [] := by
  have hsorted : ∀ {c : OptimizationInput R}, (∀ e ∈ c.graphEdges, e.type ∈ edgeTypes) →
      ∀ e ∈ c.sortedEdges, e.type ∈ edgeTypes :=
    fun h e he => h e ((List.mem_insertionSort _).mp he)
  have htexts : ∀ {c : OptimizationInput R}, (∀ e ∈ c.graphEdges, e.type ∈ edgeTypes) →
      ∀ text ∈ c.sortedEdges.map (edgeText print), ∃ e : PoseGraphEdge R, e.type ∈ edgeTypes ∧
        text = edgeText print e := by
    intro c h text htext
    obtain ⟨e, he, rfl⟩ := List.mem_map.mp htext
    exact ⟨e, hsorted h e he, rfl⟩
  -- after the edges there is no letter
  have hstop : ∀ (c : OptimizationInput R) (text : List Char),
      (∃ e : PoseGraphEdge R, e.type ∈ edgeTypes ∧ text = edgeText print e) →
        ¬ text <+: c.nodesText print := by
    rintro c _ ⟨e, he, rfl⟩ ⟨rest, hrest⟩
    obtain ⟨letter, more, htype, hletter⟩ := exists_cons_of_mem_edgeTypes he
    rw [edgeText_eq, htype] at hrest
    have hnumber := nodesText_cons hrest.symm
    rw [hletter] at hnumber
    cases hnumber
  rw [← forall₂_edgePrintedAlike_iff hprint (hsorted ha) (hsorted hb), ← nodesText_eq_iff hprint]
  constructor
  · exact (prefixFree_edgeText hprint).flatten_append_inj (htexts ha) (htexts hb) (hstop a) (hstop b)
  · rintro ⟨hedges, hnodes⟩
    rw [graphText, graphText, edgesText, edgesText, hedges, hnodes]

/-! ## What the hash tells

Two requests with one hash have one text, unless SHA-256 collides; and two texts
are equal exactly if nothing that is printed apart differs. What the text leaves
open is then listed by what the two requests may still differ in. -/

/-- The numbers that have the text to themselves. -/
def separateNumbers (input : OptimizationInput R) : List R :=
  [input.options.parameterTolerance, input.options.gradientTolerance, input.options.lambdaInitial,
    input.options.lambdaFactor, input.anchorPrior.informationScale]

/-- Two requests that differ in something that is printed apart. -/
inductive PrintedApart (a b : OptimizationInput Float) : Prop where
  /-- The digits of the limit run into the tolerance behind it. -/
  | iterations (h : integerText a.options.maxIterations.toInt ++ fixedText a.options.functionTolerance ≠
      integerText b.options.maxIterations.toInt ++ fixedText b.options.functionTolerance)
  | number (h : a.separateNumbers.map sixDecimals ≠ b.separateNumbers.map sixDecimals)
  | enabled (h : a.anchorPrior.enabled ≠ b.anchorPrior.enabled)
  | graph (h : a.graphText fixedText ≠ b.graphText fixedText)

/-- Two graphs that differ in something that is printed apart, when the types of their edges are known. -/
inductive GraphsApart (a b : OptimizationInput Float) : Prop where
  | edgeCount (h : a.graphEdges.length ≠ b.graphEdges.length)
  | edge {i : Nat} {e e' : PoseGraphEdge Float} (he : a.sortedEdges[i]? = some e)
      (he' : b.sortedEdges[i]? = some e')
      (h : e.type ≠ e'.type ∨ edgeRun fixedText e ≠ edgeRun fixedText e' ∨
        (edgeNumbers e).tail.map sixDecimals ≠ (edgeNumbers e').tail.map sixDecimals)
  | nodes (h : a.nodeRuns fixedText a.sortedNodes [] ≠ b.nodeRuns fixedText b.sortedNodes [])

theorem map_fixedText_eq_iff {xs ys : List Float} :
    xs.map fixedText = ys.map fixedText ↔ xs.map sixDecimals = ys.map sixDecimals := by
  have htexts : ∀ zs : List Float, zs.map fixedText = (zs.map sixDecimals).map SixDecimals.text := by
    intro zs
    rw [List.map_map]
    exact List.map_congr_left fun v _ => fixedText_eq_text v
  rw [htexts, htexts]
  exact (List.map_injective_iff.mpr text_injective).eq_iff

section

variable {a b : OptimizationInput Float}

theorem printedApart_iff : PrintedApart a b ↔ ¬ PrintedAlike fixedText a b := by
  have hnumbers : a.separateNumbers.map sixDecimals = b.separateNumbers.map sixDecimals ↔
      a.separateNumbers.map fixedText = b.separateNumbers.map fixedText := map_fixedText_eq_iff.symm
  constructor
  · rintro (h | h | h | h) halike
    · exact h halike.iterations
    · refine h (hnumbers.mpr ?_)
      simp [separateNumbers, halike.parameterTolerance, halike.gradientTolerance, halike.lambdaInitial,
        halike.lambdaFactor, halike.informationScale]
    · exact h halike.enabled
    · exact h halike.graph
  · intro h
    by_contra hnot
    have hsame := hnumbers.mp (not_not.mp fun hne => hnot (.number hne))
    simp only [separateNumbers, List.map_cons, List.map_nil, List.cons.injEq, and_true] at hsame
    obtain ⟨h1, h2, h3, h4, h5⟩ := hsame
    exact h ⟨not_not.mp fun hne => hnot (.iterations hne), h1, h2, h3, h4, h5,
      not_not.mp fun hne => hnot (.enabled hne), not_not.mp fun hne => hnot (.graph hne)⟩

theorem graphsApart_iff (ha : ∀ e ∈ a.graphEdges, e.type ∈ edgeTypes)
    (hb : ∀ e ∈ b.graphEdges, e.type ∈ edgeTypes) :
    a.graphText fixedText ≠ b.graphText fixedText ↔ GraphsApart a b := by
  have hlength : ∀ c : OptimizationInput Float, c.sortedEdges.length = c.graphEdges.length :=
    fun c => List.length_insertionSort _ _
  rw [Ne, graphText_eq_iff isRun_fixedText ha hb, List.forall₂_iff_get]
  constructor
  · intro h
    by_contra hnot
    refine h ⟨⟨?_, fun i hi hi' => ⟨?_, ?_, ?_⟩⟩, not_not.mp fun hne => hnot (.nodes hne)⟩
    · rw [hlength, hlength]
      exact not_not.mp fun hne => hnot (.edgeCount hne)
    all_goals
      have he : a.sortedEdges[i]? = some (a.sortedEdges.get ⟨i, hi⟩) := List.getElem?_eq_getElem hi
      have he' : b.sortedEdges[i]? = some (b.sortedEdges.get ⟨i, hi'⟩) := List.getElem?_eq_getElem hi'
    · exact not_not.mp fun hne => hnot (.edge he he' (.inl hne))
    · exact not_not.mp fun hne => hnot (.edge he he' (.inr (.inl hne)))
    · exact map_fixedText_eq_iff.mpr (not_not.mp fun hne => hnot (.edge he he' (.inr (.inr hne))))
  · rintro (h | @⟨i, e, e', he, he', h⟩ | h) ⟨⟨hcount, hedges⟩, hnodes⟩
    · rw [hlength, hlength] at hcount
      exact h hcount
    · obtain ⟨hi, rfl⟩ := List.getElem?_eq_some_iff.mp he
      obtain ⟨hi', rfl⟩ := List.getElem?_eq_some_iff.mp he'
      obtain ⟨htype, hrun, hrest⟩ := hedges i hi hi'
      rcases h with h | h | h
      · exact h htype
      · exact h hrun
      · exact h (map_fixedText_eq_iff.mp hrest)
    · exact h hnodes

theorem hashedBytes_inj (h : a.hashedBytes fixedText = b.hashedBytes fixedText) :
    a.configurationText fixedText = b.configurationText fixedText := by
  have hbytes : (String.ofList (a.configurationText fixedText)).toUTF8 =
      (String.ofList (b.configurationText fixedText)).toUTF8 := ByteArray.ext (Array.toList_inj.mp h)
  rw [String.toUTF8_eq_toByteArray, String.toUTF8_eq_toByteArray, String.toByteArray_inj] at hbytes
  exact String.ofList_injective hbytes

end

/-- **What the hash tells.** Without a collision of SHA-256, neither between the
two texts nor between their digests, the configuration hash keeps a request
apart from every request that is not the same exactly if they differ in
something that is printed apart; and what that is in the text of a graph whose
edges have known types. -/
theorem configurationHash_same_iff (a b : OptimizationInput Float)
    (htexts : sha256Hex (a.hashedBytes fixedText) = sha256Hex (b.hashedBytes fixedText) →
      a.hashedBytes fixedText = b.hashedBytes fixedText)
    (hdigests : sha256Hex (a.digest fixedText) = sha256Hex (b.digest fixedText) →
      a.digest fixedText = b.digest fixedText) :
    ((a.computeConfigurationHash fixedText = b.computeConfigurationHash fixedText → SameRequest a b) ↔
        SameRequest a b ∨ PrintedApart a b) ∧
      ((∀ e ∈ a.graphEdges, e.type ∈ edgeTypes) → (∀ e ∈ b.graphEdges, e.type ∈ edgeTypes) →
        (a.graphText fixedText ≠ b.graphText fixedText ↔ GraphsApart a b)) := by
  refine ⟨?_, graphsApart_iff⟩
  -- without a collision of the two hashes, equal hashes are equal texts
  have hhash : a.computeConfigurationHash fixedText = b.computeConfigurationHash fixedText ↔
      PrintedAlike fixedText a b := by
    rw [← configurationText_eq_iff isRun_fixedText]
    constructor
    · intro h
      have hdigest := hdigests h
      exact hashedBytes_inj (htexts (by rw [sha256Hex, sha256Hex, ← digest, hdigest, digest]))
    · intro h
      rw [computeConfigurationHash, computeConfigurationHash, digest, digest, hashedBytes, hashedBytes, h]
  rw [hhash, printedApart_iff]
  exact imp_iff_or_not

/-- A request with the defaults of the adapter and another tolerance of the error. -/
def requestWith (functionTolerance : Float) : OptimizationInput Float where
  trajectory := { trajectoryId := "trajectory", sceneId := "scene" }
  options :=
    { lambdaInitial := 1e-4
      lambdaFactor := 10.0
      functionTolerance
      parameterTolerance := 1e-10
      gradientTolerance := 1e-10 }
  anchorPrior := { informationScale := 1e6 }

/-- 1e-10. -/
def defaultTolerance : Float := Float.ofBits 0x3DDB7CDFD9D7BDBB

/-- 2e-10. -/
def doubledTolerance : Float := Float.ofBits 0x3DEB7CDFD9D7BDBB

theorem fixedText_tolerances : fixedText defaultTolerance = fixedText doubledTolerance := by
  decide +kernel

theorem hashedBytes_requestWith {t t' : Float} (h : fixedText t = fixedText t') :
    (requestWith t).hashedBytes fixedText = (requestWith t').hashedBytes fixedText := by
  simp only [hashedBytes, configurationText, requestWith, h]
  rfl

theorem not_sameRequest_tolerances :
    ¬ SameRequest (requestWith defaultTolerance) (requestWith doubledTolerance) := by
  intro h
  have htolerance : defaultTolerance = doubledTolerance :=
    congrArg OptimizerOptions.functionTolerance h.options
  have hbits : ¬ defaultTolerance.toBits = doubledTolerance.toBits := by decide +kernel
  exact hbits (congrArg Float.toBits htolerance)

/-- Two requests that the hash confuses have nothing that is printed apart. -/
theorem configurationHash_same_iff_tolerances :
    ¬ PrintedApart (requestWith defaultTolerance) (requestWith doubledTolerance) := by
  have hbytes : (requestWith defaultTolerance).hashedBytes fixedText =
      (requestWith doubledTolerance).hashedBytes fixedText :=
    hashedBytes_requestWith fixedText_tolerances
  have hdigest : (requestWith defaultTolerance).digest fixedText =
      (requestWith doubledTolerance).digest fixedText := by
    rw [digest, digest, hbytes]
  obtain ⟨htells, -⟩ := configurationHash_same_iff _ _ (fun _ => hbytes) fun _ => hdigest
  intro hapart
  refine not_sameRequest_tolerances (htells.mpr (.inr hapart) ?_)
  rw [computeConfigurationHash, computeConfigurationHash, hdigest]

/-- The default tolerance and its double are both printed as zero. -/
theorem configurationHash_tolerances :
    (requestWith defaultTolerance).computeConfigurationHash fixedText =
        (requestWith doubledTolerance).computeConfigurationHash fixedText ∧
      ¬ SameRequest (requestWith defaultTolerance) (requestWith doubledTolerance) := by
  refine ⟨?_, not_sameRequest_tolerances⟩
  rw [computeConfigurationHash, computeConfigurationHash, digest, digest,
    hashedBytes_requestWith fixedText_tolerances]

end OptimizationInput

end SpatialPlatform.Adapters.Gtsam
