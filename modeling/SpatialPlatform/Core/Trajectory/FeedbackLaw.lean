import SpatialPlatform.Core.Geometry.ExactRotations
import SpatialPlatform.Core.Geometry.RigidGroup
import SpatialPlatform.Core.Trajectory.PoseGraphHelpers
import SpatialPlatform.Core.Trajectory.ReconstructionFeedback
import SpatialPlatform.Lib.Replace
import SpatialPlatform.Lib.Coordinates

/-!
# What the feedback changes

`ApplyOptimizedTrajectory` of `core/trajectory/reconstruction_feedback.h` with
the composition of poses that it makes. Of the document it changes the poses of
detected images that have a node, and nothing else but identity, status, time
and provenance.

* `applyOptimizedTrajectory_law` — what comes out, for nodes of different frames
  in any order.
-/

namespace SpatialPlatform.Core.ReconstructionFeedback

open SpatialPlatform.Core SpatialPlatform.Core.Geometry SpatialPlatform.Lib

/-- `MakeReconPose`. -/
def makeReconPose {R : Type} (pose : Rigid R) : ReconPose R := ⟨pose.rotation, pose.translation⟩

/-- The transform that a pose of the document is. -/
def rigidOf {R : Type} (pose : ReconPose R) : Rigid R := ⟨pose.rotationXyzw, pose.translationXyz⟩

/-- `T_rc`: the pose of a node, seen from the reconstruction. -/
def composedPose {R : Type} [DoubleArith R] (reconstructionFromTrajectory : Rigid R)
    (positionXyz : Vector R 3) (rotationXyzw : Quat R) : ReconPose R :=
  makeReconPose (reconstructionFromTrajectory.mul (makeCameraPose positionXyz rotationXyzw))

/-! ## The node of a frame -/

section

variable {R : Type} {nodes nodes' : List (OptimizedPoseNode R)}

theorem nodup_sortedNodes (h : (nodes.map OptimizedPoseNode.frameId).Nodup) :
    (((nodes.filter (·.frameId ≠ "")).insertionSort fun a b => a.frameId ≤ b.frameId).map
      OptimizedPoseNode.frameId).Nodup :=
  ((List.perm_insertionSort _ _).map _).nodup_iff.mpr (h.sublist (List.filter_sublist.map _))

/-- Of nodes of different frames, the one that is found is the one of the frame. -/
theorem nodeOfFrame_eq_some (h : (nodes.map OptimizedPoseNode.frameId).Nodup) {frameId : String}
    (hframe : frameId ≠ "") {node : OptimizedPoseNode R} :
    nodeOfFrame nodes frameId = some node ↔ node ∈ nodes ∧ node.frameId = frameId := by
  unfold nodeOfFrame
  rw [find?_key_iff OptimizedPoseNode.frameId (nodup_sortedNodes h),
    (List.perm_insertionSort _ _).mem_iff, List.mem_filter, decide_eq_true_eq]
  constructor
  · rintro ⟨⟨hmem, -⟩, hid⟩
    exact ⟨hmem, hid⟩
  · rintro ⟨hmem, rfl⟩
    exact ⟨⟨hmem, hframe⟩, rfl⟩

theorem nodeOfFrame_perm (hperm : nodes.Perm nodes')
    (h : (nodes.map OptimizedPoseNode.frameId).Nodup) (frameId : String) :
    nodeOfFrame nodes frameId = nodeOfFrame nodes' frameId := by
  refine find?_key_perm OptimizedPoseNode.frameId ?_ (nodup_sortedNodes h) frameId
  exact (List.perm_insertionSort _ _).trans
    ((hperm.filter _).trans (List.perm_insertionSort _ _).symm)

theorem applyToImage_perm (transform : Vector R 3 → Vector R 4 → ReconPose R)
    (hperm : nodes.Perm nodes') (h : (nodes.map OptimizedPoseNode.frameId).Nodup) :
    applyToImage transform nodes = applyToImage transform nodes' := by
  funext image
  unfold applyToImage
  rw [nodeOfFrame_perm hperm h]

end

/-! ## One image -/

/-- The image is detected, and the node is of its frame, which it has. -/
structure Matches {R : Type} (image : ReconImage R) (node : OptimizedPoseNode R) : Prop where
  detected : image.detected = true
  named : image.frameId ≠ ""
  frame : node.frameId = image.frameId

/-- What becomes of one image: with a node it gets the pose of the node, seen
from the reconstruction, and without one it stays as it is. -/
structure ImageLaw (reconstructionFromTrajectory : Rigid ℝ) (nodes : List (OptimizedPoseNode ℝ))
    (image updated : ReconImage ℝ) (detail : PoseFeedbackDetail) : Prop where
  frame : detail.frameId = image.frameId
  tells : detail.updated = true ↔ ∃ node ∈ nodes, Matches image node
  unmatched : detail.updated = false → updated = image
  posed : ∀ node ∈ nodes, Matches image node → updated =
    { image with
      pose := composedPose reconstructionFromTrajectory node.positionXyz node.rotationXyzw }

theorem applyToImage_law (reconstructionFromTrajectory : Rigid ℝ)
    {nodes : List (OptimizedPoseNode ℝ)} (h : (nodes.map OptimizedPoseNode.frameId).Nodup)
    (image : ReconImage ℝ) :
    ImageLaw reconstructionFromTrajectory nodes image
      (applyToImage (composedPose reconstructionFromTrajectory) nodes image).1
      (applyToImage (composedPose reconstructionFromTrajectory) nodes image).2 := by
  unfold applyToImage
  split
  -- no name or not detected: such an image is matched by no node
  · next hskipped =>
    have hnone : ∀ node ∈ nodes, ¬ Matches image node := by
      intro node _ hmatches
      rcases hskipped with hname | hdetected
      · exact hmatches.named hname
      · rw [hmatches.detected] at hdetected
        cases hdetected
    exact {
      frame := rfl
      tells := ⟨fun hfalse => (nomatch hfalse), fun ⟨node, hnode, hm⟩ => absurd hm (hnone node hnode)⟩
      unmatched := fun _ => rfl
      posed := fun node hnode hm => absurd hm (hnone node hnode) }
  · next hkept =>
    obtain ⟨hname, hdetected⟩ := not_or.mp hkept
    have hfound : ∀ node, nodeOfFrame nodes image.frameId = some node ↔
        node ∈ nodes ∧ node.frameId = image.frameId := fun _ => nodeOfFrame_eq_some h hname
    cases hnode : nodeOfFrame nodes image.frameId with
    | none =>
        have hnone : ∀ node ∈ nodes, ¬ Matches image node := by
          intro node hmem hmatches
          rw [hnode] at hfound
          exact nomatch (hfound node).mpr ⟨hmem, hmatches.frame⟩
        exact {
          frame := rfl
          tells := ⟨fun hfalse => (nomatch hfalse), fun ⟨node, hmem, hm⟩ => absurd hm (hnone node hmem)⟩
          unmatched := fun _ => rfl
          posed := fun node hmem hm => absurd hm (hnone node hmem) }
    -- the node that is found is the only one with this frame
    | some found =>
        obtain ⟨hmem, hframe⟩ := (hfound found).mp hnode
        exact {
          frame := rfl
          tells := ⟨fun _ => ⟨found, hmem, by simpa using hdetected, hname, hframe⟩, fun _ => rfl⟩
          unmatched := fun hfalse => (nomatch hfalse)
          posed := fun node hmem' hm => by
            have hsame := (hfound node).mpr ⟨hmem', hm.frame⟩
            rw [hnode] at hsame
            rw [Option.some.inj hsame] }

/-- The composed pose moves a point as the node does and then the transform between the frames. -/
theorem composedPose_acts {reconstructionFromTrajectory : Rigid ℝ}
    (hunit : squaredNorm reconstructionFromTrajectory.rotation = 1) (positionXyz : Vector ℝ 3)
    {rotationXyzw : Quat ℝ} (hrotation : 0 < squaredNorm rotationXyzw) (p : Vector ℝ 3) :
    (rigidOf (composedPose reconstructionFromTrajectory positionXyz rotationXyzw)).transformPoint p =
      reconstructionFromTrajectory.transformPoint
        ((makeCameraPose positionXyz rotationXyzw).transformPoint p) := by
  let alignment : UnitRigid := ⟨reconstructionFromTrajectory, hunit⟩
  let pose : UnitRigid := ⟨makeCameraPose positionXyz rotationXyzw, squaredNorm_normalized hrotation⟩
  exact UnitRigid.transformPoint_mul alignment pose p

/-! ## The whole document

The loop over the images is a map, so the law of one image is that of all, by
index. The order of the nodes does not matter since each image asks for its own. -/

/-- What the new revision and the details are, given the old one. -/
structure FeedbackLaw (reconstructionFromTrajectory : Rigid ℝ) (input : ReconstructionFeedbackInput ℝ)
    (reconstructionId : Uuid) (revision : Reconstruction ℝ) (details : List PoseFeedbackDetail) :
    Prop where
  /-- Apart from the images, only identity, status, time and provenance are new. -/
  frame : revision =
    { input.source with
      reconstructionId := formatUuid reconstructionId
      status := "succeeded"
      createdAtNs := input.optimizationResult.createdAtNs
      provenance := provenance input
      images := revision.images }
  imageCount : revision.images.length = input.source.images.length
  detailCount : details.length = input.source.images.length
  image : ∀ (i : ℕ) image updated detail, input.source.images[i]? = some image →
    revision.images[i]? = some updated → details[i]? = some detail →
    ImageLaw reconstructionFromTrajectory input.optimizedNodes image updated detail

theorem feedbackLaw_applied (reconstructionFromTrajectory : Rigid ℝ)
    (input : ReconstructionFeedbackInput ℝ) (reconstructionId : Uuid)
    (h : (input.optimizedNodes.map OptimizedPoseNode.frameId).Nodup) {images}
    (himages : images = input.source.images.map
      (applyToImage (composedPose reconstructionFromTrajectory) input.optimizedNodes)) :
    FeedbackLaw reconstructionFromTrajectory input reconstructionId
      { input.source with
        reconstructionId := formatUuid reconstructionId
        status := "succeeded"
        createdAtNs := input.optimizationResult.createdAtNs
        provenance := provenance input
        images := images.map Prod.fst } (images.map Prod.snd) where
  frame := rfl
  imageCount := by simp [himages]
  detailCount := by simp [himages]
  image := by
    intro i image updated detail himage hupdated hdetail
    subst himages
    simp only [List.getElem?_map, himage, Option.map_some, Option.some.injEq] at hupdated hdetail
    rw [← hupdated, ← hdetail]
    exact applyToImage_law reconstructionFromTrajectory h image

/-- Without an alignment there is no revision. With one, what is new are
identity, status, time, provenance and the poses of detected images that have a
node; these see a point where the node sees it, moved to the frame of the
reconstruction, and the order of the nodes does not matter. -/
theorem applyOptimizedTrajectory_law (reconstructionFromTrajectory : Rigid ℝ)
    (input : ReconstructionFeedbackInput ℝ) (reconstructionId : Uuid)
    (hsome : input.optimizedNodes ≠ [])
    (hframes : (input.optimizedNodes.map OptimizedPoseNode.frameId).Nodup)
    (hrotations : ∀ node ∈ input.optimizedNodes, 0 < squaredNorm node.rotationXyzw) :
    let apply := fun nodes => applyOptimizedTrajectory (composedPose reconstructionFromTrajectory)
      { input with optimizedNodes := nodes } reconstructionId
    (input.alignmentResolved = false → ∃ what, apply input.optimizedNodes = .error what) ∧
      (input.alignmentResolved = true → ∃ revision details,
        apply input.optimizedNodes = .ok (revision, details) ∧
        FeedbackLaw reconstructionFromTrajectory input reconstructionId revision details) ∧
      (squaredNorm reconstructionFromTrajectory.rotation = 1 →
        ∀ node ∈ input.optimizedNodes, ∀ p,
          (rigidOf (composedPose reconstructionFromTrajectory node.positionXyz
            node.rotationXyzw)).transformPoint p =
          reconstructionFromTrajectory.transformPoint
            ((makeCameraPose node.positionXyz node.rotationXyzw).transformPoint p)) ∧
      ∀ nodes, input.optimizedNodes.Perm nodes → apply nodes = apply input.optimizedNodes := by
  intro apply
  have hnonempty : input.optimizedNodes.isEmpty = false := by
    simpa using hsome
  refine ⟨?_, ?_, ?_, ?_⟩
  · intro hunaligned
    show ∃ what, applyOptimizedTrajectory _ input _ = .error what
    rw [applyOptimizedTrajectory, hnonempty, if_neg Bool.false_ne_true, if_pos hunaligned]
    exact ⟨_, rfl⟩
  · intro haligned
    refine ⟨_, _, ?_, feedbackLaw_applied reconstructionFromTrajectory input reconstructionId hframes rfl⟩
    show applyOptimizedTrajectory _ input _ = _
    rw [applyOptimizedTrajectory, hnonempty, if_neg Bool.false_ne_true, haligned,
      if_neg (by decide)]
  · intro hunit node hnode p
    exact composedPose_acts hunit node.positionXyz (hrotations node hnode) p
  · intro nodes hperm
    -- a permutation of the nodes passes the same checks
    have hempty : nodes.isEmpty = input.optimizedNodes.isEmpty := by
      rw [Bool.eq_iff_iff, List.isEmpty_iff, List.isEmpty_iff]
      exact ⟨fun hnil => by rw [hnil] at hperm; exact hperm.eq_nil,
        fun hnil => by rw [hnil] at hperm; exact hperm.symm.eq_nil⟩
    show applyOptimizedTrajectory _ _ _ = applyOptimizedTrajectory _ _ _
    simp only [applyOptimizedTrajectory, hempty,
      applyToImage_perm (composedPose reconstructionFromTrajectory) hperm hframes]
    rfl

/-- A document with an image that has a node, one that has none, and one that is not detected. -/
private noncomputable def threeImages : ReconstructionFeedbackInput ℝ where
  source := { images := [
    { frameId := "f", pose := ⟨.quadruple 0 0 0 1, .triple 0 0 0⟩, detected := true },
    { frameId := "g", pose := ⟨.quadruple 0 0 0 1, .triple 1 0 0⟩, detected := true },
    { frameId := "h", pose := ⟨.quadruple 0 0 0 1, .triple 1 1 0⟩ }] }
  optimizationResult := { resultId := "r" }
  optimizedNodes := [
    { frameId := "h", positionXyz := .triple 0 1 0, rotationXyzw := .quadruple 0 0 0 1 },
    { frameId := "f", positionXyz := .triple 1 0 0, rotationXyzw := .quadruple 0 0 0 2.0 }]

theorem threeImages_revised : ∃ revision details,
    applyOptimizedTrajectory (composedPose ⟨#v[0, 0, 0, 1], #v[0, 1, 0]⟩) threeImages Uuid.nil =
      .ok (revision, details) ∧
    FeedbackLaw ⟨#v[0, 0, 0, 1], #v[0, 1, 0]⟩ threeImages Uuid.nil revision details ∧
    details.map PoseFeedbackDetail.updated = [true, false, false] := by
  have hrotations : ∀ node ∈ threeImages.optimizedNodes, 0 < squaredNorm node.rotationXyzw := by
    intro node hnode
    obtain rfl | hnode := List.mem_cons.mp hnode
    · rw [squaredNorm_real]
      norm_num
    · rw [List.mem_singleton.mp hnode, squaredNorm_real]
      norm_num
  obtain ⟨revision, details, hok, hlaw⟩ := (applyOptimizedTrajectory_law ⟨#v[0, 0, 0, 1], #v[0, 1, 0]⟩
    threeImages Uuid.nil (List.cons_ne_nil _ _) (by simp [threeImages]) hrotations).2.1 rfl
  refine ⟨revision, details, hok, hlaw, ?_⟩
  cases hok
  rfl

end SpatialPlatform.Core.ReconstructionFeedback
