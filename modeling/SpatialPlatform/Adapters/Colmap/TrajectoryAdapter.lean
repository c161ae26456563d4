import SpatialPlatform.Adapters.Colmap.CanonicalModel
import SpatialPlatform.Core.Geometry.RigidGroup
import SpatialPlatform.Core.Trajectory.PoseGraphHelpers
import SpatialPlatform.Lib.Coordinates

/-!
# COLMAP models as trajectories

`adapters/colmap/colmap_trajectory_adapter.cpp`, which repeats the pose
conversion of `colmap_converter.cpp`. The trajectory and the reconstruction of a
model are joined by their frame ids later on.

* `nodes_images_agree` — both list the same images with the same poses, which
  over the reals are the inverse ones of COLMAP.
-/

namespace SpatialPlatform.Adapters.Colmap

open SpatialPlatform.Core SpatialPlatform.Core.Geometry

/-! ## The pose conversion, once more -/

namespace TrajectoryAdapter

section

variable {R : Type} [Neg R] [Add R] [Sub R] [Mul R] [OfNat R 2]

/-- `ConjugateQuaternion`. -/
def conjugateQuaternion (q : Vector R 4) : Vector R 4 := .quadruple (-q 0) (-q 1) (-q 2) (q 3)

/-- `RotateVectorByQuaternion`. -/
def rotateVectorByQuaternion (q : Vector R 4) (v : Vector R 3) : Vector R 3 :=
  let qx := q 0
  let qy := q 1
  let qz := q 2
  let qw := q 3
  let vx := v 0
  let vy := v 1
  let vz := v 2
  let tx := (2 : R) * (qy * vz - qz * vy)
  let ty := (2 : R) * (qz * vx - qx * vz)
  let tz := (2 : R) * (qx * vy - qy * vx)
  .triple (vx + qw * tx + (qy * tz - qz * ty)) (vy + qw * ty + (qz * tx - qx * tz))
    (vz + qw * tz + (qx * ty - qy * tx))

/-- `InvertColmapPose`: the rotation in the order x, y, z, w, and the translation. -/
def invertColmapPose (qvecWxyz : Vector R 4) (tvec : Vector R 3) : Vector R 4 × Vector R 3 :=
  let qXyzw := Vector.quadruple (qvecWxyz 1) (qvecWxyz 2) (qvecWxyz 3) (qvecWxyz 0)
  let qInv := conjugateQuaternion qXyzw
  let negT := Vector.triple (-tvec 0) (-tvec 1) (-tvec 2)
  let rotated := rotateVectorByQuaternion qInv negT
  (qInv, rotated)

/-- Both copies compute the same, in the same order of operations. -/
theorem invertColmapPose_eq (qvec : Vector R 4) (tvec : Vector R 3) :
    invertColmapPose qvec tvec =
      ((Colmap.invertColmapPose qvec tvec).rotationXyzw,
        (Colmap.invertColmapPose qvec tvec).translationXyz) :=
  rfl

end

end TrajectoryAdapter

/-! ## `SparseModelToTrajectory`

The images one after the other, each with the inverse of its pose and the frame
that the map has for its name. -/

structure TrajectoryProvenanceInfo where
  backendName : String := "colmap"
  backendVersion : String := ""
  adapterVersion : String := ""
  configurationHash : String := ""
  inputArtifactHashes : List String := []
  engineVersion : String := ""
  engineCommit : String := ""
  gitCommit : String := ""
  startedAtNs : Int64 := 0
  finishedAtNs : Int64 := 0
  durationNs : Int64 := 0

/-- What the caller of the adapter supplies. -/
structure TrajectoryInput where
  trajectoryId : String
  sceneId : String
  sessionId : String
  coordinateFrame : String
  provenance : TrajectoryProvenanceInfo
  frameIdMap : List (List UInt8 × String)

/-- `Trajectory`, with the fields that the adapter fills. -/
structure ExtractedTrajectory (R : Type) where
  trajectoryId : String
  sceneId : String
  sessionId : String
  kind : String
  coordinateFrame : String
  status : String
  nodeCount : Int64
  totalDistanceM : R
  totalDurationNs : R
  provenance : ReconstructionProvenance

structure TrajectoryExtractionResult (R : Type) where
  trajectory : ExtractedTrajectory R
  nodes : List (TrajectoryPoseNode R)

section

variable {R : Type} [DoubleArith R] [OfNat R 2]

/-- The node of an image. A name that the map does not hold is left without a frame. -/
def poseNodeOfModel (frameIdMap : List (List UInt8 × String)) (img : SparseModelImage R) (seq : Nat) :
    TrajectoryPoseNode R :=
  let (rotationXyzw, positionXyz) := TrajectoryAdapter.invertColmapPose img.qvec img.tvec
  { frameId := (frameIdMap.lookup img.name).getD ""
    timestampNs := 0
    sequenceIndex := Int64.ofNat seq
    positionXyz, rotationXyzw }

/-- `total_distance`: the way from each position to the next. -/
def totalDistance (positions : List (Vector R 3)) : R :=
  (positions.zip positions.tail).foldl (fun total (prev, position) =>
    let dx := position 0 - prev 0
    let dy := position 1 - prev 1
    let dz := position 2 - prev 2
    total + DoubleArith.sqrt (dx * dx + dy * dy + dz * dz)) 0.0

/-- `SparseModelToTrajectory`. -/
def sparseModelToTrajectory (model : SparseModel R) (input : TrajectoryInput) :
    Except ProjectError (TrajectoryExtractionResult R) :=
  if model.images.isEmpty then
    .error ⟨.adapterProcessFailed,
      "Cannot extract trajectory from empty COLMAP model (no images)"⟩
  else
    let nodes := model.images.zipIdx.map fun (img, seq) => poseNodeOfModel input.frameIdMap img seq
    .ok {
      nodes
      trajectory := {
        trajectoryId := input.trajectoryId
        sceneId := input.sceneId
        sessionId := input.sessionId
        kind := "sfm"
        coordinateFrame := input.coordinateFrame
        status := "building"
        nodeCount := Int64.ofNat nodes.length
        totalDistanceM := totalDistance (nodes.map (·.positionXyz))
        totalDurationNs := 0.0
        provenance := {
          backend := {
            name := input.provenance.backendName
            version := input.provenance.backendVersion
            adapterVersion := input.provenance.adapterVersion }
          configurationHash := input.provenance.configurationHash
          inputArtifactHashes := input.provenance.inputArtifactHashes
          engineVersion := input.provenance.engineVersion
          engineCommit := input.provenance.engineCommit
          gitCommit := input.provenance.gitCommit
          startedAtNs := input.provenance.startedAtNs
          finishedAtNs := input.provenance.finishedAtNs
          durationNs := input.provenance.durationNs } } }

/-! ## Two documents of one model -/

/-- A node and an image of a reconstruction stand for the same frame in the same pose. -/
def SameFrame (node : TrajectoryPoseNode R) (image : ReconImage R) : Prop :=
  node.frameId = image.frameId ∧ node.rotationXyzw = image.pose.rotationXyzw ∧
    node.positionXyz = image.pose.translationXyz

theorem sameFrame_ofModel (frameIdMap : List (List UInt8 × String)) (img : SparseModelImage R)
    (seq : Nat) :
    SameFrame (poseNodeOfModel frameIdMap img seq) (reconImageOfModel frameIdMap img) := by
  unfold poseNodeOfModel
  rw [TrajectoryAdapter.invertColmapPose_eq]
  exact ⟨rfl, rfl, rfl⟩

/-- The nodes of a trajectory and the images of a reconstruction are those of the model, one by one. -/
def SameImages (images : List (SparseModelImage R)) (nodes : List (TrajectoryPoseNode R))
    (recon : List (ReconImage R)) : Prop :=
  nodes.length = images.length ∧ recon.length = images.length ∧
    ∀ i (hn : i < nodes.length) (hr : i < recon.length) (hi : i < images.length),
      SameFrame nodes[i] recon[i] ∧ nodes[i].sequenceIndex = Int64.ofNat i ∧
        recon[i].imageId = images[i].imageId

theorem sameImages_ofModel (model : SparseModel R) (input : TrajectoryInput)
    (converter : ConverterInput) (hmap : converter.frameIdMap = input.frameIdMap) :
    SameImages model.images
      (model.images.zipIdx.map fun (img, seq) => poseNodeOfModel input.frameIdMap img seq)
      (sparseModelToReconstruction model converter).images := by
  refine ⟨by simp, by simp [sparseModelToReconstruction], fun i hn hr hi => ?_⟩
  have hnode : (model.images.zipIdx.map fun (img, seq) =>
      poseNodeOfModel input.frameIdMap img seq)[i] =
      poseNodeOfModel input.frameIdMap model.images[i] i := by simp
  have himage : (sparseModelToReconstruction model converter).images[i] =
      reconImageOfModel input.frameIdMap model.images[i] := by
    simp [sparseModelToReconstruction, hmap]
  rw [hnode, himage]
  exact ⟨sameFrame_ofModel _ _ _, rfl, rfl⟩

end

/-! ## Without rounding

Over the reals a pose with a unit quaternion is an element of the group of rigid
transforms, and inverting a COLMAP pose is the inverse of the group. -/

/-- The pose of an image as COLMAP has it. -/
def SparseModelImage.colmapPose (img : SparseModelImage ℝ) : Rigid ℝ :=
  ⟨#v[img.qvec 1, img.qvec 2, img.qvec 3, img.qvec 0], img.tvec⟩

/-- The pose of a node. -/
def nodePose (node : TrajectoryPoseNode ℝ) : Rigid ℝ := ⟨node.rotationXyzw, node.positionXyz⟩

theorem rotateVectorByQuaternion_eq (q : Quat ℝ) (v : Vector ℝ 3) :
    TrajectoryAdapter.rotateVectorByQuaternion q v = rotateDirection q v := by
  rw [rotateDirection_real]
  apply vec3_ext <;> simp [TrajectoryAdapter.rotateVectorByQuaternion] <;> ring

/-- Inverting a COLMAP pose with a unit quaternion. -/
theorem nodePose_ofModel (frameIdMap : List (List UInt8 × String)) {img : SparseModelImage ℝ}
    (hunit : squaredNorm img.colmapPose.rotation = 1) (seq : Nat) :
    nodePose (poseNodeOfModel frameIdMap img seq) = img.colmapPose.inverse := by
  apply Rigid.ext_parts
  · show conj img.colmapPose.rotation = Geometry.inverse img.colmapPose.rotation
    exact (inverse_of_unit hunit).symm
  · show TrajectoryAdapter.rotateVectorByQuaternion (conj img.colmapPose.rotation) (neg3 img.tvec) =
      neg3 (rotateDirection (Geometry.inverse img.colmapPose.rotation) img.tvec)
    rw [rotateVectorByQuaternion_eq, rotateDirection_neg3, inverse_of_unit hunit]

/-- Every pose undoes the one it came from, on both sides. -/
def Inverts (pose colmap : Rigid ℝ) : Prop :=
  pose = colmap.inverse ∧ pose.mul colmap = .identity ∧ colmap.mul pose = .identity

theorem inverts_inverse {colmap : Rigid ℝ} (hunit : squaredNorm colmap.rotation = 1) :
    Inverts colmap.inverse colmap := by
  let pose : UnitRigid := ⟨colmap, hunit⟩
  exact ⟨rfl, congrArg UnitRigid.toRigid (inv_mul_cancel pose),
    congrArg UnitRigid.toRigid (mul_inv_cancel pose)⟩

/-- The two documents of a model list the same frames in the same poses,
numbered from 0, in whatever arithmetic; over the reals the poses invert those
of COLMAP that have unit quaternions. -/
theorem nodes_images_agree :
    (∀ {R : Type} [DoubleArith R] [OfNat R 2] (model : SparseModel R) (input : TrajectoryInput)
      (converter : ConverterInput), converter.frameIdMap = input.frameIdMap → model.images ≠ [] →
      ∃ result, sparseModelToTrajectory model input = .ok result ∧
        SameImages model.images result.nodes (sparseModelToReconstruction model converter).images) ∧
    ∀ (model : SparseModel ℝ) (input : TrajectoryInput) (result : TrajectoryExtractionResult ℝ),
      sparseModelToTrajectory model input = .ok result →
      ∀ i (hn : i < result.nodes.length) (hi : i < model.images.length),
        squaredNorm model.images[i].colmapPose.rotation = 1 →
        Inverts (nodePose result.nodes[i]) model.images[i].colmapPose := by
  constructor
  · intro R _ _ model input converter hmap hne
    refine ⟨_, if_neg (by simpa using hne), ?_⟩
    exact sameImages_ofModel model input converter hmap
  · intro model input result hresult i hn hi hunit
    unfold sparseModelToTrajectory at hresult
    split at hresult
    · cases hresult
    cases hresult
    -- the node has the inverse of the pose of its image
    have hnode : nodePose (model.images.zipIdx.map fun (img, seq) =>
        poseNodeOfModel input.frameIdMap img seq)[i] = model.images[i].colmapPose.inverse := by
      rw [List.getElem_map, List.getElem_zipIdx]
      exact nodePose_ofModel _ hunit _
    rw [hnode]
    exact inverts_inverse hunit

/-- A picture taken straight ahead and one from a unit further on, turned about
the axis of sight. The frame map knows the first of them. -/
noncomputable def turnedModel : SparseModel ℝ where
  cameras := []
  images := [
    { imageId := 7, cameraId := 1, name := [97], qvec := #v[1, 0, 0, 0], tvec := #v[0, 0, 0] },
    { imageId := 3, cameraId := 1, name := [98], qvec := #v[0.8, 0, 0, 0.6], tvec := #v[0, 0, -1] }]
  points3d := []

theorem turned_agree :
    ∃ result, sparseModelToTrajectory turnedModel
        ⟨"trajectory", "scene", "session", "frame", {}, [([97], "frame-a")]⟩ = .ok result ∧
      SameImages turnedModel.images result.nodes
        (sparseModelToReconstruction turnedModel
          ⟨"reconstruction", "scene", ["session"], "frame", {}, [([97], "frame-a")]⟩).images ∧
      ∀ i (hn : i < result.nodes.length) (hi : i < turnedModel.images.length),
        Inverts (nodePose result.nodes[i]) turnedModel.images[i].colmapPose := by
  obtain ⟨result, hresult, hsame⟩ := nodes_images_agree.1 turnedModel
    ⟨"trajectory", "scene", "session", "frame", {}, [([97], "frame-a")]⟩
    ⟨"reconstruction", "scene", ["session"], "frame", {}, [([97], "frame-a")]⟩ rfl
    (List.cons_ne_nil _ _)
  refine ⟨result, hresult, hsame, fun i hn hi => ?_⟩
  apply nodes_images_agree.2 turnedModel _ result hresult i hn hi
  have hunit : ∀ img ∈ turnedModel.images, squaredNorm img.colmapPose.rotation = 1 := by
    simp [turnedModel, SparseModelImage.colmapPose, squaredNorm]
    norm_num
  exact hunit _ (List.getElem_mem hi)

end SpatialPlatform.Adapters.Colmap
