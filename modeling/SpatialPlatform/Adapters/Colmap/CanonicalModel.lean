import Mathlib.Tactic.IntervalCases
import Mathlib.Tactic.LinearCombination
import SpatialPlatform.Adapters.Colmap.Converter
import SpatialPlatform.Lib.Coordinates

/-!
# Between COLMAP models and reconstructions

The second part of `adapters/colmap/colmap_converter.cpp`, and the pose
conversion of `colmap_model_writer.cpp`, which is meant to be its inverse. Over
exact arithmetic it is (`throughColmap_eq`).
-/

namespace SpatialPlatform.Adapters.Colmap

open SpatialPlatform.Core

/-- `DistortionModelForId`. -/
def distortionModelForId (modelId : Int32) : String :=
  if modelId = 0 ∨ modelId = 1 then "none"
  else if modelId = 2 ∨ modelId = 3 ∨ modelId = 4 then "opencv_radial"
  else if modelId = 5 ∨ modelId = 8 ∨ modelId = 9 then "opencv_fisheye"
  else "custom"

/-- `ExtractDistortion`: the parameters after the focal lengths and the
principal point, as many as the model has coefficients. -/
def extractDistortion {R : Type} (camera : SparseModelCamera R) : List R :=
  let p := camera.rawParams
  match modelInfo camera.modelId with
  | none => []
  | some info =>
      if info.singleFocal then
        if camera.modelId = 2 ∨ camera.modelId = 8 then
          if p.length > 3 then (p.drop 3).take 1 else []
        else if camera.modelId = 3 ∨ camera.modelId = 9 then
          if p.length > 4 then (p.drop 3).take 2 else []
        else []
      else if camera.modelId = 4 ∨ camera.modelId = 5 then
        if p.length ≥ 8 then (p.drop 4).take 4 else []
      else if camera.modelId = 7 then
        if p.length > 4 then (p.drop 4).take 1 else []
      else []

/-! ## Poses -/

section Pose

variable {R : Type} [Neg R] [Add R] [Sub R] [Mul R] [OfNat R 2]

/-- `ConjugateQuaternion`, in the order x, y, z, w. -/
def conjugateQuaternion (q : Vector R 4) : Vector R 4 := #v[-q 0, -q 1, -q 2, q 3]

/-- `RotateVectorByQuaternion`. -/
def rotateVectorByQuaternion (q : Vector R 4) (v : Vector R 3) : Vector R 3 :=
  let tx := (2 : R) * (q 1 * v 2 - q 2 * v 1)
  let ty := (2 : R) * (q 2 * v 0 - q 0 * v 2)
  let tz := (2 : R) * (q 0 * v 1 - q 1 * v 0)
  #v[v 0 + q 3 * tx + (q 1 * tz - q 2 * ty),
    v 1 + q 3 * ty + (q 2 * tx - q 0 * tz),
    v 2 + q 3 * tz + (q 0 * ty - q 1 * tx)]

/-- `InvertColmapPose`; `qvec` is in the order w, x, y, z. -/
def invertColmapPose (qvec : Vector R 4) (tvec : Vector R 3) : ReconPose R :=
  let q := #v[qvec 1, qvec 2, qvec 3, qvec 0]
  let qInv := conjugateQuaternion q
  let negT := #v[-tvec 0, -tvec 1, -tvec 2]
  ⟨qInv, rotateVectorByQuaternion qInv negT⟩

/-- `CanonicalPoseToColmap`. -/
def canonicalPoseToColmap (pose : ReconPose R) : Vector R 4 × Vector R 3 :=
  let qConv := conjugateQuaternion pose.rotationXyzw
  let t := pose.translationXyz
  let negT := #v[-t 0, -t 1, -t 2]
  (#v[qConv 3, qConv 0, qConv 1, qConv 2], rotateVectorByQuaternion qConv negT)

/-- The pose that comes back from a COLMAP model. -/
def throughColmap (pose : ReconPose R) : ReconPose R :=
  let (qvec, tvec) := canonicalPoseToColmap pose
  invertColmapPose qvec tvec

/-! ## `SparseModelToReconstruction`

The converter as it is, and that the two pose conversions undo each other for
quaternions of length one. -/

structure ReconstructionProvenanceInfo where
  backendName : String := "colmap"
  backendVersion : String := ""
  adapterVersion : String := ""
  configurationHash : String := ""
  inputArtifactHashes : List String := []
  engineVersion : String := ""
  engineCommit : String := ""
  gitCommit : String := ""
  startedAtNs : Int64 := 0
  finishedAtNs : Int64 := 0
  durationNs : Int64 := 0

def reconCameraOfModel (src : SparseModelCamera R) : ReconCamera R where
  cameraId := src.cameraId
  width := src.width
  height := src.height
  intrinsicModel := src.intrinsicModel
  fx := src.intrinsics.fx
  fy := src.intrinsics.fy
  cx := src.intrinsics.cx
  cy := src.intrinsics.cy
  distortionModel := distortionModelForId src.modelId
  distortionCoefficients := extractDistortion src

/-- A name that the map does not hold is left without a frame. -/
def reconImageOfModel (frameIdMap : List (List UInt8 × String)) (src : SparseModelImage R) :
    ReconImage R where
  imageId := src.imageId
  cameraId := src.cameraId
  name := src.name
  detected := true
  frameId := (frameIdMap.lookup src.name).getD ""
  pose := invertColmapPose src.qvec src.tvec

def reconPointOfModel (src : SparseModelPoint R) : ReconPoint3D R where
  point3dId := src.point3dId
  xyz := src.xyz
  color := src.rgb
  error := src.error
  track := src.track.map fun te => ⟨te.imageId, te.point2dIdx.toInt32⟩

/-- What the caller of the converter supplies. -/
structure ConverterInput where
  reconstructionId : String
  sceneId : String
  sessionIds : List String
  coordinateFrame : String
  provenance : ReconstructionProvenanceInfo
  frameIdMap : List (List UInt8 × String)

/-- `SparseModelToReconstruction`. -/
def sparseModelToReconstruction (model : SparseModel R) (input : ConverterInput) :
    Reconstruction R where
  reconstructionId := input.reconstructionId
  sceneId := input.sceneId
  sessionIds := input.sessionIds
  coordinateFrame := input.coordinateFrame
  status := "succeeded"
  provenance := {
    backend := {
      name := input.provenance.backendName
      version := input.provenance.backendVersion
      adapterVersion := input.provenance.adapterVersion }
    configurationHash := input.provenance.configurationHash
    inputArtifactHashes := input.provenance.inputArtifactHashes
    engineVersion := input.provenance.engineVersion
    engineCommit := input.provenance.engineCommit
    gitCommit := input.provenance.gitCommit
    startedAtNs := input.provenance.startedAtNs
    finishedAtNs := input.provenance.finishedAtNs
    durationNs := input.provenance.durationNs }
  cameras := model.cameras.map reconCameraOfModel
  images := model.images.map (reconImageOfModel input.frameIdMap)
  points3D := model.points3d.map reconPointOfModel

end Pose

/-- The rotation is a quaternion of length one. -/
def HasLengthOne {K : Type} [CommRing K] (q : Vector K 4) : Prop :=
  q 0 * q 0 + q 1 * q 1 + q 2 * q 2 + q 3 * q 3 = 1

/-- Turning back after a rotation, for a quaternion of length one. -/
theorem rotate_conjugate {K : Type} [CommRing K] {q : Vector K 4} (h : HasLengthOne q)
    (v : Vector K 3) :
    rotateVectorByQuaternion q (rotateVectorByQuaternion (conjugateQuaternion q) v) = v := by
  unfold HasLengthOne at h
  apply Vector.ext
  intro i hi
  -- the error is 4 (1 - |q|²) u × (u × v), where u is the imaginary part
  interval_cases i
  · show _ = v 0
    simp [rotateVectorByQuaternion, conjugateQuaternion]
    linear_combination
      (-4 * (q 1 * (q 0 * v 1 - q 1 * v 0) - q 2 * (q 2 * v 0 - q 0 * v 2))) * h
  · show _ = v 1
    simp [rotateVectorByQuaternion, conjugateQuaternion]
    linear_combination
      (-4 * (q 2 * (q 1 * v 2 - q 2 * v 1) - q 0 * (q 0 * v 1 - q 1 * v 0))) * h
  · show _ = v 2
    simp [rotateVectorByQuaternion, conjugateQuaternion]
    linear_combination
      (-4 * (q 0 * (q 2 * v 0 - q 0 * v 2) - q 1 * (q 1 * v 2 - q 2 * v 1))) * h

/-- The opposite of what is rotated is the rotation of the opposite. -/
theorem neg_rotate {K : Type} [CommRing K] (q : Vector K 4) (v : Vector K 3) :
    let rotated := rotateVectorByQuaternion q #v[-v 0, -v 1, -v 2]
    #v[-rotated 0, -rotated 1, -rotated 2] = rotateVectorByQuaternion q v := by
  apply Vector.ext
  intro i hi
  interval_cases i <;> simp [rotateVectorByQuaternion] <;> ring

/-- Over exact arithmetic the two conversions are inverse to each other. -/
theorem throughColmap_eq {K : Type} [CommRing K] {pose : ReconPose K}
    (h : HasLengthOne pose.rotationXyzw) : throughColmap pose = pose := by
  obtain ⟨q, t⟩ := pose
  have hrotation : (throughColmap (⟨q, t⟩ : ReconPose K)).rotationXyzw = q := by
    show conjugateQuaternion _ = q
    apply Vector.ext
    intro i hi
    interval_cases i <;> simp [conjugateQuaternion]
  have htranslation : (throughColmap (⟨q, t⟩ : ReconPose K)).translationXyz = t := by
    show rotateVectorByQuaternion (throughColmap (⟨q, t⟩ : ReconPose K)).rotationXyzw _ = t
    rw [hrotation]
    refine Eq.trans ?_ (rotate_conjugate h t)
    exact congrArg _ (neg_rotate (conjugateQuaternion q) t)
  show (⟨(throughColmap (⟨q, t⟩ : ReconPose K)).rotationXyzw,
    (throughColmap (⟨q, t⟩ : ReconPose K)).translationXyz⟩ : ReconPose K) = _
  rw [hrotation, htranslation]

end SpatialPlatform.Adapters.Colmap
