import SpatialPlatform.Core.Geometry.DirectionMath
import SpatialPlatform.Lib.Coordinates

/-!
# Triangulating points

The numbers of `core/geometry/triangulation.h`, with the views of
`core/geometry/reprojection.h`. The camera models of
`core/geometry/camera_model.h` are a parameter.
-/

namespace SpatialPlatform.Core.Geometry

open SpatialPlatform.Core

/-- `CameraModel`, with the two numbers that `double` has from elsewhere. -/
structure CameraModels (M R : Type) where
  fromReconCamera : ReconCamera R → Except ProjectError M
  project : M → Vector R 3 → Except ProjectError (R × R)
  unproject : M → R × R → Except ProjectError (Vector R 3)
  acos : R → R
  /-- `std::numeric_limits<double>::max()`. -/
  max : R

/-- `CameraView`. -/
structure CameraView (M R : Type) where
  imageId : UInt32
  model : M
  worldFromCamera : Rigid R

inductive TriangulationAcceptance where
  | accepted
  | rejectedNonFinite
  | rejectedNegativeDepth
  | rejectedLowParallax
  | rejectedHighResidual
  deriving DecidableEq, Repr

/-- `TriangulationCandidate`. -/
structure TriangulationCandidate (R : Type) where
  xyz : Vector R 3
  parallaxDeg : R
  acceptance : TriangulationAcceptance := .rejectedNonFinite

variable {M R : Type} [DoubleArith R] (models : CameraModels M R)

/-- `InitializeReprojectionViews`. -/
def initializeReprojectionViews (rec : Reconstruction R) :
    Except ProjectError (List (CameraView M R)) :=
  rec.images.mapM fun image =>
    match rec.cameras.find? (·.cameraId = image.cameraId) with
    | none => throw ⟨.validationDomain, "reprojection: image references unknown camera_id"⟩
    | some camera => do
        let model ← models.fromReconCamera camera
        return ⟨image.imageId, model,
          ⟨normalized image.pose.rotationXyzw, image.pose.translationXyz⟩⟩

/-- `Vector3d::normalized`. -/
def unit3 (a : Vector R 3) : Vector R 3 :=
  if (0.0 : R) < dot3 a a then div3 a (norm3 a) else a

/-- `TriangulateTwoRays`. -/
def triangulateTwoRays (view1 : CameraView M R) (pixel1 : R × R) (view2 : CameraView M R)
    (pixel2 : R × R) (minParallaxDeg : R) : Except ProjectError (TriangulationCandidate R) := do
  let zero : Vector R 3 := .triple 0.0 0.0 0.0
  let rayC1 ← models.unproject view1.model pixel1
  let rayC2 ← models.unproject view2.model pixel2
  let rayW1 := rotateDirection view1.worldFromCamera.rotation rayC1
  let rayW2 := rotateDirection view2.worldFromCamera.rotation rayC2
  let origin1 := view1.worldFromCamera.translation
  let origin2 := view2.worldFromCamera.translation
  let e := sub3 origin2 origin1
  let a := dot3 rayW1 rayW1
  let b := dot3 rayW1 rayW2
  let c := dot3 rayW2 rayW2
  let d := dot3 rayW1 e
  let f := dot3 rayW2 e
  let denom := a * c - b * b
  let abs := if denom < (0.0 : R) then -denom else denom
  if abs < (1e-12 : R) then return ⟨zero, 0.0, .rejectedLowParallax⟩
  else
    let t := (c * d - b * f) / denom
    let s := (b * d - a * f) / denom
    let p1 := add3 origin1 (scale3 t rayW1)
    let p2 := add3 origin2 (scale3 s rayW2)
    let xyz := scale3 (0.5 : R) (add3 p1 p2)
    if !xyz.toList.all Double.isFinite then return ⟨zero, 0.0, .rejectedNonFinite⟩
    else
      let pC1 := view1.worldFromCamera.inverse.transformPoint xyz
      let pC2 := view2.worldFromCamera.inverse.transformPoint xyz
      if pC1 2 ≤ (0.0 : R) ∨ pC2 2 ≤ (0.0 : R) then return ⟨xyz, 0.0, .rejectedNegativeDepth⟩
      else
        let cosAngle := dot3 (unit3 rayW1) (unit3 rayW2)
        let below := if cosAngle < (1.0 : R) then cosAngle else 1.0
        let clamped := if -(1.0 : R) < below then below else -(1.0 : R)
        let angleDeg := models.acos clamped * (180.0 : R) / (3.14159265358979323846 : R)
        if angleDeg < minParallaxDeg then return ⟨xyz, angleDeg, .rejectedLowParallax⟩
        else return ⟨xyz, angleDeg, .accepted⟩

/-- `ComputePointReprojectionError`. The sum ends at the first camera that does not see the point. -/
def computePointReprojectionError (xyz : Vector R 3) (seen : List (CameraView M R × (R × R))) :
    Except ProjectError R :=
  sumErrors seen 0.0
where
  sumErrors : List (CameraView M R × (R × R)) → R → Except ProjectError R
    | [], sum => return if seen.isEmpty then 0.0 else sum / ((seen.length : Int) : R)
    | (view, keypoint) :: rest, sum => do
        let rotation := toRotationMatrix view.worldFromCamera.rotation
        let pC := mulVec3 (transpose3 rotation) (sub3 xyz view.worldFromCamera.translation)
        if pC 2 ≤ (0.0 : R) then return models.max
        else
          let projected ← models.project view.model pC
          if !Double.isFinite projected.1 || !Double.isFinite projected.2 then return models.max
          else
            let dx := keypoint.1 - projected.1
            let dy := keypoint.2 - projected.2
            sumErrors rest (sum + DoubleArith.sqrt (dx * dx + dy * dy))

end SpatialPlatform.Core.Geometry
