import SpatialPlatform.Core.Geometry.Triangulation
import SpatialPlatform.Lib.Tally

/-!
# Reprojection errors

`EvaluateReprojection` of `core/geometry/reprojection.h`: how far points are
seen from where they should be, observation by observation, and what that makes
for images, for points and for all. Errors of up to three medians, and always
those of up to two pixels, belong to inliers.
-/

namespace SpatialPlatform.Core.Geometry

open SpatialPlatform.Core SpatialPlatform.Lib

/-- `ReprojectionObservation`. -/
structure ReprojectionObservation (R : Type) where
  imageId : UInt32
  point3dId : UInt64
  keypoint2d : R × R

structure ReprojectionResidual (R : Type) where
  imageId : UInt32
  point3dId : UInt64
  point2dIdx : ℕ := 0
  residualPx : R
  inlier : Bool := false

structure PerImageReprojection (R : Type) where
  imageId : UInt32
  rmsePx : R
  meanErrorPx : R
  totalCount : ℕ
  inlierCount : ℕ
  outlierCount : ℕ

structure PerPointReprojection (R : Type) where
  point3dId : UInt64
  errorPx : R
  totalCount : ℕ
  inlierCount : ℕ

structure ReprojectionMetrics (R : Type) where
  rmsePx : R
  meanErrorPx : R
  medianErrorPx : R
  thresholdPx : R
  totalCount : ℕ
  inlierCount : ℕ
  outlierCount : ℕ
  perImage : List (PerImageReprojection R)
  perPoint : List (PerPointReprojection R)

section

variable {M R : Type} [DoubleArith R]

/-! ## One observation -/

/-- `ReprojectionThreshold`. -/
def reprojectionThreshold (medianErrorPx : R) : R :=
  let threshold := (3.0 : R) * medianErrorPx
  if (2.0 : R) < threshold then threshold else 2.0

/-- `ProjectPoint`. -/
def projectPoint (models : CameraModels M R) (view : CameraView M R) (xyz : Vector R 3) :
    Except ProjectError (R × R) :=
  models.project view.model (view.worldFromCamera.inverse.transformPoint xyz)

def isFinitePixel (pixel : R × R) : Bool := Double.isFinite pixel.1 && Double.isFinite pixel.2

/-- `ComputeObservationResidual`. -/
def computeObservationResidual (models : CameraModels M R) (view : CameraView M R)
    (xyz : Vector R 3) (keypoint : R × R) : Except ProjectError R :=
  if !isFinitePixel keypoint then
    throw ⟨.validationDomain, "reprojection: non-finite keypoint coordinate"⟩
  else do
    let projected ← projectPoint models view xyz
    if !isFinitePixel projected then
      throw ⟨.validationDomain, "reprojection: non-finite projected pixel"⟩
    else
      let dx := keypoint.1 - projected.1
      let dy := keypoint.2 - projected.2
      return DoubleArith.sqrt (dx * dx + dy * dy)

/-- An observation with its error. -/
def measure (models : CameraModels M R) (views : List (CameraView M R))
    (points : List (UInt64 × Vector R 3)) (obs : ReprojectionObservation R) :
    Except ProjectError (ReprojectionObservation R × R) := do
  match views.find? (·.imageId = obs.imageId) with
  | none => throw ⟨.validationDomain, "reprojection: observation references unknown image_id"⟩
  | some view =>
      match points.find? (·.1 = obs.point3dId) with
      | none => throw ⟨.validationDomain, "reprojection: observation references unknown point3d_id"⟩
      | some point =>
          let r ← computeObservationResidual models view point.2 obs.keypoint2d
          return (obs, r)

/-! ## Aggregates

Means, medians and counts of a list of errors, for all of them and for those of
one image or one point. -/

/-- The median of sorted errors. -/
def medianOfSorted (sorted : List R) : R :=
  let n := sorted.length
  let nth (i : ℕ) := sorted.getD i 0.0
  if n = 0 then 0.0
  else if n % 2 = 0 then (0.5 : R) * (nth (n / 2 - 1) + nth (n / 2)) else nth (n / 2)

def medianOf (residuals : List R) : R := medianOfSorted (residuals.insertionSort (· ≤ ·))

def inliersOf (threshold : R) (residuals : List R) : List R := residuals.filter (· ≤ threshold)

def outliersOf (threshold : R) (residuals : List R) : List R :=
  residuals.filter fun r => ¬ r ≤ threshold

def meanOf (errors : List R) : R :=
  if errors.isEmpty then 0.0 else errors.foldl (· + ·) 0.0 / ((errors.length : ℤ) : R)

def rmseOf (errors : List R) : R :=
  if errors.isEmpty then 0.0
  else DoubleArith.sqrt (errors.foldl (fun sum r => sum + r * r) 0.0 / ((errors.length : ℤ) : R))

/-- The ids that occur, each once, in ascending order. -/
def idsOf {ι : Type} [DecidableEq ι] [LE ι] [DecidableLE ι] (ids : List ι) : List ι :=
  (Tally.distinct ids).insertionSort (· ≤ ·)

/-- The errors of the observations that a key belongs to. -/
def residualsOf {ι : Type} [DecidableEq ι] (key : ReprojectionObservation R → ι)
    (measured : List (ReprojectionObservation R × R)) (id : ι) : List R :=
  (measured.filter fun m => key m.1 = id).map Prod.snd

def perImage (threshold : R) (measured : List (ReprojectionObservation R × R)) (imageId : UInt32) :
    PerImageReprojection R :=
  let residuals := residualsOf ReprojectionObservation.imageId measured imageId
  let inliers := inliersOf threshold residuals
  { imageId
    rmsePx := rmseOf inliers
    meanErrorPx := meanOf inliers
    totalCount := residuals.length
    inlierCount := inliers.length
    outlierCount := (outliersOf threshold residuals).length }

def perPoint (threshold : R) (measured : List (ReprojectionObservation R × R)) (point3dId : UInt64) :
    PerPointReprojection R :=
  let residuals := residualsOf ReprojectionObservation.point3dId measured point3dId
  let inliers := inliersOf threshold residuals
  { point3dId
    errorPx := meanOf inliers
    totalCount := residuals.length
    inlierCount := inliers.length }

/-- The metrics of all measured observations. -/
def metricsOf (measured : List (ReprojectionObservation R × R)) : ReprojectionMetrics R :=
  let residuals := measured.map Prod.snd
  let median := medianOf residuals
  let threshold := reprojectionThreshold median
  let inliers := inliersOf threshold residuals
  { rmsePx := rmseOf inliers
    meanErrorPx := meanOf inliers
    medianErrorPx := median
    thresholdPx := threshold
    totalCount := residuals.length
    inlierCount := inliers.length
    outlierCount := (outliersOf threshold residuals).length
    perImage := (idsOf (measured.map (·.1.imageId))).map (perImage threshold measured)
    perPoint := (idsOf (measured.map (·.1.point3dId))).map (perPoint threshold measured) }

/-- `EvaluateReprojection`, with the residuals that it can hand out. -/
def evaluateReprojection (models : CameraModels M R) (views : List (CameraView M R))
    (points : List (UInt64 × Vector R 3)) (observations : List (ReprojectionObservation R)) :
    Except ProjectError (ReprojectionMetrics R × List (ReprojectionResidual R)) := do
  let measured ← observations.mapM (measure models views points)
  let metrics := metricsOf measured
  return (metrics, measured.map fun m =>
    { imageId := m.1.imageId
      point3dId := m.1.point3dId
      residualPx := m.2
      inlier := m.2 ≤ metrics.thresholdPx })

end

end SpatialPlatform.Core.Geometry
