import SpatialPlatform.Adapters.Gtsam.OptimizerAdapter
import SpatialPlatform.Core.Geometry.CameraModel
import SpatialPlatform.Engine.Pipeline.SparseCorrection.BundleAdjustment

/-!
# The bundle adjustment by GTSAM

`adapters/gtsam/gtsam_bundle_adjustment_optimizer.cpp`. Everything before the
solver may throw, with an error of its own or of GTSAM; the evaluation of the
errors and the solver stand in a `try`, and what reads the result does not.
-/

namespace SpatialPlatform.Adapters.Gtsam

open SpatialPlatform.Core SpatialPlatform.Lib SpatialPlatform.Core.Geometry
open SpatialPlatform.Engine (BundleAdjustmentInput BundleAdjustmentTrace)

/-- An error that the adapter reports itself, or what a call of the solver throws. -/
inductive AdjustmentException where
  | typed (e : ProjectError)
  | solver (e : SolverException)

/-- A call of the repository. -/
def typed {α : Type} (x : Except ProjectError α) : Except AdjustmentException α := x.mapError .typed

/-- A call of GTSAM outside a `try`. -/
def call {α : Type} (x : Except SolverException α) : Except AdjustmentException α := x.mapError .solver

/-! ## GTSAM -/

/-- `GenericProjectionFactor` and `PriorFactor<Pose3>`. -/
inductive AdjustmentFactor (R Pose Calibration Noise : Type) where
  | projection (measured : R × R) (noise : Noise) (pose point : UInt64) (calibration : Calibration)
  | prior (key : UInt64) (pose : Pose) (noise : Noise)

/-- The calls of GTSAM. -/
structure AdjustmentCalls (R : Type) where
  Pose : Type
  Calibration : Type
  Noise : Type
  Values : Type
  Optimizer : Type
  /-- `Symbol('x', id)`. -/
  poseKey : UInt32 → Except SolverException UInt64
  /-- `Symbol('p', id)`. -/
  pointKey : UInt64 → Except SolverException UInt64
  /-- A robust noise of some scale. -/
  robust : R → Except SolverException Noise
  sigmas : Vector R 6 → Except SolverException Noise
  /-- `Cal3DS2` of the focal lengths, the skew, the principal point and the distortion. -/
  calibration : Vector R 9 → Except SolverException Calibration
  pose : Vector R 4 → Vector R 3 → Except SolverException Pose
  parts : Pose → Except SolverException (Vector R 4 × Vector R 3)
  add : AdjustmentFactor R Pose Calibration Noise → Except SolverException Unit
  /-- `Values()`. -/
  noValues : Values
  insertPose : Values → UInt64 → Pose → Except SolverException Values
  insertPoint : Values → UInt64 → Vector R 3 → Except SolverException Values
  poseAt : Values → UInt64 → Except SolverException Pose
  pointAt : Values → UInt64 → Except SolverException (Vector R 3)
  error : List (AdjustmentFactor R Pose Calibration Noise) → Values → Except SolverException R
  optimizer : List (AdjustmentFactor R Pose Calibration Noise) → Values → LevenbergMarquardtParams R →
    Except SolverException Optimizer
  /-- `LevenbergMarquardtOptimizer::optimize`. -/
  run : Optimizer → Except SolverException Values
  iterations : Optimizer → Except SolverException UInt64
  /-- The last iterate that the optimizer has accepted. -/
  accepted : Optimizer → Values

/-! ## Options and results -/

structure BundleAdjustmentOptions (R : Type) where
  robustLoss : String := "huber"
  robustLossScalePx : R

/-- `BundleAdjustmentTrace`, with all its fields. -/
structure AdjustmentTrace (R : Type) extends BundleAdjustmentTrace R where
  converged : Bool
  iterations : Int64
  meanBeforePx : R
  meanAfterPx : R
  inlierCountBefore : Int64
  outlierCountBefore : Int64
  inlierCountAfter : Int64
  thresholdPxBefore : R
  thresholdPxAfter : R

/-- `BundleAdjustmentResult`. -/
structure AdjustmentResult (R : Type) where
  reconstruction : Reconstruction R
  trace : AdjustmentTrace R

/-- What the adapter gets from elsewhere: how a number is printed, the version
that the build gives it, the text that `nlohmann::json` makes of its statistics,
and a new identifier. -/
structure AdjustmentTexts (R : Type) where
  print : R → List Char
  adapterVersion : String
  statsJson : BundleAdjustmentOptions R → R → String → AdjustmentTrace R → String
  newId : String

section

variable {R : Type} [DoubleTrig R] (c : AdjustmentCalls R) (texts : AdjustmentTexts R)
  (options : BundleAdjustmentOptions R) (input : BundleAdjustmentInput R)

/-! ## Before the solver

The calls of GTSAM are members of a record, and each of them may throw. In front
of the `try` there is no handler, so what throws here leaves the optimizer. -/

/-- `CalibrationFromCamera`. -/
def calibrationFromCamera (camera : ReconCamera R) : Except AdjustmentException c.Calibration := do
  let model ← typed (CameraModel.fromReconCamera camera)
  let (k1, k2, p1, p2) ← typed <|
    match model.distortion with
    | .pinhole => .ok ((0.0 : R), (0.0 : R), (0.0 : R), (0.0 : R))
    | .openCvRadial k1 k2 p1 p2 k3 =>
        if camera.distortionCoefficients.length = 5 ∧ (k3 < (0.0 : R) ∨ (0.0 : R) < k3) then
          .error ⟨.validationDomain, "gtsam bundle adjustment: opencv_radial k3 coefficient is not " ++
            "representable by Cal3DS2; the model fails closed instead of being approximated (use the " ++
            "COLMAP backend for k3 models)"⟩
        else .ok (k1, k2, p1, p2)
    | _ => .error ⟨.validationDomain, "gtsam bundle adjustment: camera model '" ++
        camera.intrinsicModel ++ "' is not representable by Cal3DS2; the model fails closed instead " ++
        "of being approximated (use the COLMAP backend)"⟩
  call (c.calibration #v[camera.fx, camera.fy, 0.0, camera.cx, camera.cy, k1, k2, p1, p2])

/-- `BuildCalibrations`. -/
def buildCalibrations : Except AdjustmentException (List (UInt32 × c.Calibration)) :=
  input.source.cameras.mapM fun camera => return (camera.cameraId, ← calibrationFromCamera c camera)

/-- `camera_by_image`. -/
def cameraByImage (calibrations : List (UInt32 × c.Calibration)) :
    Except AdjustmentException (List (UInt32 × c.Calibration)) :=
  input.source.images.mapM fun image =>
    match calibrations.find? (·.1 = image.cameraId) with
    | some (_, calibration) => return (image.imageId, calibration)
    | none => throw <| .typed ⟨.validationDomain,
        "gtsam bundle adjustment: image references unknown camera_id " ++ toString image.cameraId⟩

def adjustmentValues : Except SolverException c.Values := do
  let poses ← input.source.images.foldlM (fun values image => do
    let pose ← c.pose image.pose.rotationXyzw image.pose.translationXyz
    c.insertPose values (← c.poseKey image.imageId) pose) c.noValues
  input.source.points3D.foldlM (fun values point => do
    c.insertPoint values (← c.pointKey point.point3dId) point.xyz) poses

def projectionFactor (robust : c.Noise) (cameras : List (UInt32 × c.Calibration))
    (obs : ReprojectionObservation R) :
    Except AdjustmentException (AdjustmentFactor R c.Pose c.Calibration c.Noise) :=
  match cameras.find? (·.1 = obs.imageId) with
  | none => throw <| .typed ⟨.validationDomain,
      "gtsam bundle adjustment: observation references unknown image_id " ++ toString obs.imageId⟩
  | some (_, calibration) => call do
      let factor := AdjustmentFactor.projection obs.keypoint2d robust (← c.poseKey obs.imageId)
        (← c.pointKey obs.point3dId) calibration
      c.add factor
      return factor

/-- The prior on the pose of the image with the lowest id. -/
def gaugeAnchor : Except SolverException (List (AdjustmentFactor R c.Pose c.Calibration c.Noise)) :=
  match input.source.images with
  | [] => return []
  | first :: rest => do
      let lowest := rest.foldl (fun lowest image =>
        if image.imageId < lowest.imageId then image else lowest) first
      let noise ← c.sigmas (Vector.replicate 6 1e-3)
      let factor := AdjustmentFactor.prior (← c.poseKey lowest.imageId)
        (← c.pose lowest.pose.rotationXyzw lowest.pose.translationXyz) noise
      c.add factor
      return [factor]

/-- What there is when the solver is called. -/
structure Prepared where
  before : ReprojectionMetrics R
  lossScale : R
  graph : List (AdjustmentFactor R c.Pose c.Calibration c.Noise)
  start : c.Values
  optimizer : c.Optimizer

/-- The points of a document. -/
def reconstructionPoints (document : Reconstruction R) : List (UInt64 × Vector R 3) :=
  document.points3D.map fun point => (point.point3dId, point.xyz)

/-- The metrics of a geometry over the observations. -/
def evaluate (document : Reconstruction R) : Except ProjectError (ReprojectionMetrics R) := do
  let views ← initializeReprojectionViews cameraModels document
  let metrics ← evaluateReprojection cameraModels views (reconstructionPoints document) input.observations
  return metrics.1

def requireSeed : Except ProjectError Unit :=
  if input.randomSeed.getD "" = "" then
    .error ⟨.validationDomain,
      "gtsam bundle adjustment requires a pinned non-empty random_seed (8c D6/P9)"⟩
  else .ok ()

/-- `loss_scale`: that of the options, or the threshold of the source. -/
def lossScaleOf (before : ReprojectionMetrics R) : R :=
  if (0.0 : R) < options.robustLossScalePx then options.robustLossScalePx else before.thresholdPx

/-- `optimize`, up to the `try`. -/
def prepare : Except AdjustmentException (Prepared c) := do
  let _ ← typed (requireSeed input)
  let before ← typed (evaluate input input.source)
  let lossScale := lossScaleOf options before
  let robust ← call (c.robust lossScale)
  let calibrations ← buildCalibrations c input
  let cameras ← cameraByImage c input calibrations
  let start ← call (adjustmentValues c input)
  let factors ← input.observations.mapM (projectionFactor c robust cameras)
  let anchor ← call (gaugeAnchor c input)
  let graph := factors ++ anchor
  let optimizer ← call <| c.optimizer graph start
    { lambdaInitial := 1e-4
      lambdaFactor := 10.0
      maxIterations := (Int64.ofInt input.maxIterations).toUInt64
      relativeErrorTol := 1e-9
      absoluteErrorTol := 1e-9 }
  return { before, lossScale, graph, start, optimizer }

/-! ## The solver -/

/-- What the `try` leaves. -/
structure Attempt where
  initialError : R
  finalError : R
  values : c.Values
  threw : Bool

/-- The `try`: an error, the solver, an error. -/
def attempt (prepared : Prepared c) : Attempt c :=
  match c.error prepared.graph prepared.start with
  | .error _ => ⟨0.0, 0.0, c.noValues, true⟩
  | .ok initialError =>
      match c.run prepared.optimizer with
      | .error _ => ⟨initialError, 0.0, c.noValues, true⟩
      | .ok values =>
          match c.error prepared.graph values with
          | .error _ => ⟨initialError, 0.0, values, true⟩
          | .ok finalError => ⟨initialError, finalError, values, false⟩

/-! ## After the solver

The values are read behind the `try`, image by image and point by point. The
metrics and the iterations are asked for last, and are no longer caught either. -/

def refinedImage (values : c.Values) (image : ReconImage R) : Except SolverException (ReconImage R) := do
  let pose ← c.poseAt values (← c.poseKey image.imageId)
  let (rotation, translation) ← c.parts pose
  return { image with pose := { rotationXyzw := rotation, translationXyz := translation } }

def refinedPoint (values : c.Values) (point : ReconPoint3D R) :
    Except SolverException (ReconPoint3D R) := do
  return { point with xyz := ← c.pointAt values (← c.pointKey point.point3dId) }

/-- The images and points at which some values put them. -/
def refined (values : c.Values) : Except SolverException (List (ReconImage R) × List (ReconPoint3D R)) := do
  let images ← input.source.images.mapM (refinedImage c values)
  let points ← input.source.points3D.mapM (refinedPoint c values)
  return (images, points)

/-- The document before its metrics are known. -/
def refinedDocument (images : List (ReconImage R)) (points3D : List (ReconPoint3D R)) :
    Reconstruction R where
  reconstructionId := texts.newId
  sceneId := input.source.sceneId
  sessionIds := input.source.sessionIds
  coordinateFrame := input.source.coordinateFrame
  status := "succeeded"
  createdAtNs := input.source.createdAtNs + 100
  cameras := input.source.cameras
  images
  points3D

/-- Whether the solver is taken to have converged. -/
def converges (iterations : UInt64) (initialError finalError rmse : R) : Bool :=
  decide (0 < iterations) && Double.isFinite initialError && Double.isFinite finalError &&
    !(decide ((10.0 : R) * initialError < finalError) && decide ((0.0 : R) < initialError)) &&
    Double.isFinite rmse

def adjustmentTrace (before after : ReprojectionMetrics R) (attempt : Attempt c) (iterations : UInt64) :
    AdjustmentTrace R where
  converged := converges iterations attempt.initialError attempt.finalError after.rmsePx
  iterations := iterations.toInt64
  rmsBeforePx := before.rmsePx
  rmsAfterPx := after.rmsePx
  meanBeforePx := before.meanErrorPx
  meanAfterPx := after.meanErrorPx
  inlierCountBefore := Int64.ofNat before.inlierCount
  outlierCountBefore := Int64.ofNat before.outlierCount
  inlierCountAfter := Int64.ofNat after.inlierCount
  outlierCountAfter := Int64.ofNat after.outlierCount
  thresholdPxBefore := before.thresholdPx
  thresholdPxAfter := after.thresholdPx

/-- `ConfigurationHash`: `Sha256Hex` hashes the digest of the hasher again. -/
def adjustmentHash (lossScale : R) : String :=
  let hashed := "robust_loss:" ++ options.robustLoss ++ ";scale:" ++
    String.ofList (texts.print lossScale) ++ ";seed:" ++ input.randomSeed.getD "" ++
    ";max_iterations:" ++ toString input.maxIterations
  sha256Hex (Sha256.update {} (stringBytes hashed)).final

/-- `BuildProvenance`. -/
def adjustmentProvenance (lossScale : R) (trace : AdjustmentTrace R) : ReconstructionProvenance :=
  let source := input.source
  let hashes := source.provenance.inputArtifactHashes
  { backend :=
      { name := "spatial_gtsam_bundle_adjuster"
        version := texts.adapterVersion
        adapterVersion := texts.adapterVersion }
    configurationHash := adjustmentHash texts options input lossScale
    inputArtifactHashes := (if source.reconstructionId ∈ hashes then hashes
      else hashes ++ [source.reconstructionId]).insertionSort (· ≤ ·)
    engineVersion := source.provenance.engineVersion
    engineCommit := source.provenance.engineCommit
    gitCommit := source.provenance.gitCommit
    backendSpecificJson := texts.statsJson options lossScale (input.randomSeed.getD "") trace }

/-- The mean errors of the points that are observed. -/
def refreshedPoint (after : ReprojectionMetrics R) (point : ReconPoint3D R) : ReconPoint3D R :=
  match after.perPoint.find? (·.point3dId = point.point3dId) with
  | some perPoint => { point with error := perPoint.errorPx }
  | none => point

/-- What is returned once the metrics and the iterations are known. -/
def adjustmentResult (prepared : Prepared c) (attempt : Attempt c) (images : List (ReconImage R))
    (points : List (ReconPoint3D R)) (after : ReprojectionMetrics R) (iterations : UInt64) :
    AdjustmentResult R :=
  let trace := adjustmentTrace c prepared.before after attempt iterations
  { reconstruction := { refinedDocument texts input images points with
      points3D := points.map (refreshedPoint after)
      provenance := adjustmentProvenance texts options input prepared.lossScale trace }
    trace }

/-- `optimize`, after the `try`. -/
def finish (prepared : Prepared c) (attempt : Attempt c) :
    Except AdjustmentException (AdjustmentResult R) := do
  let (images, points) ← call (refined c input attempt.values)
  let after ← typed (evaluate input (refinedDocument texts input images points))
  let iterations ← call (c.iterations prepared.optimizer)
  return adjustmentResult c texts options input prepared attempt images points after iterations

/-- `GtsamBundleAdjustmentOptimizer::optimize`. -/
def adjustBundle : Except AdjustmentException (AdjustmentResult R) := do
  let prepared ← prepare c options input
  finish c texts options input prepared (attempt c prepared)

/-- The refined document is 100 later than its source. -/
theorem createdAtNs_of_adjustBundle {result : AdjustmentResult R}
    (h : adjustBundle c texts options input = .ok result) :
    result.reconstruction.createdAtNs = input.source.createdAtNs + 100 := by
  obtain ⟨prepared, _, h⟩ := Core.bind_eq_ok h
  obtain ⟨⟨images, points⟩, _, h⟩ := Core.bind_eq_ok h
  obtain ⟨after, _, h⟩ := Core.bind_eq_ok h
  obtain ⟨iterations, _, h⟩ := Core.bind_eq_ok h
  cases h
  rfl

end

end SpatialPlatform.Adapters.Gtsam
