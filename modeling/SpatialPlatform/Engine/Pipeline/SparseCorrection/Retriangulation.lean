import SpatialPlatform.Engine.Pipeline.SparseCorrection.CorrectedPoses

/-!
# New points for corrected poses

Step 8 of `engine/pipeline/sparse_correction_runner.cpp`, with `Retriangulate`
of `core/geometry/triangulation.h` and the observations that the bundle
adjustment of step 9 gets. Both steps look up the keypoints of a track in the
same way and complain in slightly different words. The triangulation itself is a
parameter.
-/

namespace SpatialPlatform.Engine

open SpatialPlatform.Core SpatialPlatform.Lib
open SpatialPlatform.Core.Geometry (ReprojectionObservation)

/-- Where the keypoints of a frame are found. -/
structure ObservationSources (R : Type) where
  /-- The texts in `feature_artifacts` of the configuration. -/
  featurePins : String → Option String := fun _ => none
  /-- `FindFeatureSetsByFrame`, the references to the artifacts. -/
  featureSets : Uuid → Except ProjectError (List String) := fun _ => .ok []
  /-- `LoadFeatureDescriptors`, the keypoints. -/
  loadFeatures : Uuid → String → Except ProjectError (Option (List (R × R))) := fun _ _ => .ok none

/-- The words in which the two steps differ. -/
structure ObservationTexts where
  use : String
  observations : String
  trackObservation : String

def retriangulationTexts : ObservationTexts :=
  ⟨"re-triangulation", "observations", "track observation point2d_idx "⟩

def bundleAdjustmentTexts : ObservationTexts :=
  ⟨"bundle-adjustment", "bundle-adjustment observations",
    "bundle-adjustment track observation point2d_idx  "⟩

section

variable {R : Type} (texts : ObservationTexts) (sources : ObservationSources R)

/-- The artifact with the features of a frame. -/
def resolveArtifact (frameId : String) : Except ProjectError Uuid :=
  match sources.featurePins frameId with
  | some pin =>
      match parseUuid pin with
      | .ok artifact => return artifact
      | .error _ => throw (rejected ("feature_artifacts pin for frame '" ++ frameId ++
          "' is not a valid artifact UUID"))
  | none =>
      match parseUuid frameId with
      | .error _ => throw (rejected ("reconstruction frame_id '" ++ frameId ++
          "' is not a valid UUID; " ++ texts.observations ++ " cannot be resolved"))
      | .ok frame => do
          match ← sources.featureSets frame with
          | [] => throw (rejected ("frame '" ++ frameId ++ "' has no feature set; " ++ texts.use ++
              " observations cannot be resolved (fail closed, no fallback to source points)"))
          | [artifactRef] =>
              match parseUuid artifactRef with
              | .ok artifact => return artifact
              | .error _ => throw (rejected ("feature set of frame '" ++ frameId ++
                  "' carries a malformed artifact_ref"))
          | rows => throw (rejected ("frame '" ++ frameId ++ "' has " ++ toString rows.length ++
              " feature sets; pin one via feature_artifacts (ambiguous observation source fails closed)"))

/-- The keypoints of an image. -/
def resolveKeypoints (images : List (ReconImage R)) (imageId : UInt32) :
    Except ProjectError (List (R × R)) := do
  let frameId := ((images.find? (·.imageId = imageId)).map ReconImage.frameId).getD ""
  if frameId = "" then
    throw (rejected (texts.use ++ " track references unknown image_id " ++ toString imageId))
  else
    let artifact ← resolveArtifact texts sources frameId
    match ← sources.loadFeatures artifact frameId with
    | none => throw (rejected ("feature artifact of frame '" ++ frameId ++
        "' is absent from the CAS or is not a feature artifact"))
    | some keypoints => return keypoints

/-- The keypoint of one element of a track. -/
def resolveElement (images : List (ReconImage R)) (point3dId : UInt64) (element : TrackElement) :
    Except ProjectError (R × R) := do
  let keypoints ← resolveKeypoints texts sources images element.imageId
  let outside := rejected (texts.trackObservation ++ toString element.point2dIdx.toInt ++
    " of point " ++ toString point3dId ++ " is outside the resolved feature artifact")
  if element.point2dIdx.toInt < 0 then throw outside
  else match keypoints[element.point2dIdx.toInt.toNat]? with
    | none => throw outside
    | some keypoint => return keypoint

/-- The observations of all points in order, each made by `observe`. -/
def resolveObservations {α : Type} (source : Reconstruction R)
    (observe : UInt64 → TrackElement → R × R → α) : Except ProjectError (List α) := do
  let observations ← source.points3D.mapM fun point => point.track.mapM fun element => do
    let keypoint ← resolveElement texts sources source.images point.point3dId element
    return observe point.point3dId element keypoint
  return observations.flatten

/-- `BuildBundleAdjustmentObservations`. -/
def buildBundleAdjustmentObservations (source : Reconstruction R) :
    Except ProjectError (List (ReprojectionObservation R)) :=
  resolveObservations bundleAdjustmentTexts sources source fun point3dId element keypoint2d =>
    { imageId := element.imageId, point3dId, keypoint2d }

end

/-! ## The step

What the stage makes of retriangulated points: a document, a row, and a
transaction that replaces another row. -/

/-- `TriangulationObservation`. -/
structure TriangulationObservation (R : Type) where
  imageId : UInt32
  point2dIdx : Int32
  keypoint2d : R × R

/-- What the triangulation accepts, with the counts of `RetriangulationLineageSummary`. -/
structure RetriangulatedPoints (R : Type) where
  points3D : List (ReconPoint3D R)
  preservedCount : Int64 := 0
  replacedCount : Int64 := 0
  newCount : Int64 := 0
  rejectedCount : Int64 := 0

variable {R : Type}

/-- The provenance that `Retriangulate` gives its document. -/
def retriangulatedProvenance (v2 : Reconstruction R) : ReconstructionProvenance :=
  let hashes := v2.provenance.inputArtifactHashes
  { backend := ⟨"spatial_retriangulator", "1.0.0", "1.0.0"⟩
    inputArtifactHashes :=
      (if v2.reconstructionId = "" ∨ v2.reconstructionId ∈ hashes then hashes
        else hashes ++ [v2.reconstructionId]).insertionSort (· ≤ ·) }

/-- The document of `Retriangulate`; `reconstructionId` is what `GenerateUuid` returns. -/
def retriangulate (v2 : Reconstruction R) (points3D : List (ReconPoint3D R)) (reconstructionId : Uuid) :
    Reconstruction R :=
  { v2 with
    reconstructionId := formatUuid reconstructionId
    status := "succeeded"
    createdAtNs := 0
    provenance := retriangulatedProvenance v2
    points3D }

/-- The document that `MaybeRetriangulateAppliedRevision` inserts. -/
def retriangulatedDocument (sources : ObservationSources R)
    (triangulate : Reconstruction R → List (TriangulationObservation R) →
      Except ProjectError (RetriangulatedPoints R))
    (reconstructionId : Uuid) (source : Reconstruction R) : Except ProjectError (Reconstruction R) := do
  let observations ← resolveObservations retriangulationTexts sources source
    fun _ element keypoint2d => ⟨element.imageId, element.point2dIdx, keypoint2d⟩
  let result ← triangulate source observations
  if result.points3D.isEmpty then
    throw (rejected ("re-triangulation accepted no points under the corrected poses (rejected " ++
      toString result.rejectedCount.toInt ++ "); refusing to persist an empty-geometry revision"))
  else
    let v3 := retriangulate source result.points3D reconstructionId
    return { v3 with
      -- the clock that keeps the chain of revisions going
      createdAtNs := source.createdAtNs + 100
      provenance := { v3.provenance with
        backendSpecificJson := "\x7b\"preserved\":" ++ toString result.preservedCount.toInt ++
          ",\"replaced\":" ++ toString result.replacedCount.toInt ++
          ",\"new\":" ++ toString result.newCount.toInt ++
          ",\"rejected\":" ++ toString result.rejectedCount.toInt ++ "\x7d" } }

variable [Double R]

/-- The row of a document in place of that of another, in one transaction. -/
def replaceDocument (codec : ReconstructionCodec R) (sceneId : Uuid) (fault : Option ProjectError)
    (document source : Reconstruction R) : RevisionM Unit := do
  let reconstructionId ← attempt (parseUuid document.reconstructionId)
  writeTransaction fault <| replaceRevision
    (revisionRow codec document reconstructionId sceneId document.status document.createdAtNs)
    source.reconstructionId

end SpatialPlatform.Engine
