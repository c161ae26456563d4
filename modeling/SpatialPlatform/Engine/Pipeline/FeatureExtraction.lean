import SpatialPlatform.Core.ArtifactStore
import SpatialPlatform.Core.Json

/-!
# Feature extraction payloads

`engine/pipeline/feature_extraction.{h,cpp}`: the canonical payload of a
`FeatureArtifact`. The rows of `feature_sets` and the manifest do not enter the
payload and are left out.
-/

namespace SpatialPlatform.Engine

open SpatialPlatform.Core

/-- `FeaturePoint`. -/
structure FeaturePoint where
  x : Float := 0
  y : Float := 0
  size : Float := 0
  angle : Float := 0
  response : Float := 0
  deriving DecidableEq

/-- `WriteFeatureArtifactInput`, as far as the payload shows it. -/
structure WriteFeatureArtifactInput where
  detector : String
  descriptorType : String
  keypoints : List FeaturePoint
  descriptors : List (List Float)

/-- `KeypointJson`. -/
def keypointJson (p : FeaturePoint) : Json :=
  .object [("x", .float p.x), ("y", .float p.y), ("size", .float p.size), ("angle", .float p.angle),
    ("response", .float p.response)]

/-- The `descriptors` of a payload: one array per row. -/
def descriptorsJson (rows : List (List Float)) : Json :=
  .arr (rows.map fun row => .arr (row.map .float))

/-- The `payload_json` of `WritePayload`. -/
def featurePayload (input : WriteFeatureArtifactInput) : Json :=
  .object [
    ("detector", .str input.detector),
    ("descriptor_type", .str input.descriptorType),
    ("count", .int input.keypoints.length),
    ("keypoints", .arr (input.keypoints.map keypointJson)),
    ("descriptors", descriptorsJson input.descriptors),
    ("schema_version", .int 1)]

/-- `WriteFeatureArtifactPayload`: the content hash of the payload. -/
def writeFeatureArtifactPayload (jsonLib : JsonLibrary) (input : WriteFeatureArtifactInput) :
    Except ProjectError String :=
  if input.keypoints.length ≠ input.descriptors.length then
    throw ⟨.validationDomain, "feature extraction: keypoints/descriptors length mismatch"⟩
  else return ArtifactStore.put (stringBytes (jsonLib.dump none (featurePayload input)))

theorem descriptorsJson_injective : Function.Injective descriptorsJson := by
  have hrow : Function.Injective fun row : List Float => Json.arr (row.map .float) :=
    fun row₁ row₂ h => List.map_injective_iff.mpr (fun _ _ => Json.float.inj) (Json.arr.inj h)
  intro rows₁ rows₂ h
  exact List.map_injective_iff.mpr hrow (Json.arr.inj h)

/-- A payload shows its descriptors. -/
theorem featurePayload_descriptors {input₁ input₂ : WriteFeatureArtifactInput}
    (h : featurePayload input₁ = featurePayload input₂) :
    input₁.descriptors = input₂.descriptors := by
  apply descriptorsJson_injective
  apply Json.object_inj "descriptors" h
  · simp
  · simp

end SpatialPlatform.Engine
