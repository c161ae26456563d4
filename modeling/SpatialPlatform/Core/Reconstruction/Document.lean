import SpatialPlatform.Core.Basic

/-!
# Reconstruction documents

`core/reconstruction/reconstruction.h`. The numbers that the source keeps in a
`double` are of a type `R` with the operations of `Double`; the geometry that
goes beyond them is a parameter wherever it is used, and so is reading and
writing a document as JSON.
-/

namespace SpatialPlatform.Core

/-- The operations on `double` that comparisons of the modelled code need. -/
class Double (R : Type) extends Add R, Mul R, LT R, LE R, OfScientific R, IntCast R where
  decidableLT : DecidableLT R
  decidableLE : DecidableLE R
  isFinite : R → Bool
  /-- A stream with precision 6. -/
  formatNumber : R → String

instance instDecidableLTOfDouble {R : Type} [Double R] : DecidableLT R := Double.decidableLT

instance instDecidableLEOfDouble {R : Type} [Double R] : DecidableLE R := Double.decidableLE

structure ReconPose (R : Type) where
  rotationXyzw : Vector R 4
  translationXyz : Vector R 3

structure ReconCamera (R : Type) where
  cameraId : UInt32 := 0
  width : Int64 := 0
  height : Int64 := 0
  intrinsicModel : String
  fx : R
  fy : R
  cx : R
  cy : R
  distortionModel : String
  distortionCoefficients : List R := []
  calibrationRef : String := ""

/-- `name` holds the bytes of the file name, which need not be the encoding of a text. -/
structure ReconImage (R : Type) where
  imageId : UInt32 := 0
  cameraId : UInt32 := 0
  frameId : String := ""
  name : List UInt8 := []
  pose : ReconPose R
  detected : Bool := false

/-- `ReconPoint3D::TrackElement`: an image that shows the point, and the keypoint there. -/
structure TrackElement where
  imageId : UInt32 := 0
  point2dIdx : Int32 := 0

structure ReconPoint3D (R : Type) where
  point3dId : UInt64 := 0
  xyz : Vector R 3
  color : Vector UInt8 3
  error : R
  track : List TrackElement := []

/-- `ReconstructionProvenance::BackendInfo`. -/
structure BackendInfo where
  name : String := ""
  version : String := ""
  adapterVersion : String := ""

structure ReconstructionProvenance where
  backend : BackendInfo := {}
  configurationHash : String := ""
  inputArtifactHashes : List String := []
  engineVersion : String := ""
  engineCommit : String := ""
  gitCommit : String := ""
  startedAtNs : Int64 := 0
  finishedAtNs : Int64 := 0
  durationNs : Int64 := 0
  backendSpecificJson : String := ""

/-- The identifiers are texts, as they stand in the document. -/
structure Reconstruction (R : Type) where
  reconstructionId : String := ""
  sceneId : String := ""
  sessionIds : List String := []
  coordinateFrame : String := ""
  status : String := ""
  createdAtNs : Int64 := 0
  provenance : ReconstructionProvenance := {}
  cameras : List (ReconCamera R) := []
  images : List (ReconImage R) := []
  points3D : List (ReconPoint3D R) := []

/-- `ReconstructionToJson` and `ReconstructionFromJson`; `none` where the latter throws. -/
structure ReconstructionCodec (R : Type) where
  toJson : Reconstruction R → String
  fromJson : String → Option (Reconstruction R)

end SpatialPlatform.Core
