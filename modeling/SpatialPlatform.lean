import SpatialPlatform.Lib.Machine
import SpatialPlatform.Engine.Task.TopologicalOrder
import SpatialPlatform.Engine.Cache.TaskCache
import SpatialPlatform.Engine.Workers.Handle
import SpatialPlatform.Engine.Scheduler.Step
import SpatialPlatform.Engine.Scheduler.Moves
import SpatialPlatform.Engine.Scheduler.Runs
import SpatialPlatform.Engine.Scheduler.Progress
import SpatialPlatform.Engine.Scheduler.Reports
import SpatialPlatform.Engine.Scheduler.Semantics
import SpatialPlatform.Engine.Workers.Framing
import SpatialPlatform.Lib.Writers
import SpatialPlatform.Adapters.Colmap.Output
import SpatialPlatform.Adapters.Colmap.Cancellation
import SpatialPlatform.Engine.Workers.Channel
import SpatialPlatform.Engine.Scheduler.Attempts
import SpatialPlatform.Engine.Workers.InProcessExecutor
import SpatialPlatform.Engine.Scheduler.Executors
import SpatialPlatform.Engine.Scheduler.Provenance
import SpatialPlatform.Core.Json
import SpatialPlatform.Core.JsonAccess
import SpatialPlatform.Core.Sha256
import SpatialPlatform.Engine.Pipeline.Quality.QualityReport
import SpatialPlatform.Core.ArtifactStore
import SpatialPlatform.Engine.Pipeline.FeatureExtraction
import SpatialPlatform.Engine.Workers.MockPipelineRunner
import SpatialPlatform.Lib.Binary64
import SpatialPlatform.Lib.Separated
import SpatialPlatform.Lib.XorLinear
import SpatialPlatform.Engine.Cache.Soundness
import SpatialPlatform.Core.Storage.Calibrations
import SpatialPlatform.Core.Storage.Scenes
import SpatialPlatform.Core.Artifacts.StoreState
import SpatialPlatform.Core.Artifacts.Retention
import SpatialPlatform.Engine.Cache.Backing
import SpatialPlatform.Core.Storage.ProjectTables
import SpatialPlatform.Importers.Images.ImageImporter
import SpatialPlatform.Importers.Images.ArtifactRefs
import SpatialPlatform.Core.Project.Handles
import SpatialPlatform.Core.Project.SingleWriter
import SpatialPlatform.Engine.Workers.Python.DemoWorker
import SpatialPlatform.Engine.Workers.Python.Handover
import SpatialPlatform.Engine.Cache.WarmRun
import SpatialPlatform.Core.Reconstruction.Document
import SpatialPlatform.Core.Trajectory.ReconstructionFeedback
import SpatialPlatform.Lib.Numerals
import SpatialPlatform.Core.UuidText
import SpatialPlatform.Core.Storage.Reconstructions
import SpatialPlatform.Engine.Pipeline.SparseCorrection.BundleAdjustment
import SpatialPlatform.Engine.Pipeline.SparseCorrection.CorrectedPoses
import SpatialPlatform.Engine.Pipeline.SparseCorrection.Retriangulation
import SpatialPlatform.Engine.Pipeline.SparseCorrection.Stage
import SpatialPlatform.Engine.Pipeline.SparseCorrection.Revisions
import SpatialPlatform.Engine.Pipeline.SparseCorrection.OneSucceeded
import SpatialPlatform.Engine.Pipeline.SparseCorrection.Clock
import SpatialPlatform.Core.Geometry.SE3
import SpatialPlatform.Core.Coordinates.FrameGraph
import SpatialPlatform.Lib.ByteFormat
import SpatialPlatform.Adapters.Colmap.Converter
import SpatialPlatform.Adapters.Colmap.ModelFormat
import SpatialPlatform.Adapters.Colmap.Reservations
import SpatialPlatform.Adapters.Colmap.CanonicalModel
import SpatialPlatform.Adapters.Colmap.ModelWriter
import SpatialPlatform.Adapters.Colmap.WrittenModel
import SpatialPlatform.Adapters.Colmap.RoundTrip
import SpatialPlatform.Core.Artifacts.Provenance
import SpatialPlatform.Lib.FileTree
import SpatialPlatform.Core.Utils.Fs
import SpatialPlatform.Core.Artifacts.ManifestText
import SpatialPlatform.Core.Artifacts.StoreFiles
import SpatialPlatform.Core.Geometry.DirectionMath
import SpatialPlatform.Core.Trajectory.PoseGraphHelpers
import SpatialPlatform.Engine.Pipeline.LoopClosureToPoseGraph
import SpatialPlatform.Core.Geometry.ExactRotations
import SpatialPlatform.Adapters.VisualGeometry.EssentialVerifier
import SpatialPlatform.Adapters.VisualGeometry.MeasuredEdges
import SpatialPlatform.Core.Geometry.Triangulation
import SpatialPlatform.Engine.Pipeline.SparseCorrection.PointIds
import SpatialPlatform.Importers.Trajectory.TumFormat
import SpatialPlatform.Importers.Trajectory.TrajectoryImporter
import SpatialPlatform.Importers.Trajectory.Rollback
import SpatialPlatform.Core.Artifacts.Held
import SpatialPlatform.Importers.Trajectory.SecondImport
import SpatialPlatform.Lib.Checked
import SpatialPlatform.Importers.Images.ImageFormat
import SpatialPlatform.Importers.Images.TiffDirectory
import SpatialPlatform.Importers.Images.HeaderBounds
import SpatialPlatform.Importers.Images.FormatAgreement
import SpatialPlatform.Core.Reconstruction.ReconstructionJson
import SpatialPlatform.Lib.Batch
import SpatialPlatform.Importers.Images.Recording
import SpatialPlatform.Importers.Images.ImportOrder
import SpatialPlatform.Engine.Task.Calls
import SpatialPlatform.Engine.Task.Serialization
import SpatialPlatform.Engine.Cache.Key
import SpatialPlatform.Engine.Pipeline.SparseCorrection.RevisionStep
import SpatialPlatform.Engine.Scheduler.Silence
import SpatialPlatform.Engine.Scheduler.AttemptNumbers
import SpatialPlatform.Engine.Scheduler.Depth
import SpatialPlatform.Engine.Execution.ExecutionRecord
import SpatialPlatform.Lib.Insertion
import SpatialPlatform.Engine.Workers.ForwardCompatibility
import SpatialPlatform.Lib.Interrupted
import SpatialPlatform.Core.Project.Integrity
import SpatialPlatform.Core.Project.WholePayloads
import SpatialPlatform.Core.Project.InterruptedPuts
import SpatialPlatform.Lib.Blocks
import SpatialPlatform.Lib.SecureHash
import SpatialPlatform.Core.Utils.Sha256Block
import SpatialPlatform.Core.Utils.Sha256Stream
import SpatialPlatform.Lib.Varint
import SpatialPlatform.Engine.Workers.Python.SpatialWire
import SpatialPlatform.Importers.Trajectory.Timestamps
import SpatialPlatform.Importers.Images.JpegMarkers
import SpatialPlatform.Importers.Images.UnsupportedEntries
import SpatialPlatform.Adapters.Colmap.ModelChecks
import SpatialPlatform.Adapters.Colmap.WriterFailures
import SpatialPlatform.Adapters.Colmap.TrackConsistency
import SpatialPlatform.Lib.Binary64Value
import SpatialPlatform.Core.Reconstruction.DocumentShape
import SpatialPlatform.Core.Reconstruction.FailsClosed
import SpatialPlatform.Lib.Replace
import SpatialPlatform.Lib.Uniform
import SpatialPlatform.Core.Utils.UuidV5
import SpatialPlatform.Core.Trajectory.PoseGraphAssembly
import SpatialPlatform.Core.Storage.TrajectoryTables
import SpatialPlatform.Engine.Pipeline.LoopClosureOptimize
import SpatialPlatform.Engine.Pipeline.LoopClosureRuns
import SpatialPlatform.Lib.LeadingMinors
import SpatialPlatform.Core.Trajectory.InformationMatrix
import SpatialPlatform.Core.Geometry.CameraModel
import SpatialPlatform.Core.Geometry.TwoRays
import SpatialPlatform.Core.Trajectory.FeedbackLaw
import SpatialPlatform.Lib.ArgumentVector
import SpatialPlatform.Adapters.Process.CommandLine
import SpatialPlatform.Lib.OrderedMap
import SpatialPlatform.Adapters.Process.EnvironmentBlock
import SpatialPlatform.Lib.Ranking
import SpatialPlatform.Core.LoopClosure.CandidateGen
import SpatialPlatform.Lib.Fallible
import SpatialPlatform.Lib.Tally
import SpatialPlatform.Core.Geometry.Reprojection
import SpatialPlatform.Core.Geometry.ReprojectionLaw
import SpatialPlatform.Core.JsonPrinted
import SpatialPlatform.Engine.Pipeline.Quality.ReportReader
import SpatialPlatform.Adapters.Colmap.ColmapConfig
import SpatialPlatform.Adapters.Colmap.AcceptedConfig
import SpatialPlatform.Engine.Pipeline.SparseCorrection.Cheirality
import SpatialPlatform.Core.Geometry.RigidGroup
import SpatialPlatform.Core.Trajectory.OdometryChain
import SpatialPlatform.Engine.Pipeline.SparseCorrection.ClosureGraph
import SpatialPlatform.Core.Coordinates.FrameGraphValidator
import SpatialPlatform.Lib.Substitution
import SpatialPlatform.Engine.Scheduler.Threading
import SpatialPlatform.Adapters.Colmap.TrajectoryAdapter
import SpatialPlatform.Core.LoopClosure.CorrespondenceReconstruction
import SpatialPlatform.Adapters.VisualMatching.L2NearestMatcher
import SpatialPlatform.Adapters.VisualMatching.MutualMatches
import SpatialPlatform.Lib.Approach
import SpatialPlatform.Core.Geometry.RadialInverse
import SpatialPlatform.Core.Geometry.DistortionDivisions
import SpatialPlatform.Lib.PrefixCode
import SpatialPlatform.Lib.FixedNotation
import SpatialPlatform.Adapters.Gtsam.OptimizerInput
import SpatialPlatform.Adapters.Gtsam.OptimizerAdapter
import SpatialPlatform.Adapters.Gtsam.BundleAdjustmentOptimizer
import SpatialPlatform.Adapters.Gtsam.SolverFailures
import SpatialPlatform.Adapters.VisualGeometry.CheiralityVote
import SpatialPlatform.Core.Geometry.FovInverse
import SpatialPlatform.Lib.Thrown
import SpatialPlatform.Core.Artifacts.ManifestErrors
import SpatialPlatform.Engine.Pipeline.SparseCorrection.RetriangulationLineage
import SpatialPlatform.Engine.Pipeline.PipelineCompiler
import SpatialPlatform.Engine.Scheduler.Handover
import SpatialPlatform.Engine.Pipeline.PipelineRun
import SpatialPlatform.Engine.Scheduler.ExecutionLog
import SpatialPlatform.Engine.Pipeline.ExecutionManifest
import SpatialPlatform.Engine.Pipeline.RunPipeline
import SpatialPlatform.Lib.Consensus
import SpatialPlatform.Adapters.VisualGeometry.RobustSearch
import SpatialPlatform.Lib.Epipolar
import SpatialPlatform.Adapters.VisualGeometry.EssentialDecomposition
import SpatialPlatform.Adapters.VisualGeometry.GeometricVerifier
import SpatialPlatform.Adapters.VisualGeometry.NoiseFree
