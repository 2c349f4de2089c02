import VideoAnalysis.Annotation.FallbackAgreement
import VideoAnalysis.Behavior.ChaseDuration
import VideoAnalysis.Behavior.EventIds
import VideoAnalysis.Behavior.Silencing
import VideoAnalysis.Behavior.StandingCrowd
import VideoAnalysis.Behavior.StateBound
import VideoAnalysis.Clip.Admission
import VideoAnalysis.Clip.AnnotationCache
import VideoAnalysis.Clip.CooldownGate
import VideoAnalysis.Clip.Durability
import VideoAnalysis.Clip.Outcomes
import VideoAnalysis.Clip.PoisonRequest
import VideoAnalysis.Clip.ProofRetries
import VideoAnalysis.Clip.Recovery
import VideoAnalysis.Event.AdmissionCap
import VideoAnalysis.Event.CoverageWindow
import VideoAnalysis.Event.EvidenceLoss
import VideoAnalysis.Event.EvidenceWindow
import VideoAnalysis.Event.RecordRequest
import VideoAnalysis.Face.Association
import VideoAnalysis.Face.CandidateGate
import VideoAnalysis.Face.ExportThrottle
import VideoAnalysis.Face.ObservationIds
import VideoAnalysis.Forwarder.DropQueue
import VideoAnalysis.Forwarder.TwoStages
import VideoAnalysis.Gallery.SearchAgreement
import VideoAnalysis.Intake.ObservationIsolation
import VideoAnalysis.Intake.PendingMessages
import VideoAnalysis.Lifecycle.Deferral
import VideoAnalysis.Lifecycle.LeaseFencing
import VideoAnalysis.Lifecycle.Projection
import VideoAnalysis.Lifecycle.RetryDelay
import VideoAnalysis.Pose.Decode
import VideoAnalysis.Retention.CleanupOrder
import VideoAnalysis.RollingCache.CatalogCounts
import VideoAnalysis.RollingCache.EventAnchor
import VideoAnalysis.RollingCache.ImageFrame
import VideoAnalysis.RollingCache.RowGaps
import VideoAnalysis.RollingCache.SegmentGaps
import VideoAnalysis.Scheduler.LaneRuns
import VideoAnalysis.Scheduler.SlotAccounting
import VideoAnalysis.Scheduler.Supervision
import VideoAnalysis.SegmentIndex.CatalogRuns
import VideoAnalysis.SegmentIndex.RowCache
import VideoAnalysis.Session.SharedTracker
import VideoAnalysis.Sink.DispatcherAccounting
import VideoAnalysis.Sink.EmbeddedManifest
import VideoAnalysis.Sink.FragmentConservation
import VideoAnalysis.Sink.FragmentThreads
import VideoAnalysis.Sink.GroupCommit
import VideoAnalysis.Sink.MuxClock
import VideoAnalysis.Timeline.FaithfulAlignment
import VideoAnalysis.Timeline.RebasedTimeline
import VideoAnalysis.Topology.ApplyJobs
import VideoAnalysis.Topology.PlanAgreement
import VideoAnalysis.Watchlist.HitLedger
