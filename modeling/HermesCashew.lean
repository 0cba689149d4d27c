import HermesCashew.Admission
import HermesCashew.AdmissionContract
import HermesCashew.AdmissionNesting
import HermesCashew.AuditBudget
import HermesCashew.AuxiliaryCalls
import HermesCashew.BeamSearch
import HermesCashew.BfsResults
import HermesCashew.BfsRetrieval
import HermesCashew.CacheIdentity
import HermesCashew.CascadeDecay
import HermesCashew.CliqueSearch
import HermesCashew.Config
import HermesCashew.ConfigBootstrap
import HermesCashew.ConfigLoading
import HermesCashew.ConfigSaving
import HermesCashew.Contraction
import HermesCashew.CronMarker
import HermesCashew.CronReconcile
import HermesCashew.Custody
import HermesCashew.DrainOnce
import HermesCashew.EmbeddingBoundary
import HermesCashew.EmbeddingChannel
import HermesCashew.EmbeddingExchange
import HermesCashew.EmbeddingFrames
import HermesCashew.EmbeddingMigration
import HermesCashew.EmbeddingOwnership
import HermesCashew.EmbeddingRelease
import HermesCashew.EmbeddingReplies
import HermesCashew.EmbeddingRequest
import HermesCashew.Fencing
import HermesCashew.InsightIsolation
import HermesCashew.IntegrityLease
import HermesCashew.IntegrityTruth
import HermesCashew.JsonMessage
import HermesCashew.KeyedTable
import HermesCashew.LateOperations
import HermesCashew.Lifecycle
import HermesCashew.LifecycleGenerations
import HermesCashew.LifecycleHealth
import HermesCashew.LifecycleLocation
import HermesCashew.LogBoundary
import HermesCashew.LogDelivery
import HermesCashew.LogLeases
import HermesCashew.LogPrivacy
import HermesCashew.LogRestoration
import HermesCashew.OutcomeLedger
import HermesCashew.PreCompress
import HermesCashew.PrefetchCoherence
import HermesCashew.PrefetchResults
import HermesCashew.ProfileIsolation
import HermesCashew.ProfileSafety
import HermesCashew.PublishedIdentity
import HermesCashew.PythonInt
import HermesCashew.Recall
import HermesCashew.RecallOrder
import HermesCashew.RecallTags
import HermesCashew.RotatingCursor
import HermesCashew.RuntimeIdentity
import HermesCashew.SleepCompaction
import HermesCashew.SleepCrossLinks
import HermesCashew.SleepCycle
import HermesCashew.SleepDedup
import HermesCashew.SleepForgetting
import HermesCashew.SleepMerge
import HermesCashew.SleepOrphans
import HermesCashew.SleepPages
import HermesCashew.SyncBatch
import HermesCashew.SyncLedger
import HermesCashew.SyncQueue
import HermesCashew.SyncShutdown
import HermesCashew.SyncSurvival
import HermesCashew.Telemetry
import HermesCashew.ThinkClaim
import HermesCashew.ThinkHealth
import HermesCashew.ThoughtGraph
import HermesCashew.ToolCall
import HermesCashew.Transition
import HermesCashew.VectorIndex
import HermesCashew.VectorWrites
import HermesCashew.WarmCache
