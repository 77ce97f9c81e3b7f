import LlmMax.EffectProgram
import LlmMax.History
import LlmMax.EffectThreads
import LlmMax.Domain
import LlmMax.Storage
import LlmMax.BenchMetrics
import LlmMax.AutotuneState
import LlmMax.Services
import LlmMax.BenchRunner
import LlmMax.AutotuneDecision
import LlmMax.LauncherConfig
import LlmMax.AutotuneEngine
import LlmMax.AutotuneSpec
import LlmMax.AutopilotPass
import LlmMax.AutopilotRun
import LlmMax.AutopilotProtocol
import LlmMax.AutopilotAgreement
import LlmMax.AutopilotEvidence
import LlmMax.AutopilotRateLimit
import LlmMax.AutopilotRollback
import LlmMax.AutopilotOutage
import LlmMax.LauncherService
import LlmMax.Operations
import LlmMax.LauncherTuned
import LlmMax.LockPersistence
import LlmMax.LockRace
import LlmMax.Failover
import LlmMax.SqlTable
import LlmMax.FallbackStorage
import LlmMax.SqlStorage
import LlmMax.SqliteStore
import LlmMax.SqliteAgreement
import LlmMax.MySqlStore
import LlmMax.SaveAtomicity
import LlmMax.TunedRecency
import LlmMax.TimedRegister
import LlmMax.TunedHistory
import LlmMax.SqlFallback
import LlmMax.FallbackReads
import LlmMax.FallbackLock
import LlmMax.EffectTwoRuns
import LlmMax.AuditInvisible
import LlmMax.Ledger
import LlmMax.AuditTrail
import LlmMax.HillClimb
import LlmMax.StationaryMachine
import LlmMax.AutopilotConvergence
import LlmMax.MixedTuning
import LlmMax.BenchSummary
import LlmMax.BenchMonotone
import LlmMax.CandidateSet
import LlmMax.TuneAccounts
import LlmMax.TuneDecision
import LlmMax.SafeContext
import LlmMax.LoopAccounting
import LlmMax.SessionIntegrity
import LlmMax.LockAudit
import LlmMax.HistoryRoute
import LlmMax.MySqlAgreement
import LlmMax.SortedLists
import LlmMax.PercentileOrder
import LlmMax.ImprovementOrder
import LlmMax.Catalog
import LlmMax.Compatibility
import LlmMax.HardwareVerdict
import LlmMax.ModelLookup
import LlmMax.JsonText
import LlmMax.JsonParser
import LlmMax.JsonRoundTrip
import LlmMax.JsonSound
import LlmMax.Generator
import LlmMax.Pull
import LlmMax.PullFailures
import LlmMax.CacheAside
import LlmMax.Config
import LlmMax.EffectBlocks
import LlmMax.Profiler
import LlmMax.StatusCache
import LlmMax.StatusProtocol
import LlmMax.ProfilerScan
import LlmMax.PullRelay
import LlmMax.EffectSchedules
import LlmMax.RunLog
import LlmMax.EffectInterrupts
import LlmMax.AutopilotCommand
import LlmMax.Agentd
import LlmMax.Resending
import LlmMax.Gateway
import LlmMax.EffectCouplings
import LlmMax.Rounding
import LlmMax.OllamaAdapter
import LlmMax.RoundedTuning
import LlmMax.ServiceRefinement
import LlmMax.TextColumns
import LlmMax.EffectEmbedding
import LlmMax.Commands
import LlmMax.CommandReports
