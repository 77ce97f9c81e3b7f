import LlmMax.BenchMetrics

/-! Result types shared across the tuning loop. -/
namespace LlmMax.AutotuneState
open Domain BenchMetrics

/-- One config paired with its benchmark outcome. -/
structure TuningCandidateResult where
  config : Config
  benchmark : BenchmarkResult
  deriving DecidableEq

inductive TuningOutcome
  | acceptedNew
  | keptBaseline
  | rolledBack
  | locked
  | rateLimited
  deriving DecidableEq

structure TuningSession where
  modelId : String
  baseline : TuningCandidateResult
  candidates : List TuningCandidateResult
  winner : TuningCandidateResult
  outcome : TuningOutcome
  reason : Message
  deriving DecidableEq

end LlmMax.AutotuneState
