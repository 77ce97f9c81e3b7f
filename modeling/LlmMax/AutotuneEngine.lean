import LlmMax.AutotuneDecision
import LlmMax.LauncherConfig

/-! The tuning engine: measure, adjust, evaluate, accept. One pass of it serves the
one-shot `tune`; the autopilot repeats it, with rollback handling between passes. -/
namespace LlmMax.AutotuneEngine
open Domain BenchMetrics AutotuneState Storage EffectProgram Services BenchRunner
open AutotuneDecision LauncherConfig

def defaultBaselineConfig (modelSpec : Option ModelSpec) : Engine Config := do
  match modelSpec with
  | none => return ∅
  | some model =>
    let hw ← scanHardware
    return buildRunConfig model hw

/-- Save an audit event; only an interrupt gets through. -/
def logEvent (modelId eventType : String) (details : List (String × Detail)) : Engine Unit := do
  match ← Program.attempt (I := services)
      (.storage (.saveAutopilotEvent { modelId, eventType, details })) with
  | .ok _ => pure ()
  | .error exc =>
    match exc.caught with
    | some _ => pure ()
    | none => Program.raise exc

/-- Benchmark a config and note the result in the trace. -/
def measure (modelId : String) (config : Config) : Engine BenchmarkResult := do
  let benchmark ← runBenchmark modelId config.orNone
  Program.perform (I := services) (.measured benchmark)
  return benchmark

/-- Benchmark every candidate except the baseline, whose result is reused. -/
def measureCandidates (modelId : String) (baseline : TuningCandidateResult) :
    List Config → Engine (List TuningCandidateResult)
  | [] => return []
  | config :: configs =>
    if config = baseline.config then do
      let rest ← measureCandidates modelId baseline configs
      return baseline :: rest
    else do
      let benchmark ← measure modelId config
      let rest ← measureCandidates modelId baseline configs
      return ⟨config, benchmark⟩ :: rest

def keptBaseline (modelId : String) (baseline : TuningCandidateResult)
    (candidates : List TuningCandidateResult) (reason : Message) : TuningSession where
  modelId := modelId
  baseline := baseline
  candidates := candidates
  winner := baseline
  outcome := .keptBaseline
  reason := reason

/-- The decision at the end of a pass. -/
def conclude (modelId : String) (baseline : TuningCandidateResult)
    (candidates : List TuningCandidateResult) : TuningSession :=
  match pickBest candidates with
  | none => keptBaseline modelId baseline candidates
      [.text "every candidate failed or ran out of memory; keeping current config"]
  | some best =>
    if best.config ≠ baseline.config ∧ isMeaningfulImprovement best baseline then {
      modelId := modelId
      baseline := baseline
      candidates := candidates
      winner := best
      outcome := .acceptedNew
      reason := [.config best.config, .text " improves throughput by ",
        .fixed1 (improvementPct baseline best), .text "% over baseline"] }
    else keptBaseline modelId baseline candidates
      [.text "no candidate improved throughput enough to justify switching"]

/-- The given baseline, or the one computed fresh from the hardware. -/
def baselineOr (modelSpec : Option ModelSpec) : Option Config → Engine Config
  | some config => return config
  | none => defaultBaselineConfig modelSpec

def tuneOnce (modelId : String) (modelSpec : Option ModelSpec) (baselineConfig : Option Config) :
    Engine TuningSession := do
  requireRuntime
  let config ← baselineOr modelSpec baselineConfig
  let benchmark ← measure modelId config
  let configs ← Program.lift (generateCandidates config)
  let candidates ← measureCandidates modelId ⟨config, benchmark⟩ configs
  return conclude modelId ⟨config, benchmark⟩ candidates

/-- Persist the winner of a session as the model's tuned config, unlocked. -/
def apply (session : TuningSession) : Engine TunedConfig := do
  let saved ← saveTunedConfig { modelId := session.modelId, config := session.winner.config }
  logEvent session.modelId "adjust"
    [("config", .config session.winner.config), ("reason", .message session.reason)]
  return saved

/-- The arguments of `autopilot_loop`, with its defaults. -/
structure AutopilotArgs where
  modelId : String
  modelSpec : Option ModelSpec := none
  intervalSeconds : ℚ := 3600
  maxIterations : Option ℤ := none
  initialHistory : List TuningCandidateResult := []
  maxAdjustmentsPerDay : Option ℤ := some 6

/-- The local variables of `autopilot_loop`. -/
structure LoopState where
  iteration : ℕ
  history : List TuningCandidateResult
  adjustmentTimestamps : List ℚ

def LoopState.start (args : AutopilotArgs) : LoopState := ⟨0, args.initialHistory, []⟩

/-- The test of the while loop: there are iterations left. -/
def AutopilotArgs.continues (args : AutopilotArgs) (iteration : ℕ) : Bool :=
  match args.maxIterations with
  | none => true
  | some n => iteration < n

def secondsPerDay : ℚ := 86400

/-- How many adjustments lie in the 24 hours up to the given time. -/
def adjustmentsInLast24h (timestamps : List ℚ) (time : ℚ) : ℕ :=
  timestamps.countP fun timestamp => time - secondsPerDay ≤ timestamp

/-- The clock is read only when there is a cap. -/
def rateLimited (cap : Option ℤ) (timestamps : List ℚ) : Engine Bool := do
  match cap with
  | none => return false
  | some limit =>
    let time ← now
    return limit ≤ adjustmentsInLast24h timestamps time

def lockedPlaceholderBenchmark (config : Config) : BenchmarkResult := { config := config }

def lockedSession (modelId : String) (config : Config) : TuningSession where
  modelId := modelId
  baseline := ⟨config, lockedPlaceholderBenchmark config⟩
  candidates := []
  winner := ⟨config, lockedPlaceholderBenchmark config⟩
  outcome := .locked
  reason := [.text "config is locked; autopilot skipping this model"]

def rolledBackSession (modelId : String) (active : TuningCandidateResult)
    (history : List TuningCandidateResult) (target : Config) : TuningSession where
  modelId := modelId
  baseline := active
  candidates := history
  winner := ⟨target, active.benchmark⟩
  outcome := .rolledBack
  reason := [.text "active config failed; rolled back to ", .config target]

/-- The session yielded in place of an accepted one that the cap withholds. -/
def limitedSession (cap : Option ℤ) (session : TuningSession) : TuningSession where
  modelId := session.modelId
  baseline := session.baseline
  candidates := session.candidates
  winner := session.baseline
  outcome := .rateLimited
  reason := [.config session.winner.config, .text " looked better but the ", .number cap,
    .text "/day adjustment limit was reached; keeping current config until the window clears"]

/-- Benchmark the active config when there is a history to go back to. The answer is
the failed probe and the config to revert to; without one the pass tunes forward. -/
def checkActive (args : AutopilotArgs) (l : LoopState) (config : Config) :
    Engine (Option (TuningCandidateResult × Config)) := do
  if l.history = [] then return none
  else
    let benchmark ← measure args.modelId config
    let probe : TuningCandidateResult := ⟨config, benchmark⟩
    if needsRollback probe then return (rollbackTarget probe l.history).map fun target => (probe, target)
    else return none

/-- Revert to an earlier config; the cap does not apply. -/
def rollBack (args : AutopilotArgs) (l : LoopState) (probe : TuningCandidateResult)
    (target : Config) : Engine (TuningSession × LoopState) := do
  let _ ← saveTunedConfig { modelId := args.modelId, config := target }
  let time ← now
  logEvent args.modelId "rollback" [("from", .config probe.config), ("to", .config target)]
  return (rolledBackSession args.modelId probe l.history target,
    { l with adjustmentTimestamps := l.adjustmentTimestamps ++ [time] })

/-- A pass of `tune_once`, and what the loop does with its session. -/
def tuneForward (args : AutopilotArgs) (l : LoopState) (baselineConfig : Option Config) :
    Engine (TuningSession × LoopState) := do
  let session ← tuneOnce args.modelId args.modelSpec baselineConfig
  if session.outcome = .acceptedNew then
    if ← rateLimited args.maxAdjustmentsPerDay l.adjustmentTimestamps then
      let limited := limitedSession args.maxAdjustmentsPerDay session
      logEvent args.modelId "rate_limited" [("would_have_applied", .config session.winner.config)]
      return (limited, { l with history := l.history ++ [limited.winner] })
    else
      let _ ← apply session
      let time ← now
      return (session, { l with
        history := l.history ++ [session.winner]
        adjustmentTimestamps := l.adjustmentTimestamps ++ [time] })
  else return (session, { l with history := l.history ++ [session.winner] })

/-- The body of the while loop up to its yield. -/
def iterate (args : AutopilotArgs) (l : LoopState) : Engine (TuningSession × LoopState) := do
  match ← getTunedConfig args.modelId with
  | none => tuneForward args l none
  | some existing =>
    if existing.isLocked then
      logEvent args.modelId "lock" [("config", .config existing.config)]
      return (lockedSession args.modelId existing.config, l)
    else
      match ← checkActive args l existing.config with
      | some (probe, target) => rollBack args l probe target
      | none => tuneForward args l (some existing.config)

/-- The end of the body, after the consumer has asked for the next session. -/
def advance (args : AutopilotArgs) (l : LoopState) : Engine LoopState := do
  let next := { l with iteration := l.iteration + 1 }
  if args.continues next.iteration then
    sleep args.intervalSeconds
    return next
  else return next

/-- The generator, of which the consumer draws at most the given number of sessions. -/
def autopilotLoop (args : AutopilotArgs) : ℕ → LoopState → Engine Unit
  | 0, _ => return ()
  | draws + 1, l => do
    if args.continues l.iteration then
      let (session, l') ← iterate args l
      yieldSession session
      if session.outcome = .locked then return ()
      else
        let next ← advance args l'
        autopilotLoop args draws next
    else return ()

end LlmMax.AutotuneEngine
