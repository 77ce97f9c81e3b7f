import LlmMax.Services

/-! Running the fixed prompt set against a model. Every exception of the adapter
becomes a failed result, except an interrupt, which goes through. -/
namespace LlmMax.BenchRunner
open Domain BenchMetrics Storage EffectProgram Services

def benchmarkPrompts : List String := [
  "Say hello in one short sentence.",
  "Explain what a linked list is and why it's useful, in a short paragraph.",
  "Write a detailed explanation of how neural networks learn through " ++
    "backpropagation, covering the forward pass, loss computation, " ++
    "gradient calculation, and weight updates."]

def oomKeywords : List String := ["out of memory", "cuda", "oom", "failed to allocate"]

def contains (message keyword : String) : Bool := keyword.toList <:+: message.toList

/-- The result of a run that an exception cut short. -/
def failure (config : Config) (message : String) (completed attempted : ℕ) : BenchmarkResult where
  config := config
  oomOccurred := oomKeywords.any (contains message.toLower)
  error := some message
  samplesCompleted := completed
  samplesAttempted := attempted

def average (samples : List ℚ) : Option ℚ :=
  if samples = [] then none else some (samples.sum / samples.length)

lemma average_getD (xs : List ℚ) : (average xs).getD 0 = xs.sum / xs.length := by
  unfold average
  split_ifs with h
  · simp [h]
  · rfl

/-- The result of a run in which every prompt was answered. -/
def summary (config : Config) (latencies tokensPerSecSamples : List ℚ) (attempted : ℕ) :
    Except Exn BenchmarkResult := do
  let p50 ← percentile latencies 50
  let p95 ← percentile latencies 95
  return {
    config := config
    tokensPerSec := average tokensPerSecSamples
    p50LatencyS := some p50
    p95LatencyS := some p95
    samplesCompleted := latencies.length
    samplesAttempted := attempted }

/-- A missing or zero rate is no sample. -/
def rateSample (result : RunResult) : List ℚ :=
  match result.tokensPerSec with
  | none => []
  | some rate => if rate = 0 then [] else [rate]

/-- The loop over the prompts, with its three accumulators. -/
def runPrompts (modelId : String) (options : Option Config) :
    List String → List ℚ → List ℚ → ℕ → Engine BenchmarkResult
  | [], latencies, rates, attempted =>
    Program.lift (summary (options.getD ∅) latencies rates attempted)
  | prompt :: prompts, latencies, rates, attempted => do
    match ← Program.attempt (I := services) (.adapterRun modelId prompt options) with
    | .error exc =>
      match exc.caught with
      | none => Program.raise exc
      | some message =>
        return failure (options.getD ∅) message latencies.length (attempted + 1)
    | .ok result =>
      runPrompts modelId options prompts (latencies ++ [result.totalDurationS])
        (rates ++ rateSample result) (attempted + 1)

def runBenchmark (modelId : String) (options : Option Config) : Engine BenchmarkResult :=
  runPrompts modelId options benchmarkPrompts [] [] 0

lemma failure_works (config : Config) (message : String) (completed attempted : ℕ) :
    (failure config message completed attempted).works = false := by
  simp [failure, BenchmarkResult.works, BenchmarkResult.succeeded]

/-- The shape of every result the runner can produce for a config. -/
structure Measured (config : Config) (b : BenchmarkResult) : Prop where
  config_eq : b.config = config
  oom_failed : b.oomOccurred = true → b.succeeded = false

lemma failure_measured (config : Config) (message : String) (completed attempted : ℕ) :
    Measured config (failure config message completed attempted) :=
  ⟨rfl, fun _ => rfl⟩

/-- A summary is made of the two percentiles and the average. -/
lemma summary_inv {config : Config} {latencies rates : List ℚ} {attempted : ℕ}
    {b : BenchmarkResult} (h : summary config latencies rates attempted = .ok b) :
    ∃ p50 p95, percentile latencies 50 = .ok p50 ∧ percentile latencies 95 = .ok p95 ∧ b = {
      config := config
      tokensPerSec := average rates
      p50LatencyS := some p50
      p95LatencyS := some p95
      samplesCompleted := latencies.length
      samplesAttempted := attempted } := by
  unfold summary at h
  cases h50 : percentile latencies 50 with
  | error e => simp [h50, bind, Except.bind] at h
  | ok p50 =>
    cases h95 : percentile latencies 95 with
    | error e => simp [h50, h95, bind, Except.bind] at h
    | ok p95 =>
      simp only [h50, h95, bind, Except.bind, pure, Except.pure, Except.ok.injEq] at h
      exact ⟨p50, p95, rfl, rfl, h.symm⟩

lemma summary_measured {config : Config} {latencies rates : List ℚ} {attempted : ℕ}
    {b : BenchmarkResult} (h : summary config latencies rates attempted = .ok b) :
    Measured config b := by
  obtain ⟨p50, p95, -, -, rfl⟩ := summary_inv h
  exact ⟨rfl, fun hoom => by simp at hoom⟩

/-- Once a prompt has been answered there is a summary. -/
lemma summary_ok (config : Config) {latencies : List ℚ} (h : latencies ≠ []) (rates : List ℚ)
    (attempted : ℕ) : ∃ b, summary config latencies rates attempted = .ok b := by
  have hpercentile (pct : ℚ) : ∃ q, percentile latencies pct = .ok q := by
    unfold percentile
    rw [if_neg h]
    exact ⟨_, rfl⟩
  obtain ⟨p50, h50⟩ := hpercentile 50
  obtain ⟨p95, h95⟩ := hpercentile 95
  unfold summary
  rw [h50, h95]
  exact ⟨_, rfl⟩

lemma measured_works {config : Config} {b : BenchmarkResult} (h : Measured config b) :
    b.works = b.succeeded := by
  unfold BenchmarkResult.works
  cases hoom : b.oomOccurred with
  | false => simp
  | true => simp [h.oom_failed hoom]

/-- The only calls of a benchmark are runs of its own model under its own options. -/
def RunsOnly (modelId : String) (options : Option Config) (c : Call) : Prop :=
  ∃ prompt, c = .adapterRun modelId prompt options

lemma runPrompts_only (modelId : String) (options : Option Config) (prompts : List String)
    (latencies rates : List ℚ) (attempted : ℕ) :
    Only (RunsOnly modelId options) (runPrompts modelId options prompts latencies rates attempted) := by
  induction prompts generalizing latencies rates attempted with
  | nil => exact only_lift _
  | cons prompt prompts ih =>
    refine (only_attempt ⟨prompt, rfl⟩).bind fun reply => ?_
    cases reply with
    | ok result => exact ih _ _ _
    | error exc =>
      dsimp only
      cases exc.caught with
      | none => exact only_raise _
      | some message => exact only_pure _

variable {W : Type} {env : Environment W}

lemma runPrompts_measured (modelId : String) (options : Option Config) (prompts : List String)
    (latencies rates : List ℚ) (attempted : ℕ) (s : System W) :
    Ensures (serving env) (runPrompts modelId options prompts latencies rates attempted) s
      fun r _ _ => ∀ b, r = .ok b → Measured (options.getD ∅) b := by
  induction prompts generalizing latencies rates attempted s with
  | nil => exact ensures_lift fun b hb => summary_measured hb
  | cons prompt prompts ih =>
    refine Ensures.bind (R := fun r _ _ => ∃ reply, r = .ok reply) (ensures_attempt ⟨_, rfl⟩) ?_ ?_
    · rintro reply t s' -
      cases reply with
      | ok result => exact ih _ _ _ s'
      | error exc =>
        dsimp only
        cases exc.caught with
        | none => exact ensures_raise fun b hb => by cases hb
        | some message =>
          refine ensures_pure fun b hb => ?_
          cases hb
          exact failure_measured _ _ _ _
    · intro e t s' hpost
      obtain ⟨reply, hreply⟩ := hpost
      cases hreply

end LlmMax.BenchRunner
