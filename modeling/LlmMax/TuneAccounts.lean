import LlmMax.AutotuneSpec
import LlmMax.BenchSummary

/-! A pass of the engine on a machine that can be relied on: it returns, and the runs of the
adapter are exactly those of the benchmarks it notes. -/
namespace LlmMax.TuneAccounts
open Domain BenchMetrics AutotuneState Storage EffectProgram Services BenchRunner BenchSummary
open AutotuneDecision LauncherConfig AutotuneEngine AutotuneSpec

variable {W : Type} {env : Environment W}

/-- The runtime is there and the hardware can be scanned; a run may still fail. -/
structure Dependable (env : Environment W) : Prop where
  available : ∀ w, (env.isAvailable w).1 = .ok true
  scans : ∀ w, ∃ hw, (env.scanHardware w).1 = .ok hw
  uninterrupted : NeverInterrupts env

/-- The context size, where there is one, is a number. -/
def Numeric (config : Config) : Prop :=
  ∀ value, config.lookup "num_ctx" = some value → ∃ ctx, value = .number ctx

lemma numeric_empty : Numeric ∅ := by
  intro value h
  simp at h

lemma numeric_ofCtx (ctx : ℚ) : Numeric (Config.ofCtx ctx) := by
  intro value h
  simp only [Config.ofCtx, Finmap.lookup_singleton_eq, Option.some.injEq] at h
  exact ⟨ctx, h.symm⟩

lemma buildRunConfig_numeric (model : ModelSpec) (hw : HardwareProfile) :
    Numeric (buildRunConfig model hw) := by
  unfold buildRunConfig
  cases bestGpu hw.gpus with
  | none => exact numeric_empty
  | some gpu => exact numeric_ofCtx _

lemma generateCandidates_isOk {config : Config} (h : Numeric config) :
    ∃ configs, generateCandidates config = .ok configs := by
  unfold generateCandidates
  cases hctx : config.lookup "num_ctx" with
  | none => exact ⟨_, rfl⟩
  | some value =>
    obtain ⟨ctx, rfl⟩ := h value hctx
    exact ⟨_, rfl⟩

lemma generateCandidates_numeric {config : Config} {configs : List Config}
    (h : generateCandidates config = .ok configs) : ∀ c ∈ configs, Numeric c := by
  unfold generateCandidates at h
  cases hctx : (config.lookup "num_ctx").getD (.number defaultBaselineCtx) with
  | other json => simp [hctx] at h
  | number ctx =>
    simp only [hctx, Except.ok.injEq] at h
    subst h
    intro c hc
    obtain ⟨other, -, rfl⟩ := List.mem_map.mp hc
    exact numeric_ofCtx other

/-- The calls of the adapter that a benchmark of the model stands for. -/
def callsOf (modelId : String) (b : BenchmarkResult) : List (String × String × Option Config) :=
  asking modelId b.config.orNone (benchmarkPrompts.take b.samplesAttempted)

/-- The program returns a value of the kind `P`, and the runs of the adapter are those of the
benchmarks noted, each of the kind `K`. -/
def Accounts (env : Environment W) (K : BenchmarkResult → Prop) (modelId : String) {α : Type}
    (p : Engine α) (P : α → Prop) : Prop :=
  ∀ s, Ensures (serving env) p s fun r t _ => (∃ a, r = .ok a ∧ P a) ∧
    adapterRuns t = (measurements t).flatMap (callsOf modelId) ∧ ∀ b ∈ measurements t, K b

section rules
variable {K : BenchmarkResult → Prop} {modelId : String} {α β : Type} {p : Engine α}
  {f : α → Engine β} {P : α → Prop} {Q : β → Prop}

lemma Accounts.returns (h : Accounts env K modelId p P) (s : System W) :
    Ensures (serving env) p s fun r _ _ => ∃ a, r = .ok a ∧ P a := (h s).1

lemma Accounts.bind (hp : Accounts env K modelId p P)
    (hf : ∀ a, P a → Accounts env K modelId (f a) Q) : Accounts env K modelId (p >>= f) Q := by
  intro s
  apply (hp s).bind
  · intro a t s' hpost
    obtain ⟨⟨a', ha, hP⟩, hruns, hK⟩ := hpost
    cases ha
    apply (hf a hP s').mono
    intro r u s'' hrest
    obtain ⟨hret, hruns', hK'⟩ := hrest
    refine ⟨hret, by simp [hruns, hruns'], ?_⟩
    intro b hb
    rw [measurements_append] at hb
    rcases List.mem_append.mp hb with hb | hb
    · exact hK b hb
    · exact hK' b hb
  · intro e t s' hpost
    obtain ⟨⟨a, ha, -⟩, -⟩ := hpost
    cases ha

lemma accounts_pure {a : α} (h : P a) : Accounts env K modelId (pure a) P := by
  intro s
  exact ensures_pure ⟨⟨a, rfl, h⟩, rfl, by simp [measurements]⟩

lemma accounts_lift {x : Except Exn α} {a : α} (hx : x = .ok a) (h : P a) :
    Accounts env K modelId (Program.lift x) P := by
  subst hx
  exact accounts_pure h

end rules

lemma requireRuntime_accounts (henv : Dependable env) (K : BenchmarkResult → Prop)
    (modelId : String) : Accounts env K modelId requireRuntime fun _ => True := by
  intro s
  refine Ensures.bind (R := fun r t _ => r = .ok true ∧ adapterRuns t = [] ∧ measurements t = [])
    (ensures_perform (I := services) ⟨henv.available s.world, rfl, rfl⟩) ?_ ?_
  · intro a t s' hpost
    obtain ⟨ha, hruns, hmeas⟩ := hpost
    cases ha
    exact ensures_pure ⟨⟨(), rfl, trivial⟩, by simp [hruns, hmeas], by simp [hmeas]⟩
  · intro e t s' hpost
    cases hpost.1

lemma baselineOr_accounts (henv : Dependable env) (K : BenchmarkResult → Prop) (modelId : String)
    (modelSpec : Option ModelSpec) {baselineConfig : Option Config}
    (hbaseline : ∀ config, baselineConfig = some config → Numeric config) :
    Accounts env K modelId (baselineOr modelSpec baselineConfig) Numeric := by
  cases baselineConfig with
  | some config => exact accounts_pure (hbaseline config rfl)
  | none =>
    cases modelSpec with
    | none => exact accounts_pure numeric_empty
    | some model =>
      intro s
      obtain ⟨hw, hscan⟩ := henv.scans s.world
      refine Ensures.bind (R := fun r t _ => r = .ok hw ∧ adapterRuns t = [] ∧ measurements t = [])
        (ensures_perform (I := services) ⟨hscan, rfl, rfl⟩) ?_ ?_
      · intro a t s' hpost
        obtain ⟨-, hruns, hmeas⟩ := hpost
        exact ensures_pure ⟨⟨_, rfl, buildRunConfig_numeric model a⟩, by simp [hruns, hmeas],
          by simp [hmeas]⟩
      · intro e t s' hpost
        cases hpost.1

section benchmarks
variable {K : BenchmarkResult → Prop} {modelId : String}

/-- Every benchmark the runner completes is of the kind `K`. -/
def Yields (env : Environment W) (K : BenchmarkResult → Prop) : Prop :=
  ∀ modelId options s, Ensures (serving env) (runBenchmark modelId options) s fun r _ _ =>
    ∀ b, r = .ok b → K b

lemma runBenchmark_ensures (henv : Dependable env) (hK : Yields env K) (modelId : String)
    (config : Config) (s : System W) :
    Ensures (serving env) (runBenchmark modelId config.orNone) s fun r t _ =>
      ∃ b, r = .ok b ∧ adapterRuns t = callsOf modelId b ∧ measurements t = [] ∧ K b := by
  obtain ⟨b, hresult, hended⟩ := runPrompts_ended henv.uninterrupted modelId config.orNone
    benchmarkPrompts_ne_nil s
  have hmeasured : Ensures (serving env) (runBenchmark modelId config.orNone) s fun r _ _ =>
      ∀ b, r = .ok b → Measured (config.orNone.getD ∅) b := runPrompts_measured _ _ _ _ _ _ s
  have hconfig : b.config = config := by
    rw [(hmeasured b hresult).config_eq, Config.orNone_getD]
  have hsteps := (runBenchmark_only modelId config.orNone).steps (H := serving env) (s := s)
  have hquiet : measurements _ = [] := measurements_eq_nil hsteps fun b ⟨prompt, hc⟩ => by cases hc
  refine ⟨b, hresult, ?_, hquiet, hK modelId config.orNone s b hresult⟩
  rw [callsOf, hconfig]
  exact hended.summarises.calls

lemma measure_accounts (henv : Dependable env) (hK : Yields env K) (modelId : String)
    (config : Config) : Accounts env K modelId (measure modelId config) fun _ => True := by
  intro s
  apply (runBenchmark_ensures henv hK modelId config s).bind
  · intro b t s' hpost
    obtain ⟨b', hb, hruns, hquiet, hkind⟩ := hpost
    cases hb
    have hnoted : Ensures (serving env) (Program.perform (I := services) (.measured b)) s'
        fun r u _ => r = .ok () ∧ measurements u = [b] ∧ adapterRuns u = [] :=
      ensures_perform (I := services) ⟨rfl, rfl, rfl⟩
    apply hnoted.bind_returned
    intro u s'' hpost
    obtain ⟨hu, hruns'⟩ := hpost
    exact ensures_pure ⟨⟨b, rfl, trivial⟩, by simp [hruns, hquiet, hu, hruns'],
      by simpa [hquiet, hu] using hkind⟩
  · intro e t s' hpost
    obtain ⟨b, hb, -⟩ := hpost
    cases hb

lemma measureCandidates_accounts (henv : Dependable env) (hK : Yields env K) (modelId : String)
    (baseline : TuningCandidateResult) (configs : List Config) :
    Accounts env K modelId (measureCandidates modelId baseline configs) fun candidates =>
      candidates.map TuningCandidateResult.config = configs := by
  induction configs with
  | nil => exact accounts_pure rfl
  | cons config configs ih =>
    unfold measureCandidates
    split_ifs with hsame
    · apply ih.bind
      intro rest hrest
      exact accounts_pure (by rw [List.map_cons, hrest, hsame])
    · apply (measure_accounts henv hK modelId config).bind
      intro benchmark _
      apply ih.bind
      intro rest hrest
      exact accounts_pure (by rw [List.map_cons, hrest])

/-- On a machine that can be relied on a pass returns a session. -/
theorem tuneOnce_accounts (henv : Dependable env) (hK : Yields env K) (modelId : String)
    (modelSpec : Option ModelSpec) {baselineConfig : Option Config}
    (hbaseline : ∀ config, baselineConfig = some config → Numeric config) :
    Accounts env K modelId (tuneOnce modelId modelSpec baselineConfig) fun session =>
      Numeric session.baseline.config ∧ Numeric session.winner.config := by
  apply (requireRuntime_accounts henv K modelId).bind
  intro _ _
  apply (baselineOr_accounts henv K modelId modelSpec hbaseline).bind
  intro config hnumeric
  obtain ⟨configs, hconfigs⟩ := generateCandidates_isOk hnumeric
  apply (measure_accounts henv hK modelId config).bind
  intro benchmark _
  apply (accounts_lift (P := fun c => c = configs) hconfigs rfl).bind
  intro _ hsame
  subst hsame
  apply (measureCandidates_accounts henv hK modelId _ _).bind
  intro candidates hmap
  apply accounts_pure
  rw [conclude_baseline]
  refine ⟨hnumeric, ?_⟩
  have hmem := conclude_winner_mem modelId ⟨config, benchmark⟩ candidates
  rcases List.mem_cons.mp hmem with hwinner | hwinner
  · rw [hwinner]
    exact hnumeric
  · apply generateCandidates_numeric hconfigs
    rw [← hmap]
    exact List.mem_map_of_mem hwinner

end benchmarks

end LlmMax.TuneAccounts
