import LlmMax.AutopilotRun

/-! A machine on which a benchmark of a model always comes out the same: every prompt is
answered as a function of the prompt and the options, and the hardware does not change. -/
namespace LlmMax.StationaryMachine
open Domain BenchMetrics AutotuneState Storage EffectProgram Services BenchRunner
open AutotuneDecision LauncherConfig AutotuneEngine AutotuneSpec AutopilotPass AutopilotRun

variable {W : Type}

/-- The results of the adapter are fixed, and so is the hardware scan. Clock, sleep and
availability are arbitrary. -/
structure Stationary (env : Environment W) (m : String)
    (answer : String → Option Config → Except Failure RunResult) (hardware : HardwareProfile) :
    Prop where
  run : ∀ prompt options w, (env.run m prompt options w).1 =
    (answer prompt options).mapError Subtype.val
  scan : ∀ w, (env.scanHardware w).1 = .ok hardware

/-- Benchmarking the config has that result, in any state. -/
def Benches (env : Environment W) (m : String) (config : Config) (b : BenchmarkResult) : Prop :=
  ∀ s, (exec (serving env) (measure m config) s).result = .ok b

/-- The benchmark that each config has. -/
def Benchmarks (env : Environment W) (m : String) (bench : Config → BenchmarkResult) : Prop :=
  ∀ config, Benches env m config (bench config)

/-- How a benchmark ranks: a broken one below any that works, and these by throughput. -/
def rank (b : BenchmarkResult) : WithBot ℚ :=
  if b.works then ((b.tokensPerSec.getD 0 : ℚ) : WithBot ℚ) else ⊥

/-- The session in which a pass from the config ends. -/
def verdict (bench : Config → BenchmarkResult) (m : String) (config : Config) : TuningSession :=
  conclude m ⟨config, bench config⟩
    (((generateCandidates config).toOption.getD []).map fun c => ⟨c, bench c⟩)

/-- The config from which a pass goes forward. -/
def position (modelSpec : Option ModelSpec) (hardware : HardwareProfile)
    (stored : Option TunedConfig) : Config :=
  (stored.map TunedConfig.config).getD (heuristicConfig modelSpec (some hardware))

section engine
variable {env : Environment W} {m : String}
  {answer : String → Option Config → Except Failure RunResult} {hardware : HardwareProfile}

/-- Once a prompt has been answered the loop ends in a result, the same from any state. -/
lemma runPrompts_fixed (h : Stationary env m answer hardware) (options : Option Config)
    (prompts : List String) (latencies rates : List ℚ) (attempted : ℕ)
    (hne : prompts ≠ [] ∨ latencies ≠ []) :
    ∃ b, ∀ s, (exec (serving env) (runPrompts m options prompts latencies rates attempted) s).result =
      .ok b := by
  induction prompts generalizing latencies rates attempted with
  | nil =>
    have hlat : latencies ≠ [] := hne.resolve_left fun h => h rfl
    obtain ⟨b, hb⟩ := summary_ok (options.getD ∅) hlat rates attempted
    refine ⟨b, fun s => ?_⟩
    rw [runPrompts, hb]
    rfl
  | cons prompt prompts ih =>
    cases hanswer : answer prompt options with
    | ok result =>
      obtain ⟨b, hb⟩ := ih (latencies ++ [result.totalDurationS]) (rates ++ rateSample result)
        (attempted + 1) (.inr (by simp))
      refine ⟨b, fun s => ?_⟩
      have hrun := h.run prompt options s.world
      rw [hanswer] at hrun
      rw [runPrompts, exec_attempt_bind]
      simp only [serving, hrun, Except.mapError]
      exact hb _
    | error e =>
      obtain ⟨message, hcaught⟩ := Option.isSome_iff_exists.mp e.2
      refine ⟨failure (options.getD ∅) message latencies.length (attempted + 1), fun s => ?_⟩
      have hrun := h.run prompt options s.world
      rw [hanswer] at hrun
      rw [runPrompts, exec_attempt_bind]
      simp only [serving, hrun, Except.mapError, hcaught]
      rfl

lemma exists_benchmarks (h : Stationary env m answer hardware) :
    ∃ bench, Benchmarks env m bench := by
  have hfixed (config : Config) : ∃ b, ∀ s,
      (exec (serving env) (runBenchmark m config.orNone) s).result = .ok b :=
    runPrompts_fixed h config.orNone benchmarkPrompts [] [] 0 (.inl (by simp [benchmarkPrompts]))
  choose bench hbench using hfixed
  refine ⟨bench, fun config s => ?_⟩
  unfold AutotuneEngine.measure
  rw [exec_bind_ok (hbench config s)]
  rfl

lemma Benches.unique {config : Config} {b b' : BenchmarkResult} (h : Benches env m config b)
    {s : System W} (hs : (exec (serving env) (measure m config) s).result = .ok b') : b = b' :=
  Except.ok.inj ((h s).symm.trans hs)

variable {bench : Config → BenchmarkResult}

lemma measureCandidates_fixed (h : Benchmarks env m bench) (config : Config) (configs : List Config)
    (s : System W) :
    Ensures (serving env) (measureCandidates m ⟨config, bench config⟩ configs) s fun r _ _ =>
      ∀ candidates, r = .ok candidates → candidates = configs.map fun c => ⟨c, bench c⟩ := by
  induction configs generalizing s with
  | nil => exact ensures_ok rfl
  | cons c configs ih =>
    unfold measureCandidates
    split_ifs with hc
    · refine (ih s).bind_ok ?_
      intro rest t s' hrest
      have hmap := hrest rest rfl
      dsimp only at hc
      exact ensures_ok (by simp [hc, hmap])
    · have hfirst : Ensures (serving env) (measure m c) s fun r _ _ => r = .ok (bench c) := h c s
      refine hfirst.bind_ok ?_
      intro b t s' hb
      cases hb
      refine (ih s').bind_ok ?_
      intro rest t s'' hrest
      have hmap := hrest rest rfl
      exact ensures_ok (by simp [hmap])

lemma baselineOr_fixed (h : Stationary env m answer hardware) (modelSpec : Option ModelSpec)
    (baselineConfig : Option Config) (s : System W) :
    Ensures (serving env) (baselineOr modelSpec baselineConfig) s fun r _ _ => ∀ config,
      r = .ok config → config = baselineConfig.getD (heuristicConfig modelSpec (some hardware)) := by
  cases baselineConfig with
  | some config => exact ensures_ok rfl
  | none =>
    cases modelSpec with
    | none => exact ensures_ok rfl
    | some model =>
      have hscan : Ensures (serving env) scanHardware s fun r _ _ => r = .ok hardware := by
        apply ensures_perform
        exact h.scan s.world
      refine hscan.bind_ok ?_
      intro hw t s' hhw
      cases hhw
      exact ensures_ok rfl

/-- A tuning pass ends in the verdict about the config it goes from, unless it raises. -/
theorem tuneOnce_fixed (h : Stationary env m answer hardware) (hbench : Benchmarks env m bench)
    (modelSpec : Option ModelSpec) (baselineConfig : Option Config) (s : System W) :
    Ensures (serving env) (tuneOnce m modelSpec baselineConfig) s fun r _ _ => ∀ session,
      r = .ok session → session =
        verdict bench m (baselineConfig.getD (heuristicConfig modelSpec (some hardware))) := by
  refine (requireRuntime_ensures s).bind_ok ?_
  intro _ t s₁ _
  refine (baselineOr_fixed h modelSpec baselineConfig s₁).bind_ok ?_
  intro config t s₂ hconfig
  have hconfig := hconfig config rfl
  have hmeasure : Ensures (serving env) (measure m config) s₂ fun r _ _ => r = .ok (bench config) :=
    hbench config s₂
  refine hmeasure.bind_ok ?_
  intro b t s₃ hb
  cases hb
  refine (ensures_lift (Q := fun r _ _ => r = generateCandidates config) rfl).bind_ok ?_
  intro configs t s₄ hconfigs
  refine (measureCandidates_fixed hbench config configs s₄).bind_ok ?_
  intro candidates t s₅ hcandidates
  refine ensures_ok ?_
  rw [hcandidates candidates rfl, ← hconfig, verdict, ← hconfigs]
  rfl

/-- What a choice comes to on a stationary machine, in terms of the stored config it read. -/
inductive Settles (bench : Config → BenchmarkResult) (hardware : HardwareProfile)
    (args : AutopilotArgs) (l : LoopState) (stored : Option TunedConfig) : Move → Prop
  | skip {existing : TunedConfig} (read : stored = some existing)
      (locked : existing.isLocked = true) : Settles bench hardware args l stored (.skip existing)
  | revert {existing : TunedConfig} {target : Config} (read : stored = some existing)
      (broken : (bench existing.config).works = false)
      (found : rollbackTarget ⟨existing.config, bench existing.config⟩ l.history = some target) :
      Settles bench hardware args l stored
        (.revert ⟨existing.config, bench existing.config⟩ target)
  | keep {session : TuningSession} (unlocked : ∀ c, stored = some c → c.isLocked = false)
      (concluded : session = verdict bench args.modelId (position args.modelSpec hardware stored))
      (kept : session.outcome = .keptBaseline) : Settles bench hardware args l stored (.keep session)
  | withhold {session : TuningSession} (unlocked : ∀ c, stored = some c → c.isLocked = false)
      (concluded : session = verdict bench args.modelId (position args.modelSpec hardware stored))
      (accepted : session.outcome = .acceptedNew) :
      Settles bench hardware args l stored (.withhold session)
  | adopt {session : TuningSession} (unlocked : ∀ c, stored = some c → c.isLocked = false)
      (concluded : session = verdict bench args.modelId (position args.modelSpec hardware stored))
      (accepted : session.outcome = .acceptedNew) :
      Settles bench hardware args l stored (.adopt session)

lemma chooseForward_fixed {args : AutopilotArgs} (h : Stationary env args.modelId answer hardware)
    (hbench : Benchmarks env args.modelId bench) (l : LoopState) (stored : Option TunedConfig)
    (hunlocked : ∀ c, stored = some c → c.isLocked = false) (s : System W) :
    Ensures (serving env) (chooseForward args l (stored.map TunedConfig.config)) s fun r _ _ =>
      ∀ move, r = .ok move → Settles bench hardware args l stored move := by
  refine (tuneOnce_fixed h hbench args.modelSpec _ s).bind_ok ?_
  intro session t s' hsession
  have hverdict := hsession session rfl
  split_ifs with haccepted
  · have hlimited : Ensures (serving env)
        (rateLimited args.maxAdjustmentsPerDay l.adjustmentTimestamps) s' fun _ _ _ => True := trivial
    refine hlimited.bind_ok ?_
    intro limited t s'' _
    cases limited with
    | true => exact ensures_ok (.withhold hunlocked hverdict haccepted)
    | false => exact ensures_ok (.adopt hunlocked hverdict haccepted)
  · refine ensures_ok (.keep hunlocked hverdict ?_)
    rw [hverdict, verdict] at haccepted ⊢
    rcases conclude_cases args.modelId _ _ with hc | hc
    · exact hc.1
    · exact absurd hc.1 haccepted

lemma checkActive_fixed {args : AutopilotArgs} (hbench : Benchmarks env args.modelId bench)
    (l : LoopState) (config : Config) (s : System W) :
    Ensures (serving env) (checkActive args l config) s fun r _ _ => ∀ revert, r = .ok revert →
      ∀ probe target, revert = some (probe, target) →
        probe = ⟨config, bench config⟩ ∧ (bench config).works = false ∧
        rollbackTarget ⟨config, bench config⟩ l.history = some target := by
  unfold checkActive
  split_ifs with hh
  · exact ensures_ok fun probe target hrevert => by cases hrevert
  · have hmeasure : Ensures (serving env) (measure args.modelId config) s
        fun r _ _ => r = .ok (bench config) := hbench config s
    refine hmeasure.bind_ok ?_
    intro b t s' hb
    cases hb
    dsimp only
    rw [needsRollback_eq]
    cases hworks : (bench config).works with
    | true => exact ensures_ok fun probe target hrevert => by simp at hrevert
    | false =>
      refine ensures_ok fun probe target hrevert => ?_
      simp only [Option.map_eq_some_iff, Prod.mk.injEq] at hrevert
      obtain ⟨target', htarget, rfl, rfl⟩ := hrevert
      exact ⟨rfl, rfl, htarget⟩

theorem choose_fixed {args : AutopilotArgs} (h : Stationary env args.modelId answer hardware)
    (hbench : Benchmarks env args.modelId bench) (l : LoopState) (s : System W) :
    Ensures (serving env) (choose args l) s fun r _ _ => ∀ move, r = .ok move →
      Settles bench hardware args l (s.store.getTunedConfig args.modelId) move := by
  have hget : Ensures (serving env) (getTunedConfig args.modelId) s fun r _ _ =>
      r = .ok (s.store.getTunedConfig args.modelId) := rfl
  refine hget.bind_ok ?_
  intro stored t s₀ hstored
  cases hstored
  cases hread : s.store.getTunedConfig args.modelId with
  | none => exact chooseForward_fixed h hbench l none (by simp) s₀
  | some existing =>
    dsimp only
    split_ifs with hl
    · exact ensures_ok (.skip rfl hl)
    · have hunlocked : ∀ c, some existing = some c → c.isLocked = false := by
        intro c hc
        cases hc
        simpa using hl
      refine (checkActive_fixed hbench l existing.config s₀).bind_ok ?_
      intro revert t s₁ hrevert
      cases revert with
      | none => exact chooseForward_fixed h hbench l (some existing) hunlocked s₁
      | some r =>
        obtain ⟨probe, target⟩ := r
        obtain ⟨rfl, hbroken, hfound⟩ := hrevert _ rfl probe target rfl
        exact ensures_ok (.revert rfl hbroken hfound)

/-- A pass on a stationary machine: the session, the history and the rows it leaves. -/
structure Settled (bench : Config → BenchmarkResult) (hardware : HardwareProfile)
    (args : AutopilotArgs) (y : Yield W) (move : Move) : Prop where
  settles : Settles bench hardware args y.loop (y.before.store.getTunedConfig args.modelId) move
  session_eq : y.session = move.session args y.loop
  history_eq : y.loopAfter.history = y.loop.history ++ move.learned
  rows : y.after.store.tunedConfigs = y.before.store.tunedConfigs ++
    (move.saves args).map fun c => { c with id := some (y.before.store.tunedConfigs.length + 1) }

theorem iterate_fixed {args : AutopilotArgs} (h : Stationary env args.modelId answer hardware)
    (hbench : Benchmarks env args.modelId bench) (l : LoopState) (s : System W) :
    Ensures (serving env) (iterate args l) s fun r t s' => ∀ session l', r = .ok (session, l') →
      ∃ move, Settled bench hardware args ⟨s, l, t, session, s', l'⟩ move := by
  rw [iterate_eq]
  have hread : Ensures (serving env) (choose args l) s fun _ _ s' => s'.store = s.store :=
    (choose_store args l s).2
  refine ((choose_fixed h hbench l s).and hread).bind ?_ (fun e t s' _ session l' h => by cases h)
  intro move t₁ s₁ hpost
  obtain ⟨hmove, hstore⟩ := hpost
  refine (commit_ensures args l move s₁).mono ?_
  intro r t₂ s₂ hpost session l' hr
  obtain ⟨hsaved, hcommitted⟩ := hpost
  have hdone := hcommitted session l' hr
  exact ⟨move, hmove move rfl, hdone.session_eq, hdone.history_eq, hstore ▸ hsaved.rows⟩

/-- A machine that answers by the options alone is stationary. -/
def answering (respond : Option Config → Except String ℚ) (_prompt : String)
    (options : Option Config) : Except Failure RunResult :=
  match respond options with
  | .ok rate => .ok ⟨"", 1, 1, some rate, ""⟩
  | .error message => .error (Failure.ofMessage message)

lemma clocked_stationary (gpus : List GpuInfo) (available : ℚ → Bool)
    (respond : Option Config → Except String ℚ) (m : String) :
    Stationary (clocked gpus available fun _ => respond) m (answering respond) ⟨gpus, 0⟩ := by
  refine ⟨fun prompt options w => ?_, fun w => rfl⟩
  simp only [clocked, answering]
  cases respond options with
  | ok rate => rfl
  | error message => rfl

/-- A runtime that is faster the larger the context. -/
def rising : Option Config → Except String ℚ := fun options =>
  match options.bind (Finmap.lookup "num_ctx") with
  | some (.number ctx) => .ok ctx
  | _ => .ok 2048

end engine

/-- What improves meaningfully ranks higher. -/
lemma rank_lt {candidate baseline : TuningCandidateResult} (hworks : candidate.benchmark.works)
    (h : isMeaningfulImprovement candidate baseline) :
    rank baseline.benchmark < rank candidate.benchmark := by
  unfold rank
  rw [if_pos hworks]
  cases hb : baseline.benchmark.works with
  | false => exact WithBot.bot_lt_coe _
  | true =>
    simp only [if_true]
    apply WithBot.coe_lt_coe.mpr
    have hsucceeded : baseline.benchmark.succeeded = true := by
      simp only [BenchmarkResult.works, Bool.and_eq_true] at hb
      exact hb.1
    simp only [BenchmarkResult.works, Bool.and_eq_true, Bool.not_eq_eq_eq_not, Bool.not_true] at hworks
    simp only [isMeaningfulImprovement, hworks, hsucceeded, Bool.not_true, Bool.or_self,
      Bool.false_eq_true, if_false] at h
    split_ifs at h with hzero
    · have hpos := of_decide_eq_true h
      exact hzero.trans_lt hpos
    · have hpct := of_decide_eq_true h
      rw [not_le] at hzero
      unfold defaultMinImprovementPct at hpct
      have hpos : 0 < (candidate.benchmark.tokensPerSec.getD 0 -
          baseline.benchmark.tokensPerSec.getD 0) / baseline.benchmark.tokensPerSec.getD 0 := by
        linarith
      have hdiff := (div_pos_iff_of_pos_right hzero).mp hpos
      linarith

section verdict
variable {bench : Config → BenchmarkResult} {m : String} {config : Config}

@[simp] lemma verdict_baseline : (verdict bench m config).baseline = ⟨config, bench config⟩ :=
  conclude_baseline _ _ _

@[simp] lemma verdict_modelId : (verdict bench m config).modelId = m := conclude_modelId _ _ _

/-- An accepted config is one of the candidates and measures better than the one it replaces. -/
lemma verdict_accepted (h : (verdict bench m config).outcome = .acceptedNew) :
    ∃ configs c, generateCandidates config = .ok configs ∧ c ∈ configs ∧
      (verdict bench m config).winner = ⟨c, bench c⟩ ∧ (bench c).works = true ∧
      rank (bench config) < rank (bench c) := by
  unfold verdict at h ⊢
  rcases conclude_cases m _ _ with hc | hc
  · rw [hc.1] at h
    cases h
  · obtain ⟨-, hmem, hworks, -, himproves⟩ := hc
    have hlt := rank_lt hworks himproves
    obtain ⟨c, hmem, hwinner⟩ := List.mem_map.mp hmem
    rw [← hwinner] at hworks hlt
    cases hgen : generateCandidates config with
    | error e => simp [hgen, Except.toOption] at hmem
    | ok configs =>
      rw [hgen] at hmem hwinner
      exact ⟨configs, c, rfl, hmem, hwinner.symm, hworks, hlt⟩

lemma verdict_kept (h : (verdict bench m config).outcome = .keptBaseline) :
    (verdict bench m config).winner = ⟨config, bench config⟩ := by
  unfold verdict at h ⊢
  rcases conclude_cases m _ _ with hc | hc
  · exact hc.2
  · rw [hc.1] at h
    cases h

end verdict

end LlmMax.StationaryMachine
