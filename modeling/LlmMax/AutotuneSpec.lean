import LlmMax.AutotuneEngine

/-! What one pass of the engine does: which benchmarks it runs, what its session
is made of, and when it accepts a new config. -/
namespace LlmMax.AutotuneSpec
open Domain BenchMetrics AutotuneState Storage EffectProgram Services BenchRunner
open AutotuneDecision LauncherConfig AutotuneEngine

/-- The calls of a pass: the adapter and the hardware scan, never the store or the clock. -/
def Measuring : Call → Prop
  | .adapterName | .isAvailable | .adapterRun _ _ _ | .scanHardware | .measured _ => True
  | _ => False

lemma Measuring.offStore {c : Call} (h : Measuring c) : c.OffStore := by
  rintro op rfl
  exact h

lemma runBenchmark_only (modelId : String) (options : Option Config) :
    Only (RunsOnly modelId options) (runBenchmark modelId options) :=
  runPrompts_only _ _ _ _ _ _

lemma measure_only (modelId : String) (config : Config) :
    Only Measuring (measure modelId config) := by
  refine ((runBenchmark_only _ _).mono ?_).bind fun b => ?_
  · rintro c ⟨prompt, rfl⟩
    trivial
  · exact (only_perform (I := services) (ε := Exn) trivial).bind fun _ => only_pure b

lemma measureCandidates_only (modelId : String) (baseline : TuningCandidateResult)
    (configs : List Config) : Only Measuring (measureCandidates modelId baseline configs) := by
  induction configs with
  | nil => exact only_pure _
  | cons config configs ih =>
    unfold measureCandidates
    split_ifs
    · exact ih.bind fun _ => only_pure _
    · exact (measure_only _ _).bind fun _ => ih.bind fun _ => only_pure _

lemma measuring_of_asksOnly {c : Call} (h : AsksOnly c) : Measuring c := by
  obtain rfl | rfl := h
  · trivial
  · trivial

lemma defaultBaselineConfig_only (modelSpec : Option ModelSpec) :
    Only Measuring (defaultBaselineConfig modelSpec) := by
  cases modelSpec with
  | none => exact only_pure _
  | some model => exact (only_perform (I := services) (ε := Exn) trivial).bind fun _ => only_pure _

lemma baselineOr_only (modelSpec : Option ModelSpec) (baselineConfig : Option Config) :
    Only Measuring (baselineOr modelSpec baselineConfig) := by
  cases baselineConfig with
  | none => exact defaultBaselineConfig_only _
  | some config => exact only_pure _

lemma tuneOnce_only (modelId : String) (modelSpec : Option ModelSpec)
    (baselineConfig : Option Config) : Only Measuring (tuneOnce modelId modelSpec baselineConfig) := by
  have hrequire : Only Measuring requireRuntime :=
    requireRuntime_only.mono fun _ => measuring_of_asksOnly
  exact hrequire.bind fun _ => (baselineOr_only _ _).bind fun _ =>
    (measure_only _ _).bind fun _ => (only_lift _).bind fun _ =>
      (measureCandidates_only _ _ _).bind fun _ => only_pure _

variable {W : Type} {env : Environment W}

lemma measuring_clockReads {α : Type} {p : Engine α} (hp : Only Measuring p) (s : System W) :
    clockReads (exec (serving env) p s).steps = [] :=
  clockReads_eq_nil hp.steps id

/-- A benchmark that is completed is a measurement of its config, and is noted once. -/
lemma measure_ensures (modelId : String) (config : Config) (s : System W) :
    Ensures (serving env) (measure modelId config) s fun r t _ =>
      ∀ b, r = .ok b → Measured config b ∧ measurements t = [b] ∧ scans t = [] := by
  have hrun : Ensures (serving env) (runBenchmark modelId config.orNone) s fun r t _ =>
      (∀ b, r = .ok b → Measured config b) ∧ measurements t = [] ∧ scans t = [] := by
    have hmeasured : Ensures (serving env) (runBenchmark modelId config.orNone) s fun r _ _ =>
        ∀ b, r = .ok b → Measured (config.orNone.getD ∅) b := runPrompts_measured _ _ _ _ _ _ s
    rw [Config.orNone_getD] at hmeasured
    have hsteps := (runBenchmark_only modelId config.orNone).steps (H := serving env) (s := s)
    have hnone : measurements _ = [] := measurements_eq_nil hsteps fun b ⟨prompt, hc⟩ => by cases hc
    have hscans : scans _ = [] := scans_eq_nil hsteps fun ⟨prompt, hc⟩ => by cases hc
    exact ⟨hmeasured, hnone, hscans⟩
  refine hrun.bind ?_ (fun e t s' _ b hb => by cases hb)
  intro b t s' hpost
  obtain ⟨hb, ht, hscan⟩ := hpost
  have hnoted : Ensures (serving env) (Program.perform (I := services) (.measured b)) s'
      fun r u _ => r = .ok () ∧ measurements u = [b] ∧ scans u = [] :=
    ensures_perform (I := services) ⟨rfl, rfl, rfl⟩
  apply hnoted.bind_returned
  intro u s'' hpost
  obtain ⟨hu, hscan'⟩ := hpost
  exact ensures_ok ⟨hb b rfl, by simp [ht, hu], by simp [hscan, hscan']⟩

/-- The benchmarks behind the candidates: every candidate carries a measurement of its
own config, and those of the baseline's config are the baseline itself. -/
structure Candidates (baseline : TuningCandidateResult) (t : Trace W)
    (candidates : List TuningCandidateResult) : Prop where
  measured : ∀ r ∈ candidates, r ≠ baseline → Measured r.config r.benchmark
  reused : ∀ r ∈ candidates, r.config = baseline.config → r = baseline
  trace : measurements t =
    (candidates.filter fun r => r.config ≠ baseline.config).map TuningCandidateResult.benchmark

section candidates
variable {baseline : TuningCandidateResult} {candidates : List TuningCandidateResult} {t u : Trace W}

/-- The baseline among the candidates is not measured again. -/
lemma Candidates.reuse (h : Candidates baseline t candidates) :
    Candidates baseline t (baseline :: candidates) := by
  refine ⟨?_, ?_, ?_⟩
  · intro r hr hne
    rcases List.mem_cons.mp hr with rfl | hr
    · exact absurd rfl hne
    · exact h.measured r hr hne
  · intro r hr he
    rcases List.mem_cons.mp hr with rfl | hr
    · rfl
    · exact h.reused r hr he
  · simp [h.trace]

lemma Candidates.measure (h : Candidates baseline u candidates) {config : Config}
    {b : BenchmarkResult} (hne : config ≠ baseline.config) (hmeasured : Measured config b)
    (ht : measurements t = [b]) : Candidates baseline (t ++ u) (⟨config, b⟩ :: candidates) := by
  refine ⟨?_, ?_, ?_⟩
  · intro r hr hne
    rcases List.mem_cons.mp hr with rfl | hr
    · exact hmeasured
    · exact h.measured r hr hne
  · intro r hr he
    rcases List.mem_cons.mp hr with rfl | hr
    · exact absurd he hne
    · exact h.reused r hr he
  · simp [ht, hne, h.trace]

end candidates

lemma measureCandidates_ensures (modelId : String) (baseline : TuningCandidateResult)
    (configs : List Config) (s : System W) :
    Ensures (serving env) (measureCandidates modelId baseline configs) s fun r t _ =>
      ∀ candidates, r = .ok candidates →
        candidates.map TuningCandidateResult.config = configs ∧
        Candidates baseline t candidates ∧ scans t = [] := by
  induction configs generalizing s with
  | nil =>
    exact ensures_ok ⟨rfl, ⟨by simp, by simp, rfl⟩, rfl⟩
  | cons config configs ih =>
    unfold measureCandidates
    split_ifs with hc
    · refine (ih s).bind_ok ?_
      intro rest t s' hrest
      obtain ⟨hmap, hcand, hscan⟩ := hrest rest rfl
      exact ensures_ok ⟨by simp [hc, hmap], by simpa using hcand.reuse, by simp [hscan]⟩
    · refine (measure_ensures modelId config s).bind_ok ?_
      intro b t s' hb
      obtain ⟨hmeas, ht, hscan⟩ := hb b rfl
      refine (ih s').bind_ok ?_
      intro rest u s'' hrest
      obtain ⟨hmap, hcand, hscan'⟩ := hrest rest rfl
      exact ensures_ok ⟨by simp [hmap], by simpa using hcand.measure hc hmeas ht,
        by simp [hscan, hscan']⟩

/-- The config that a pass without a stored one starts from, by the newest hardware scan. -/
def defaultBaseline (modelSpec : Option ModelSpec) (scanned : List HardwareProfile) : Config :=
  heuristicConfig modelSpec scanned.getLast?

lemma defaultBaseline_append (modelSpec : Option ModelSpec) (earlier scanned : List HardwareProfile)
    (h : modelSpec ≠ none → scanned ≠ []) :
    defaultBaseline modelSpec (earlier ++ scanned) = defaultBaseline modelSpec scanned := by
  cases modelSpec with
  | none => rfl
  | some model => simp [defaultBaseline, List.getLast?_append_of_ne_nil _ (h (by simp))]

/-- The benchmarks of a pass in the order they ran: the baseline, then the others. -/
def passBenchmarks (baseline : TuningCandidateResult) (candidates : List TuningCandidateResult) :
    List BenchmarkResult :=
  baseline.benchmark ::
    (candidates.filter fun r => r.config ≠ baseline.config).map TuningCandidateResult.benchmark

/-- The results a pass decides on, in terms of its input and the hardware it scanned. -/
structure Tuned (modelSpec : Option ModelSpec) (baselineConfig : Option Config)
    (scanned : List HardwareProfile) (baseline : TuningCandidateResult)
    (candidates : List TuningCandidateResult) : Prop where
  baseline_config : baseline.config = baselineConfig.getD (defaultBaseline modelSpec scanned)
  scanned_ne_nil : baselineConfig = none → modelSpec ≠ none → scanned ≠ []
  baseline_measured : Measured baseline.config baseline.benchmark
  measured : ∀ r ∈ candidates, Measured r.config r.benchmark
  reused : ∀ r ∈ candidates, r.config = baseline.config → r = baseline
  configs : generateCandidates baseline.config = .ok (candidates.map TuningCandidateResult.config)

section tuned
variable {modelSpec : Option ModelSpec} {baselineConfig : Option Config}
  {scanned : List HardwareProfile} {baseline : TuningCandidateResult}
  {candidates : List TuningCandidateResult}

lemma Tuned.all_measured (h : Tuned modelSpec baselineConfig scanned baseline candidates) :
    ∀ r ∈ baseline :: candidates, Measured r.config r.benchmark :=
  List.forall_mem_cons.mpr ⟨h.baseline_measured, h.measured⟩

/-- What a pass decides on has been benchmarked in the pass. -/
lemma Tuned.benchmarked (h : Tuned modelSpec baselineConfig scanned baseline candidates) :
    ∀ r ∈ baseline :: candidates, r.benchmark ∈ passBenchmarks baseline candidates := by
  intro r hr
  by_cases hsame : r.config = baseline.config
  · have heq : r = baseline := by
      rcases List.mem_cons.mp hr with heq | hr
      · exact heq
      · exact h.reused r hr hsame
    rw [heq]
    exact List.mem_cons_self
  · rcases List.mem_cons.mp hr with rfl | hr
    · exact absurd rfl hsame
    · apply List.mem_cons_of_mem
      exact List.mem_map.mpr ⟨r, List.mem_filter.mpr ⟨hr, by simpa using hsame⟩, rfl⟩

end tuned

lemma requireRuntime_ensures (s : System W) :
    Ensures (serving env) requireRuntime s fun _ t _ => measurements t = [] ∧ scans t = [] := by
  have hsteps := requireRuntime_only.steps (H := serving env) (s := s)
  exact ⟨measurements_eq_nil hsteps (by simp [AsksOnly]), scans_eq_nil hsteps (by simp [AsksOnly])⟩

lemma baselineOr_ensures (modelSpec : Option ModelSpec) (baselineConfig : Option Config)
    (s : System W) :
    Ensures (serving env) (baselineOr modelSpec baselineConfig) s fun r t _ =>
      measurements t = [] ∧ ∀ config, r = .ok config →
        config = baselineConfig.getD (defaultBaseline modelSpec (scans t)) ∧
        (baselineConfig = none → modelSpec ≠ none → scans t ≠ []) := by
  cases baselineConfig with
  | some config => exact ensures_pure ⟨rfl, fun config' h => by cases h; exact ⟨rfl, by simp⟩⟩
  | none =>
    cases modelSpec with
    | none => exact ensures_pure ⟨rfl, fun config h => by cases h; exact ⟨rfl, by simp⟩⟩
    | some model =>
      refine (ensures_perform (I := services) (c := .scanHardware)
        (Q := fun r u _ => measurements u = [] ∧
          ∀ hw : HardwareProfile, r = .ok hw → scans u = [hw]) ⟨rfl, fun hw h => ?_⟩).bind ?_ ?_
      · simp only [scans, serving] at h ⊢
        simp [h]
      · intro hw u s' hpost
        obtain ⟨hu, hscan⟩ := hpost
        refine ensures_pure ⟨by simp [hu], fun config h => ?_⟩
        cases h
        simp [hscan hw rfl, defaultBaseline, heuristicConfig]
      · intro e u s' hpost
        obtain ⟨hu, -⟩ := hpost
        exact ⟨hu, fun config h => by cases h⟩

theorem tuneOnce_ensures (modelId : String) (modelSpec : Option ModelSpec)
    (baselineConfig : Option Config) (s : System W) :
    Ensures (serving env) (tuneOnce modelId modelSpec baselineConfig) s fun r t _ =>
      ∀ session, r = .ok session → ∃ baseline candidates,
        session = conclude modelId baseline candidates ∧
        Tuned modelSpec baselineConfig (scans t) baseline candidates ∧
        measurements t = passBenchmarks baseline candidates := by
  refine (requireRuntime_ensures s).bind_ok ?_
  intro _ t₁ s₁ hpost
  obtain ⟨hm₁, hs₁⟩ := hpost
  refine (baselineOr_ensures modelSpec baselineConfig s₁).bind_ok ?_
  intro config t₂ s₂ hpost
  obtain ⟨hm₂, hconfig⟩ := hpost
  refine (measure_ensures modelId config s₂).bind_ok ?_
  intro benchmark t₃ s₃ hb
  obtain ⟨hmeas, hm₃, hs₃⟩ := hb benchmark rfl
  refine (ensures_lift (Q := fun r t _ => t = [] ∧ r = generateCandidates config) ⟨rfl, rfl⟩).bind_ok ?_
  intro configs t₄ s₄ hpost
  obtain ⟨rfl, hgen⟩ := hpost
  refine (measureCandidates_ensures modelId ⟨config, benchmark⟩ configs s₄).bind_ok ?_
  intro candidates t₅ s₅ hcands
  obtain ⟨hmap, hcand, hs₅⟩ := hcands candidates rfl
  refine ensures_ok ⟨⟨config, benchmark⟩, candidates, rfl, ⟨?_, ?_, hmeas, ?_, hcand.reused, ?_⟩, ?_⟩
  · simp [(hconfig config rfl).1, hs₁, hs₃, hs₅]
  · intro hnone hspec
    simp [(hconfig config rfl).2 hnone hspec]
  · intro r hr
    by_cases he : r = ⟨config, benchmark⟩
    · subst he
      exact hmeas
    · exact hcand.measured r hr he
  · rw [hmap, hgen]
  · simp [passBenchmarks, hm₁, hm₂, hm₃, hcand.trace]

section handler
variable {σ : Type} {H : Handler services Exn σ} {s s' s'' : σ}

/-- An audit event that is saved ends the logging. -/
lemma logEvent_ok {modelId eventType : String} {details : List (String × Detail)}
    {r : AutopilotEvent}
    (h : H.handle (.storage (.saveAutopilotEvent { modelId, eventType, details })) s = (.ok r, s')) :
    exec H (logEvent modelId eventType details) s =
      ⟨.ok (), [⟨s, .storage (.saveAutopilotEvent { modelId, eventType, details }), .ok r⟩], s'⟩ := by
  simp only [logEvent, bind, Program.attempt, Program.bind, exec, h]
  rfl

/-- An iteration that reads a locked config notes the skip, and stops. -/
lemma iterate_of_locked {args : AutopilotArgs} (l : LoopState) {existing : TunedConfig}
    {event r : AutopilotEvent}
    (hevent : event = { modelId := args.modelId, eventType := "lock", details := [("config", .config existing.config)] })
    (hread : H.handle (.storage (.getTunedConfig args.modelId)) s = (.ok (some existing), s'))
    (hlocked : existing.isLocked = true)
    (hlog : H.handle (.storage (.saveAutopilotEvent event)) s' = (.ok r, s'')) :
    exec H (iterate args l) s = ⟨.ok (lockedSession args.modelId existing.config, l),
      [⟨s, .storage (.getTunedConfig args.modelId), .ok (some existing)⟩,
        ⟨s', .storage (.saveAutopilotEvent event), .ok r⟩], s''⟩ := by
  subst hevent
  have hget : exec H (getTunedConfig args.modelId) s = _ := exec_perform_ok hread
  have hnote := logEvent_ok hlog
  unfold iterate
  rw [exec_bind_ok (congrArg Outcome.result hget), hget]
  simp only [hlocked, ↓reduceIte]
  rw [exec_bind_ok (congrArg Outcome.result hnote), hnote]
  rfl

end handler

section conclude
variable (modelId : String) (baseline : TuningCandidateResult)
  (candidates : List TuningCandidateResult)

@[simp] lemma conclude_modelId : (conclude modelId baseline candidates).modelId = modelId := by
  unfold conclude
  split
  · rfl
  · split_ifs <;> rfl

@[simp] lemma conclude_baseline : (conclude modelId baseline candidates).baseline = baseline := by
  unfold conclude
  split
  · rfl
  · split_ifs <;> rfl

@[simp] lemma conclude_candidates :
    (conclude modelId baseline candidates).candidates = candidates := by
  unfold conclude
  split
  · rfl
  · split_ifs <;> rfl

/-- A session either keeps the baseline or accepts a working candidate under another
config that improves on it. -/
theorem conclude_cases :
    (conclude modelId baseline candidates).outcome = .keptBaseline ∧
        (conclude modelId baseline candidates).winner = baseline ∨
      (conclude modelId baseline candidates).outcome = .acceptedNew ∧
        (conclude modelId baseline candidates).winner ∈ candidates ∧
        (conclude modelId baseline candidates).winner.benchmark.works ∧
        (conclude modelId baseline candidates).winner.config ≠ baseline.config ∧
        isMeaningfulImprovement (conclude modelId baseline candidates).winner baseline := by
  unfold conclude
  split
  · exact .inl ⟨rfl, rfl⟩
  · rename_i best hbest
    obtain ⟨hmem, hworks⟩ := pickBest_mem hbest
    split_ifs with h
    · exact .inr ⟨rfl, hmem, hworks, h.1, h.2⟩
    · exact .inl ⟨rfl, rfl⟩

lemma conclude_winner_mem : (conclude modelId baseline candidates).winner ∈ baseline :: candidates := by
  rcases conclude_cases modelId baseline candidates with ⟨-, hwinner⟩ | ⟨-, hmem, -⟩
  · rw [hwinner]
    exact List.mem_cons_self
  · exact List.mem_cons_of_mem _ hmem

theorem conclude_accepted_iff :
    (conclude modelId baseline candidates).outcome = .acceptedNew ↔
      ∃ best, pickBest candidates = some best ∧ best.config ≠ baseline.config ∧
        isMeaningfulImprovement best baseline := by
  unfold conclude
  cases hbest : pickBest candidates with
  | none => simp [keptBaseline]
  | some best =>
    dsimp only
    split_ifs with h
    · simpa using h
    · simpa [keptBaseline] using h

/-- An accepted session has the best of the candidates for its winner. -/
theorem conclude_winner (h : (conclude modelId baseline candidates).outcome = .acceptedNew) :
    pickBest candidates = some (conclude modelId baseline candidates).winner := by
  unfold conclude at h ⊢
  cases hbest : pickBest candidates with
  | none => simp [hbest, keptBaseline] at h
  | some best =>
    simp only [hbest] at h
    dsimp only
    split_ifs at h ⊢ with haccepted
    · rfl
    · simp [keptBaseline] at h

/-- When the baseline is broken and some candidate works, a new config is accepted. -/
theorem conclude_over_broken (hbroken : baseline.benchmark.succeeded = false)
    (hreused : ∀ r ∈ candidates, r.config = baseline.config → r = baseline)
    (hworks : ∃ r ∈ candidates, r.benchmark.works) :
    (conclude modelId baseline candidates).outcome = .acceptedNew := by
  obtain ⟨r, hr, hrw⟩ := hworks
  unfold conclude
  cases hbest : pickBest candidates with
  | none => simp [pickBest_eq_none.mp hbest r hr] at hrw
  | some best =>
    obtain ⟨hmem, hbw⟩ := pickBest_mem hbest
    have hne : best.config ≠ baseline.config := by
      intro he
      rw [hreused best hmem he] at hbw
      simp [BenchmarkResult.works, hbroken] at hbw
    simp [hne, improvement_over_broken hbw hbroken]

end conclude

end LlmMax.AutotuneSpec
