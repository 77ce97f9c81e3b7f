import LlmMax.AutopilotRollback

/-! A failing runtime and a failing config look alike to the probe of the active config.
What a pass does next depends on the history, and only the tuning pass asks whether the
runtime is there at all. -/
namespace LlmMax.AutopilotOutage
open Domain BenchMetrics AutotuneState Storage EffectProgram Services BenchRunner
open AutotuneDecision AutotuneEngine AutotuneSpec AutopilotPass AutopilotRun AutopilotRollback

variable {W : Type} {env : Environment W}

def unavailable (env : Environment W) : Exn :=
  .runtimeUnavailable (env.name ++ " runtime is not available")

/-- The calls that run a prompt. -/
def Runs (c : Call) : Prop := ∃ modelId prompt options, c = .adapterRun modelId prompt options

lemma not_runs_of_asksOnly {c : Call} (h : AsksOnly c) : ¬ Runs c := by
  rintro ⟨modelId, prompt, options, rfl⟩
  rcases h with h | h <;> cases h

section tuning
variable (args : AutopilotArgs) (l : LoopState) (baselineConfig : Option Config) (s : System W)

lemma requireRuntime_error {e : Exn}
    (h : (env.isAvailable s.world).1 = .error e ∨
      (env.isAvailable s.world).1 = .ok false ∧ e = unavailable env) :
    (exec (serving env) requireRuntime s).result = .error e ∧
      ∀ x ∈ (exec (serving env) requireRuntime s).steps, AsksOnly x.call := by
  refine ⟨?_, requireRuntime_only.steps⟩
  rcases h with h | ⟨h, rfl⟩
  · have hasks : (exec (serving env) isAvailable s).result = .error e := by
      simp [isAvailable, Program.perform, exec, serving, h]
    exact congrArg Outcome.result (exec_bind_error hasks _)
  · have hasks : (exec (serving env) isAvailable s).result = .ok false := by
      simp [isAvailable, Program.perform, exec, serving, h]
    exact congrArg Outcome.result (exec_bind_ok hasks _)

/-- A pass of tuning that does not find the runtime raises before anything else. -/
lemma tuneForward_unavailable {e : Exn}
    (h : (env.isAvailable s.world).1 = .error e ∨
      (env.isAvailable s.world).1 = .ok false ∧ e = unavailable env) :
    (exec (serving env) (tuneForward args l baselineConfig) s).result = .error e ∧
      ∀ x ∈ (exec (serving env) (tuneForward args l baselineConfig) s).steps, AsksOnly x.call := by
  obtain ⟨hresult, hsteps⟩ := requireRuntime_error s h
  have htune : exec (serving env) (tuneOnce args.modelId args.modelSpec baselineConfig) s =
      ⟨.error e, (exec (serving env) requireRuntime s).steps,
        (exec (serving env) requireRuntime s).state⟩ := exec_bind_error hresult _
  have hforward : exec (serving env) (tuneForward args l baselineConfig) s =
      ⟨.error e, (exec (serving env) requireRuntime s).steps,
        (exec (serving env) requireRuntime s).state⟩ := by
    unfold tuneForward
    rw [exec_bind_error (congrArg Outcome.result htune), htune]
  rw [hforward]
  exact ⟨rfl, hsteps⟩

lemma tuneForward_asks : ∃ rest, (exec (serving env) (tuneForward args l baselineConfig) s).steps =
    ⟨s, .isAvailable, (env.isAvailable s.world).1⟩ :: rest :=
  ⟨_, rfl⟩

lemma measure_runs (modelId : String) (config : Config) :
    ∃ x ∈ (exec (serving env) (measure modelId config) s).steps, Runs x.call := by
  have hprefix := exec_bind_isPrefix (serving env) (runBenchmark modelId config.orNone)
    (fun benchmark => do
      Program.perform (I := services) (.measured benchmark)
      return benchmark) s
  refine ⟨_, hprefix.subset (List.mem_cons_self ..), ⟨_, _, _, rfl⟩⟩

/-- A pass of tuning that finds the runtime benchmarks the given baseline. -/
lemma tuneForward_available (config : Config) (h : (env.isAvailable s.world).1 = .ok true) :
    ∃ x ∈ (exec (serving env) (tuneForward args l (some config)) s).steps, Runs x.call := by
  have hasks : (exec (serving env) isAvailable s).result = .ok true := by
    simp [isAvailable, Program.perform, exec, serving, h]
  have hrequire : (exec (serving env) requireRuntime s).result = .ok () :=
    congrArg Outcome.result (exec_bind_ok hasks _)
  obtain ⟨x, hx, hruns⟩ : ∃ x ∈ (exec (serving env) (measure args.modelId config)
      (exec (serving env) requireRuntime s).state).steps, Runs x.call := measure_runs ..
  refine ⟨x, (exec_bind_isPrefix (serving env) (tuneOnce _ _ _) _ s).subset ?_, hruns⟩
  unfold tuneOnce
  rw [exec_bind_ok hrequire]
  refine List.mem_append_right _ ?_
  exact (exec_bind_isPrefix (serving env) (measure args.modelId config) _ _).subset hx

end tuning

section pass
variable {args : AutopilotArgs} {l : LoopState} {s : System W}

/-- The read of the stored config that every pass begins with. -/
def readStep (args : AutopilotArgs) (s : System W) : Step services Exn (System W) :=
  ⟨s, .storage (.getTunedConfig args.modelId), .ok (s.store.getTunedConfig args.modelId)⟩

/-- A pass without a stored config or without a history goes straight to tuning. -/
lemma iterate_forward (env : Environment W) (h : s.store.getTunedConfig args.modelId = none ∨
      ∃ c, s.store.getTunedConfig args.modelId = some c ∧ c.isLocked = false ∧ l.history = []) :
    ∃ baselineConfig, exec (serving env) (iterate args l) s =
      let rest := exec (serving env) (tuneForward args l baselineConfig) s
      ⟨rest.result, readStep args s :: rest.steps, rest.state⟩ := by
  have hread : exec (serving env) (getTunedConfig args.modelId) s =
      ⟨.ok (s.store.getTunedConfig args.modelId), [readStep args s], s⟩ := rfl
  unfold iterate
  rw [exec_bind_ok (congrArg Outcome.result hread), hread]
  rcases h with hnone | ⟨c, hsome, hl, hh⟩
  · exact ⟨none, by rw [hnone]; rfl⟩
  · refine ⟨some c.config, ?_⟩
    simp only [hsome, hl, Bool.false_eq_true, ↓reduceIte]
    have hcheck : exec (serving env) (checkActive args l c.config) s = ⟨.ok none, [], s⟩ := by
      unfold checkActive
      rw [if_pos hh]
      rfl
    rw [exec_bind_ok (congrArg Outcome.result hcheck), hcheck]
    rfl

/-- What a pass does after a failed probe. -/
def afterProbe (args : AutopilotArgs) (l : LoopState) (probe : TuningCandidateResult) :
    Engine (TuningSession × LoopState) :=
  match rollbackTarget probe l.history with
  | some target => rollBack args l probe target
  | none => tuneForward args l (some probe.config)

/-- A pass whose probe fails: the read, the probe, and what follows from the history. -/
lemma iterate_failed {c : TunedConfig} {b : BenchmarkResult}
    (hread : s.store.getTunedConfig args.modelId = some c) (hl : c.isLocked = false)
    (hh : l.history ≠ [])
    (hprobe : (exec (serving env) (measure args.modelId c.config) s).result = .ok b)
    (hfailed : b.works = false) :
    exec (serving env) (iterate args l) s =
      let probe := exec (serving env) (measure args.modelId c.config) s
      let rest := exec (serving env) (afterProbe args l ⟨c.config, b⟩) probe.state
      ⟨rest.result, readStep args s :: probe.steps ++ rest.steps, rest.state⟩ := by
  have hget : exec (serving env) (getTunedConfig args.modelId) s =
      ⟨.ok (some c), [readStep args s], s⟩ := by
    rw [← hread]
    rfl
  have hcheck : exec (serving env) (checkActive args l c.config) s =
      let probe := exec (serving env) (measure args.modelId c.config) s
      ⟨.ok ((rollbackTarget ⟨c.config, b⟩ l.history).map fun target => (⟨c.config, b⟩, target)),
        probe.steps, probe.state⟩ := by
    unfold checkActive
    rw [if_neg hh, exec_bind_ok hprobe]
    simp [needsRollback_eq, hfailed, pure, exec]
  unfold iterate
  rw [exec_bind_ok (congrArg Outcome.result hget), hget]
  simp only [hl, Bool.false_eq_true, ↓reduceIte]
  rw [exec_bind_ok (congrArg Outcome.result hcheck), hcheck, afterProbe]
  cases rollbackTarget ⟨c.config, b⟩ l.history <;> rfl

/-- A pass over a stored config with a history benchmarks that config first. -/
lemma iterate_probes {c : TunedConfig} (hread : s.store.getTunedConfig args.modelId = some c)
    (hl : c.isLocked = false) (hh : l.history ≠ []) :
    (exec (serving env) (measure args.modelId c.config) s).steps ⊆
      (exec (serving env) (iterate args l) s).steps := by
  have hget : exec (serving env) (getTunedConfig args.modelId) s =
      ⟨.ok (some c), [readStep args s], s⟩ := by
    rw [← hread]
    rfl
  intro x hx
  unfold iterate
  rw [exec_bind_ok (congrArg Outcome.result hget), hget]
  simp only [hl, Bool.false_eq_true, ↓reduceIte]
  refine List.mem_append_right _ ((exec_bind_isPrefix _ (checkActive args l c.config) _ _).subset ?_)
  unfold checkActive
  rw [if_neg hh]
  exact (exec_bind_isPrefix _ (measure args.modelId c.config) _ _).subset hx

/-- The history offers a config to go back to. -/
def HasRollback (l : LoopState) (c : TunedConfig) : Prop :=
  ∃ r ∈ l.history, r.benchmark.works ∧ r.config ≠ c.config

lemma hasRollback_iff {c : TunedConfig} (b : BenchmarkResult) :
    HasRollback l c ↔ ∃ target, rollbackTarget ⟨c.config, b⟩ l.history = some target := by
  rw [← Option.ne_none_iff_exists', Ne, rollbackTarget_eq_none]
  simp [HasRollback]

lemma rollBack_spec (args : AutopilotArgs) (l : LoopState) (probe : TuningCandidateResult) (target : Config) (s : System W) :
    savedConfigs (exec (serving env) (rollBack args l probe target) s).steps =
        [{ modelId := args.modelId, config := target }] ∧
      ∀ x ∈ (exec (serving env) (rollBack args l probe target) s).steps, ¬ Runs x.call := by
  refine ⟨(rollBack_ensures args l probe target s).1.saves, fun x hx hruns => ?_⟩
  obtain ⟨modelId, prompt, options, hc⟩ := hruns
  have := (commit_only args l (.revert probe target)).steps x hx
  rw [hc] at this
  simp [Committing] at this

end pass

section broken
variable (args : AutopilotArgs) (l : LoopState)

instance (l : LoopState) (c : TunedConfig) : Decidable (HasRollback l c) :=
  inferInstanceAs (Decidable (∃ r ∈ l.history, _))

/-- What a pass owes to a failed probe, given its steps and its result after the probe: no
prompt is run again; the config that the history offers is saved, or without one nothing is
saved and the loop ends. -/
def Stops (probe : TuningCandidateResult) (rest : Outcome services Exn (TuningSession × LoopState)
    (System W)) : Prop :=
  (∀ x ∈ rest.steps, ¬ Runs x.call) ∧
    match rollbackTarget probe l.history with
    | some target => savedConfigs rest.steps = [{ modelId := args.modelId, config := target }]
    | none => savedConfigs rest.steps = [] ∧ ∃ e, rest.result = .error e

lemma asksOnly_savedConfigs {t : Trace W} (h : ∀ x ∈ t, AsksOnly x.call) : savedConfigs t = [] :=
  savedConfigs_eq_nil h (by simp [AsksOnly])

lemma stops_iff {c : TunedConfig} {b : BenchmarkResult} {s : System W} :
    Stops args l ⟨c.config, b⟩ (exec (serving env) (afterProbe args l ⟨c.config, b⟩) s) ↔
      HasRollback l c ∨ (env.isAvailable s.world).1 ≠ .ok true := by
  rw [hasRollback_iff b, Stops, afterProbe]
  cases htarget : rollbackTarget ⟨c.config, b⟩ l.history with
  | some target =>
    obtain ⟨hsaves, hruns⟩ := rollBack_spec args l ⟨c.config, b⟩ target s
    simp only [Option.some.injEq, exists_eq', true_or, iff_true]
    exact ⟨hruns, hsaves⟩
  | none =>
    simp only [reduceCtorEq, exists_false, false_or]
    constructor
    · rintro ⟨hruns, -⟩ havailable
      obtain ⟨x, hx, hr⟩ := tuneForward_available args l s c.config havailable
      exact hruns x hx hr
    · intro havailable
      have hmissing : ∃ e, (env.isAvailable s.world).1 = .error e ∨
          (env.isAvailable s.world).1 = .ok false ∧ e = unavailable env := by
        cases hr : (env.isAvailable s.world).1 with
        | error e => exact ⟨e, .inl rfl⟩
        | ok answer =>
          cases answer with
          | true => exact absurd hr havailable
          | false => exact ⟨_, .inr ⟨rfl, rfl⟩⟩
      obtain ⟨e, he⟩ := hmissing
      obtain ⟨hresult, hsteps⟩ := tuneForward_unavailable args l (some c.config) s he
      exact ⟨fun x hx => not_runs_of_asksOnly (hsteps x hx), asksOnly_savedConfigs hsteps, e, hresult⟩

/-- In every pass of a run that probes a stored config and finds it failing, the pass stops
there exactly when the history offers a config to go back to or the runtime is gone. -/
theorem passes_stop_iff (env : Environment W) (draws : ℕ) (start : System W) :
    ∀ p ∈ passes env args draws (.start args) start, ∀ c b,
      p.2.store.getTunedConfig args.modelId = some c → c.isLocked = false → p.1.history ≠ [] →
      (exec (serving env) (measure args.modelId c.config) p.2).result = .ok b → b.works = false →
      let probe := exec (serving env) (measure args.modelId c.config) p.2
      ∃ rest, exec (serving env) (iterate args p.1) p.2 =
          ⟨rest.result, readStep args p.2 :: probe.steps ++ rest.steps, rest.state⟩ ∧
        (Stops args p.1 ⟨c.config, b⟩ rest ↔
          HasRollback p.1 c ∨ (env.isAvailable probe.state.world).1 ≠ .ok true) := by
  intro p _ c b hread hl hh hprobe hfailed
  exact ⟨_, iterate_failed hread hl hh hprobe hfailed, stops_iff args p.1⟩

/-- A runtime that answers except under the context 4096. -/
def without4096 : Environment ℚ :=
  clocked [] (fun _ => true) fun _ options =>
    if options = some (Config.ofCtx 4096) then .error "out of memory" else .ok 10

def storing4096 : System ℚ :=
  ⟨0, { tunedConfigs := [{ modelId := "llama3.2:1b", config := Config.ofCtx 4096 }] }⟩

def failed4096 : BenchmarkResult := failure (Config.ofCtx 4096) "out of memory" 0 1

theorem passes_stop_with_rollback :
    let args := seededWith [2048, 4096]
    let probe := exec (serving without4096) (measure args.modelId (Config.ofCtx 4096)) storing4096
    ∃ rest, exec (serving without4096) (iterate args (.start args)) storing4096 =
        ⟨rest.result, readStep args storing4096 :: probe.steps ++ rest.steps, rest.state⟩ ∧
      Stops args (.start args) ⟨Config.ofCtx 4096, failed4096⟩ rest := by
  obtain ⟨rest, hrest, hstops⟩ := passes_stop_iff (seededWith [2048, 4096]) without4096 1
    storing4096 _ (start_mem_passes rfl 0 _)
    { modelId := "llama3.2:1b", config := Config.ofCtx 4096 } failed4096 (by decide +kernel) rfl
    (by decide +kernel) (by decide +kernel) (by decide +kernel)
  exact ⟨rest, hrest, hstops.mpr (.inl (by decide +kernel))⟩

/-- With only the failing config in the history, the pass tunes forward and goes on. -/
theorem passes_tune_forward :
    ¬ ∀ p ∈ passes without4096 (seededWith [4096]) 1 (.start (seededWith [4096])) storing4096, ∀ c b,
      p.2.store.getTunedConfig (seededWith [4096]).modelId = some c → c.isLocked = false →
      p.1.history ≠ [] →
      (exec (serving without4096) (measure (seededWith [4096]).modelId c.config) p.2).result = .ok b →
      b.works = false →
      let probe := exec (serving without4096) (measure (seededWith [4096]).modelId c.config) p.2
      ∃ rest, exec (serving without4096) (iterate (seededWith [4096]) p.1) p.2 =
          ⟨rest.result, readStep (seededWith [4096]) p.2 :: probe.steps ++ rest.steps, rest.state⟩ ∧
        Stops (seededWith [4096]) p.1 ⟨c.config, b⟩ rest := by
  intro h
  obtain ⟨rest, hrest, -, hstops⟩ := h _ (start_mem_passes rfl 0 _)
    { modelId := "llama3.2:1b", config := Config.ofCtx 4096 } failed4096 (by decide +kernel) rfl
    (by decide +kernel) (by decide +kernel) (by decide +kernel)
  have htarget : rollbackTarget ⟨Config.ofCtx 4096, failed4096⟩
      (LoopState.start (seededWith [4096])).history = none := by decide +kernel
  rw [htarget] at hstops
  obtain ⟨-, e, he⟩ := hstops
  have hok : (exec (serving without4096) (iterate (seededWith [4096]) (.start (seededWith [4096])))
      storing4096).result.isOk = true := by decide +kernel
  rw [hrest, he] at hok
  cases hok

end broken

section outage
variable {args : AutopilotArgs} {l : LoopState} {s : System W}

/-- The runtime does not answer this call: it is not there, and a prompt ends in an error. -/
def Down : Step services Exn (System W) → Prop
  | ⟨_, .isAvailable, reply⟩ => reply = .ok false
  | ⟨_, .adapterRun _ _ _, reply⟩ => ∃ message, reply = .error (.exception message)
  | _ => True

def auditedAs (t : Trace W) : List String :=
  t.filterMap fun x => match x.call with
    | .storage (.saveAutopilotEvent event) => some event.eventType
    | _ => none

/-- The pass leaves the configs alone, reports no change and raises. -/
def Untouched (env : Environment W)
    (pass : Outcome services Exn (TuningSession × LoopState) (System W)) : Prop :=
  savedConfigs pass.steps = [] ∧ (∀ event ∈ auditedAs pass.steps, event ≠ "rollback" ∧ event ≠ "adjust") ∧
    pass.result = .error (unavailable env)

lemma runPrompts_error {modelId prompt message : String} {options : Option Config}
    (h : (env.run modelId prompt options s.world).1 = .error (.exception message))
    (prompts : List String) (latencies rates : List ℚ) (attempted : ℕ) :
    (exec (serving env) (runPrompts modelId options (prompt :: prompts) latencies rates attempted)
      s).result = .ok (failure (options.getD ∅) message latencies.length (attempted + 1)) := by
  have hattempt : (exec (serving env) (Program.attempt (I := services) (ε := Exn)
      (.adapterRun modelId prompt options)) s).result = .ok (.error (.exception message)) := by
    simp [Program.attempt, exec, serving, h]
  exact congrArg Outcome.result (exec_bind_ok hattempt _)

/-- While the runtime is down a probe is a failed benchmark like any other. -/
lemma measure_down (modelId : String) (config : Config)
    (h : ∀ x ∈ (exec (serving env) (measure modelId config) s).steps, Down x) :
    ∃ b, (exec (serving env) (measure modelId config) s).result = .ok b ∧ b.works = false := by
  obtain ⟨message, hmessage⟩ := h _ (List.mem_cons_self ..)
  have hrun : (exec (serving env) (runBenchmark modelId config.orNone) s).result =
      .ok (failure (config.orNone.getD ∅) message 0 1) := runPrompts_error hmessage _ [] [] 0
  refine ⟨_, ?_, failure_works (config.orNone.getD ∅) message 0 1⟩
  unfold AutotuneEngine.measure
  rw [exec_bind_ok hrun]
  rfl

lemma tuneForward_down (baselineConfig : Option Config)
    (h : ∀ x ∈ (exec (serving env) (tuneForward args l baselineConfig) s).steps, Down x) :
    (exec (serving env) (tuneForward args l baselineConfig) s).result = .error (unavailable env) ∧
      ∀ x ∈ (exec (serving env) (tuneForward args l baselineConfig) s).steps, AsksOnly x.call := by
  obtain ⟨rest, hrest⟩ : ∃ rest, (exec (serving env) (tuneForward args l baselineConfig) s).steps =
      ⟨s, .isAvailable, (env.isAvailable s.world).1⟩ :: rest := tuneForward_asks ..
  have hdown : Down _ := h _ (hrest ▸ List.mem_cons_self ..)
  exact tuneForward_unavailable args l baselineConfig s (.inr ⟨hdown, rfl⟩)

/-- Calls that neither save a config nor write an audit event. -/
def Silent (c : Call) : Prop := Measuring c ∨ ∃ m, c = .storage (.getTunedConfig m)

lemma untouched_of_silent {pass : Outcome services Exn (TuningSession × LoopState) (System W)}
    (h : ∀ x ∈ pass.steps, Silent x.call) (hresult : pass.result = .error (unavailable env)) :
    Untouched env pass := by
  have haudit : auditedAs pass.steps = [] := by
    refine List.filterMap_eq_nil_iff.mpr fun x hx => ?_
    have := h x hx
    split
    · rename_i event hc
      rw [hc] at this
      simp [Silent, Measuring] at this
    · rfl
  have hsaves : savedConfigs pass.steps = [] := savedConfigs_eq_nil h (by simp [Silent, Measuring])
  exact ⟨hsaves, by simp [haudit], hresult⟩

lemma silent_of_asksOnly {c : Call} (h : AsksOnly c) : Silent c := by
  rcases h with rfl | rfl
  · exact .inl trivial
  · exact .inl trivial

/-- A pass during an outage leaves everything alone, unless the history offers a config to
go back to. -/
theorem iterate_untouched_iff (hunlocked : ¬ s.store.Locked args.modelId)
    (hdown : ∀ x ∈ (exec (serving env) (iterate args l) s).steps, Down x) :
    Untouched env (exec (serving env) (iterate args l) s) ↔
      ¬ ∃ c, s.store.getTunedConfig args.modelId = some c ∧ HasRollback l c := by
  have hread : Silent (readStep args s).call := .inr ⟨_, rfl⟩
  have hforward (h : s.store.getTunedConfig args.modelId = none ∨ ∃ c,
      s.store.getTunedConfig args.modelId = some c ∧ c.isLocked = false ∧ l.history = []) :
      Untouched env (exec (serving env) (iterate args l) s) := by
    obtain ⟨baselineConfig, hiterate⟩ := iterate_forward env h
    rw [hiterate] at hdown ⊢
    obtain ⟨hresult, hsteps⟩ := tuneForward_down baselineConfig fun x hx =>
      hdown x (List.mem_cons_of_mem _ hx)
    refine untouched_of_silent (fun x hx => ?_) hresult
    rcases List.mem_cons.mp hx with rfl | hx
    · exact hread
    · exact silent_of_asksOnly (hsteps x hx)
  cases hstored : s.store.getTunedConfig args.modelId with
  | none => simp [hforward (.inl hstored)]
  | some c =>
    have hl : c.isLocked = false := by
      by_contra hl
      exact hunlocked ⟨c, hstored, by simpa using hl⟩
    by_cases hh : l.history = []
    · simp [hforward (.inr ⟨c, hstored, hl, hh⟩), HasRollback, hh]
    · obtain ⟨b, hprobe, hfailed⟩ := measure_down args.modelId c.config
        fun x hx => hdown x (iterate_probes hstored hl hh hx)
      rw [iterate_failed hstored hl hh hprobe hfailed, afterProbe] at hdown ⊢
      simp only [Option.some.injEq, exists_eq_left', hasRollback_iff b]
      cases htarget : rollbackTarget ⟨c.config, b⟩ l.history with
      | some target =>
        refine iff_of_false (fun h => ?_) (by simp)
        have hnone := h.1
        simp only [savedConfigs_append, (rollBack_spec args l ⟨c.config, b⟩ target _).1] at hnone
        simp at hnone
      | none =>
        refine iff_of_true ?_ (by simp)
        simp only [htarget] at hdown ⊢
        obtain ⟨hresult, hsteps⟩ := tuneForward_down (some c.config) fun x hx =>
          hdown x (List.mem_append_right _ hx)
        refine untouched_of_silent (fun x hx => ?_) hresult
        rcases List.mem_append.mp hx with hx | hx
        · rcases List.mem_cons.mp hx with rfl | hx
          · exact hread
          · exact .inl ((measure_only args.modelId c.config).steps x hx)
        · exact silent_of_asksOnly (hsteps x hx)

/-- In every run, a pass throughout which the runtime is down leaves everything alone and
raises exactly when there is no stored config with a config to go back to. -/
theorem passes_untouched_iff (env : Environment W) (args : AutopilotArgs) (draws : ℕ)
    (start : System W) :
    ∀ p ∈ passes env args draws (.start args) start, ¬ p.2.store.Locked args.modelId →
      (∀ x ∈ (exec (serving env) (iterate args p.1) p.2).steps, Down x) →
      (Untouched env (exec (serving env) (iterate args p.1) p.2) ↔
        ¬ ∃ c, p.2.store.getTunedConfig args.modelId = some c ∧ HasRollback p.1 c) :=
  fun _ _ hunlocked hdown => iterate_untouched_iff hunlocked hdown

/-- A machine whose runtime is gone. -/
def gone : Environment ℚ := clocked [] (fun _ => false) fun _ _ => .error "connection refused"

lemma gone_down {α : Type} (p : Engine α) (s : System ℚ) :
    ∀ x ∈ (exec (serving gone) p s).steps, Down x := by
  refine exec_steps (serving gone) (fun s c => ?_) p s
  cases c with
  | isAvailable => rfl
  | adapterRun => exact ⟨_, rfl⟩
  | _ => trivial

theorem passes_untouched_unseeded :
    Untouched gone (exec (serving gone) (iterate (seededWith []) (.start (seededWith []))) storing4096) :=
  (passes_untouched_iff gone (seededWith []) 1 storing4096 _ (start_mem_passes rfl 0 _)
    (by decide +kernel) (gone_down _ _)).mpr (by
      rintro ⟨c, -, r, hr, -⟩
      cases hr)

/-- With an earlier success in the history, the outage is taken for a broken config. -/
theorem passes_roll_back_outage :
    ¬ ∀ p ∈ passes gone (seededWith [2048]) 1 (.start (seededWith [2048])) storing4096,
      ¬ p.2.store.Locked (seededWith [2048]).modelId →
      (∀ x ∈ (exec (serving gone) (iterate (seededWith [2048]) p.1) p.2).steps, Down x) →
      Untouched gone (exec (serving gone) (iterate (seededWith [2048]) p.1) p.2) :=
  fun h => absurd (h _ (start_mem_passes rfl 0 _) (by decide +kernel) (gone_down _ _)).1
    (by decide +kernel)

end outage

end LlmMax.AutopilotOutage
