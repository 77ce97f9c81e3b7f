import LlmMax.AutopilotRun

/-! Every config the autopilot saves has been seen to work, and is a change from the
config that was active. The history carries the evidence from pass to pass. -/
namespace LlmMax.AutopilotEvidence
open Domain BenchMetrics AutotuneState Storage EffectProgram Services History BenchRunner
open AutotuneDecision AutotuneEngine AutotuneSpec AutopilotPass AutopilotRun

variable {W : Type}

/-- The config was measured as working: by an entry of the given history, or by a
benchmark of this run. -/
def KnownGood (args : AutopilotArgs) (past : Trace W) (config : Config) : Prop :=
  (∃ r ∈ args.initialHistory, r.config = config ∧ r.benchmark.works) ∨
    ∃ b ∈ measurements past, b.config = config ∧ b.works

/-- The config the model runs under: the stored one, or the default by the newest scan. -/
def activeConfig (args : AutopilotArgs) (past : Trace W) (store : InMemoryStorage) : Config :=
  ((store.getTunedConfig args.modelId).map TunedConfig.config).getD
    (defaultBaseline args.modelSpec (scans past))

/-- If the step saves a config, it saves a known-good one that is not active yet. -/
def SavesKnownGood (args : AutopilotArgs) (past : Trace W) (x : Step services Exn (System W)) :
    Prop :=
  ∀ c, x.call = .storage (.saveTunedConfig c) →
    c.modelId = args.modelId ∧ KnownGood args past c.config ∧
      c.config ≠ activeConfig args past x.before.store

/-- The working entries of the history are backed by evidence. -/
def Backed (args : AutopilotArgs) (past : Trace W) (l : LoopState) : Prop :=
  ∀ r ∈ l.history, r.benchmark.works → KnownGood args past r.config

variable {args : AutopilotArgs} {l : LoopState} {past t u : Trace W} {stored : Option TunedConfig}
  {move : Move}

lemma KnownGood.append {config : Config} (h : KnownGood args past config) :
    KnownGood args (past ++ t) config := by
  rcases h with h | ⟨b, hb, hconfig, hw⟩
  · exact .inl h
  · exact .inr ⟨b, by simp [hb], hconfig, hw⟩

lemma Backed.append (h : Backed args past l) : Backed args (past ++ t) l :=
  fun r hr hw => (h r hr hw).append

lemma knownGood_of_measured {r : TuningCandidateResult} (hr : Measured r.config r.benchmark)
    (hm : r.benchmark ∈ measurements t) (hw : r.benchmark.works) :
    KnownGood args (past ++ t) r.config :=
  .inr ⟨r.benchmark, by simp [hm], hr.config_eq, hw⟩

lemma activeConfig_append {store : InMemoryStorage} (h : scans u = []) :
    activeConfig args (past ++ u) store = activeConfig args past store := by
  simp [activeConfig, h]

/-- The baseline of a forward pass is the config that is active when the pass decides. -/
lemma forward_active {probes : List BenchmarkResult} {baseline : TuningCandidateResult}
    {candidates : List TuningCandidateResult} {store : InMemoryStorage}
    (h : Forward args l (store.getTunedConfig args.modelId) t probes baseline candidates) :
    activeConfig args (past ++ t) store = baseline.config := by
  rw [activeConfig, h.baseline_config, scans_append]
  cases hstored : store.getTunedConfig args.modelId with
  | some c => rfl
  | none =>
    simp only [Option.map_none, Option.getD_none]
    exact defaultBaseline_append _ _ _ (h.scanned_ne_nil (by simp [hstored]))

/-- What a forward pass decides on has been benchmarked in the pass. -/
lemma forward_measured {probes : List BenchmarkResult} {baseline : TuningCandidateResult}
    {candidates : List TuningCandidateResult}
    (h : Forward args l stored t probes baseline candidates) {r : TuningCandidateResult}
    (hr : r ∈ baseline :: candidates) : r.benchmark ∈ measurements t := by
  rw [h.trace]
  exact List.mem_append_right _ (h.benchmarked r hr)

/-- What a pass saves is known to work and is not the active config. -/
theorem chosen_saves_knownGood {store : InMemoryStorage} (hback : Backed args past l)
    (h : Chosen args l (store.getTunedConfig args.modelId) t move) :
    ∀ c ∈ move.saves args, c.modelId = args.modelId ∧ KnownGood args (past ++ t) c.config ∧
      c.config ≠ activeConfig args (past ++ t) store := by
  intro c hc
  have hadopt {probes baseline candidates}
      (tuned : Forward args l (store.getTunedConfig args.modelId) t probes baseline candidates)
      (accepted : (conclude args.modelId baseline candidates).outcome = .acceptedNew) :
      KnownGood args (past ++ t) (conclude args.modelId baseline candidates).winner.config ∧
        (conclude args.modelId baseline candidates).winner.config ≠
          activeConfig args (past ++ t) store := by
    rcases conclude_cases args.modelId baseline candidates with hk | ⟨-, hmem, hw, hne, -⟩
    · exact absurd (hk.1.symm.trans accepted) (by decide)
    · rw [forward_active tuned]
      have hmeasured := forward_measured tuned (List.mem_cons_of_mem _ hmem)
      exact ⟨knownGood_of_measured (tuned.measured _ hmem) hmeasured hw, hne⟩
  cases h with
  | skip => simp [Move.saves] at hc
  | @revert existing b target read _ _ _ _ found =>
    obtain rfl := List.mem_singleton.mp hc
    obtain ⟨r, hr, rfl, hw, hne⟩ := rollbackTarget_eq_some found
    refine ⟨rfl, (hback r hr hw).append, ?_⟩
    simpa [activeConfig, read] using hne
  | forward tuned verdict =>
    generalize clockReads t = times at verdict
    cases verdict with
    | keep => simp [Move.saves] at hc
    | withhold => simp [Move.saves] at hc
    | adopt accepted =>
      obtain rfl := List.mem_singleton.mp hc
      exact ⟨by simp, hadopt tuned accepted⟩
    | adoptUncapped accepted =>
      obtain rfl := List.mem_singleton.mp hc
      exact ⟨by simp, hadopt tuned accepted⟩

/-- What a pass adds to the history has been benchmarked in the pass. -/
lemma chosen_learned (h : Chosen args l stored t move) :
    ∀ r ∈ move.learned, Measured r.config r.benchmark ∧ r.benchmark ∈ measurements t := by
  intro r hr
  cases h with
  | skip => simp [Move.learned] at hr
  | revert => simp [Move.learned] at hr
  | @forward probes baseline candidates _ tuned verdict =>
    have hbaseline : Measured baseline.config baseline.benchmark ∧
        baseline.benchmark ∈ measurements t :=
      ⟨tuned.baseline_measured, forward_measured tuned List.mem_cons_self⟩
    have hwinner : Measured (conclude args.modelId baseline candidates).winner.config
          (conclude args.modelId baseline candidates).winner.benchmark ∧
        (conclude args.modelId baseline candidates).winner.benchmark ∈ measurements t := by
      have hmem := conclude_winner_mem args.modelId baseline candidates
      exact ⟨tuned.all_measured _ hmem, forward_measured tuned hmem⟩
    generalize clockReads t = times at verdict
    cases verdict with
    | withhold =>
      obtain rfl := List.mem_singleton.mp hr
      simpa using hbaseline
    | keep =>
      obtain rfl := List.mem_singleton.mp hr
      exact hwinner
    | adopt =>
      obtain rfl := List.mem_singleton.mp hr
      exact hwinner
    | adoptUncapped =>
      obtain rfl := List.mem_singleton.mp hr
      exact hwinner

variable (env : Environment W)

/-- One pass, complete or cut short by an exception, saves known-good configs only and
keeps the history backed. -/
theorem iterate_backed {s : System W} (hback : Backed args past l) :
    Ensures (serving env) (iterate args l) s fun r t _ =>
      Each (SavesKnownGood args) past t ∧
        ∀ session l', r = .ok (session, l') → Backed args (past ++ t) l' := by
  have hquiet {past t : Trace W} (h : savedConfigs t = []) : Each (SavesKnownGood args) past t := by
    refine each_of_forall fun past' x hx c hc => ?_
    have hmem : c ∈ savedConfigs t := List.mem_filterMap.mpr ⟨x, hx, by rw [hc]⟩
    rw [h] at hmem
    cases hmem
  rw [iterate_eq]
  refine ((choose_ensures args l s).and
    (R := fun _ t s' => savedConfigs t = [] ∧ s'.store = s.store)
    ⟨choose_savedConfigs args l s, (choose_store args l s).2⟩).bind ?_ ?_
  · intro move t₁ s₁ hpost
    obtain ⟨hchosen, hsaves, hstore⟩ := hpost
    have hchosen := hchosen move rfl
    refine ((commit_ensures args l move s₁).and (R := fun _ (t : Trace W) _ => ∀ x ∈ t, Committing x.call)
      (commit_only args l move).steps).mono ?_
    intro r t₂ s₂ hpost
    obtain ⟨⟨hsaved, hcommitted⟩, honly⟩ := hpost
    refine ⟨(each_append _ _ _).mpr ⟨hquiet hsaves, each_iff.mpr fun pre x post hsplit c hc => ?_⟩, ?_⟩
    · obtain ⟨hbefore, hmem⟩ := hsaved.first x (by simp [hsplit]) c hc
      have hcommitting : ∀ z ∈ pre, Committing z.call := fun z hz => honly z (by simp [hsplit, hz])
      have hpre : scans pre = [] := scans_eq_nil hcommitting (by simp [Committing])
      obtain ⟨hmodel, hgood, hne⟩ := chosen_saves_knownGood hback hchosen c hmem
      rw [hbefore, hstore, activeConfig_append hpre]
      exact ⟨hmodel, hgood.append, hne⟩
    · intro session l' hr entry hentry hw
      rw [(hcommitted session l' hr).history_eq] at hentry
      rcases List.mem_append.mp hentry with hold | hnew
      · exact (hback entry hold hw).append
      · obtain ⟨hmeasured, hmem⟩ := chosen_learned hchosen entry hnew
        rw [← List.append_assoc]
        exact (knownGood_of_measured hmeasured hmem hw).append
  · intro e t₁ s₁ hpost
    obtain ⟨-, hsaves, -⟩ := hpost
    exact ⟨hquiet hsaves, fun session l' h => by cases h⟩

/-- Over every run, every config that is saved works by the evidence so far, and differs
from the config that is active at that moment. -/
theorem autopilot_saves_knownGood (args : AutopilotArgs) (draws : ℕ) (s : System W) :
    Each (SavesKnownGood args) [] (exec (serving env) (autopilotLoop args draws (.start args)) s).steps := by
  refine autopilotLoop_each (fun past l _ => Backed args past l)
    (fun past l s h => iterate_backed env h) ?_ ?_ ?_
  · intro past x hx c hc
    rw [hc] at hx
    exact hx.elim
  · exact fun past l s t s' h _ _ => h.append
  · exact fun r hr hw => .inl ⟨r, hr, rfl, hw⟩

end LlmMax.AutopilotEvidence
