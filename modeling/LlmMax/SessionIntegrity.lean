import LlmMax.AutopilotOutage
import LlmMax.AutopilotEvidence

/-! What a session says about the configs it names: whether each of them is paired with a
measurement of its own. -/
namespace LlmMax.SessionIntegrity
open Domain BenchMetrics AutotuneState Storage EffectProgram Services History BenchRunner
open AutotuneDecision AutotuneEngine AutotuneSpec AutopilotPass AutopilotRun AutopilotAgreement
open AutopilotEvidence AutopilotRollback AutopilotOutage

variable {W : Type} {env : Environment W} {args : AutopilotArgs}

/-- The result is one that was measured for its config. -/
def Genuine (known : List (Config × BenchmarkResult)) (r : TuningCandidateResult) : Prop :=
  (r.config, r.benchmark) ∈ known ∧ r.benchmark.config = r.config

/-- Every result of the session was measured for its config, and a config that the model is
switched to works. -/
structure Sound (known : List (Config × BenchmarkResult)) (session : TuningSession) : Prop where
  genuine : ∀ r ∈ session.baseline :: session.winner :: session.candidates, Genuine known r
  usable : session.outcome = .acceptedNew ∨ session.outcome = .rolledBack →
    session.winner.benchmark.works

instance (known : List (Config × BenchmarkResult)) (r : TuningCandidateResult) :
    Decidable (Genuine known r) := inferInstanceAs (Decidable (_ ∧ _))

lemma genuine_of_measured {t : Trace W} {known : List (Config × BenchmarkResult)}
    {r : TuningCandidateResult} (hr : Measured r.config r.benchmark)
    (hm : r.benchmark ∈ measurements t) : Genuine (known ++ benched t) r := by
  refine ⟨List.mem_append_right _ (List.mem_map.mpr ⟨r.benchmark, hm, ?_⟩), hr.config_eq⟩
  rw [hr.config_eq]

lemma Genuine.append {known more : List (Config × BenchmarkResult)} {r : TuningCandidateResult}
    (h : Genuine known r) : Genuine (known ++ more) r :=
  ⟨List.mem_append_left _ h.1, h.2⟩

section conclude
variable {modelId : String} {modelSpec : Option ModelSpec} {baselineConfig : Option Config}
  {scanned : List HardwareProfile} {baseline : TuningCandidateResult}
  {candidates : List TuningCandidateResult} {t : Trace W} {probes : List BenchmarkResult}
  {known : List (Config × BenchmarkResult)}

theorem conclude_sound (h : Tuned modelSpec baselineConfig scanned baseline candidates)
    (ht : measurements t = probes ++ passBenchmarks baseline candidates) :
    Sound (known ++ benched t) (conclude modelId baseline candidates) := by
  have hgenuine : ∀ r ∈ baseline :: candidates, Genuine (known ++ benched t) r := by
    intro r hr
    apply genuine_of_measured (h.all_measured r hr)
    rw [ht]
    exact List.mem_append_right _ (h.benchmarked r hr)
  constructor
  · rw [conclude_baseline, conclude_candidates]
    intro r hr
    rcases List.mem_cons.mp hr with rfl | hr
    · exact hgenuine _ List.mem_cons_self
    · rcases List.mem_cons.mp hr with rfl | hr
      · exact hgenuine _ (conclude_winner_mem _ _ _)
      · exact hgenuine r (List.mem_cons_of_mem _ hr)
  · intro hswitched
    rcases conclude_cases modelId baseline candidates with ⟨hkept, -⟩ | ⟨-, -, hworks, -⟩
    · rw [hkept] at hswitched
      simp at hswitched
    · exact hworks

end conclude

/-- A session of `tune_once` is always sound. -/
theorem tuneOnce_sound (modelId : String) (modelSpec : Option ModelSpec)
    (baselineConfig : Option Config) (s : System W) :
    Ensures (serving env) (tuneOnce modelId modelSpec baselineConfig) s fun r t _ =>
      ∀ session, r = .ok session → Sound (benched t) session := by
  apply (tuneOnce_ensures modelId modelSpec baselineConfig s).mono
  intro r t s' hpost session hr
  obtain ⟨baseline, candidates, rfl, htuned, hmeas⟩ := hpost session hr
  have hsound : Sound ([] ++ benched t) (conclude modelId baseline candidates) :=
    conclude_sound htuned (hmeas.trans (List.nil_append _).symm)
  exact hsound

/-- The pass finds an unlocked config stored whose benchmark, the first of the pass, fails, and
the history offers another one to go back to. -/
def Reverts (args : AutopilotArgs) (y : Yield W) : Prop :=
  ∃ c ∈ y.before.store.getTunedConfig args.modelId, c.isLocked = false ∧ HasRollback y.loop c ∧
    ∃ b ∈ (measurements y.steps).head?, b.works = false

/-- The session is sound by what is known once it is yielded, unless the model is locked. -/
def YieldsSound (args : AutopilotArgs) (earlier : List (Yield W)) (y : Yield W) : Prop :=
  y.session.outcome ≠ .locked → Sound (evidence args (earlier ++ [y])) y.session

section pass
variable {y : Yield W} {known : List (Config × BenchmarkResult)}

lemma reverts_iff (h : IsPass args y) : Reverts args y ↔ y.session.outcome = .rolledBack := by
  constructor
  · intro hreverts
    obtain ⟨c, hc, hunlocked, hrollback, b, hb, hfailed⟩ := hreverts
    obtain ⟨target, htarget⟩ := (hasRollback_iff b).mp hrollback
    exact isPass_rolls_back h hc hunlocked hb hfailed htarget
  · intro hr
    obtain ⟨c, b, hback⟩ := isPass_rolledBack h hr
    refine ⟨c, hback.stored, hback.unlocked, (hasRollback_iff b).mpr ⟨_, hback.target⟩, b, ?_,
      hback.failed⟩
    rw [hback.probed]
    rfl

/-- The winner of a rollback is shown with the failed probe of the config it replaces. -/
lemma isPass_rolledBack_fails (h : IsPass args y) (hr : y.session.outcome = .rolledBack) :
    y.session.winner.benchmark.works = false := by
  obtain ⟨move, t₁, t₂, pass⟩ := h
  have houtcome := chosen_outcome pass.chosen
  rw [← pass.committed.session_eq, hr] at houtcome
  rw [pass.committed.session_eq]
  cases pass.chosen with
  | revert read unlocked known measured failed => exact failed
  | skip => cases houtcome
  | forward tuned verdict =>
    generalize clockReads t₁ = times at verdict
    cases verdict with
    | keep => cases houtcome
    | withhold => cases houtcome
    | adopt => cases houtcome
    | adoptUncapped => cases houtcome

/-- Every other session than that of a rollback or a lock is sound. -/
lemma isPass_sound (h : IsPass args y) (hlocked : y.session.outcome ≠ .locked)
    (hback : y.session.outcome ≠ .rolledBack) : Sound (known ++ benched y.steps) y.session := by
  obtain ⟨move, t₁, t₂, pass⟩ := h
  have houtcome := chosen_outcome pass.chosen
  rw [← pass.committed.session_eq] at houtcome
  have hbenched : benched y.steps = benched t₁ := by
    unfold benched
    rw [pass.measurements]
  rw [hbenched, pass.committed.session_eq]
  cases pass.chosen with
  | skip => exact absurd houtcome hlocked
  | revert => exact absurd houtcome hback
  | @forward _ baseline candidates _ tuned verdict =>
    have hsound : Sound (known ++ benched t₁) (conclude args.modelId baseline candidates) :=
      conclude_sound tuned.toTuned tuned.trace
    generalize clockReads t₁ = times at verdict
    cases verdict with
    | keep => exact hsound
    | adopt => exact hsound
    | adoptUncapped => exact hsound
    | withhold =>
      constructor
      · intro r hr
        apply hsound.genuine
        rcases List.mem_cons.mp hr with rfl | hr
        · exact List.mem_cons_self
        · rcases List.mem_cons.mp hr with rfl | hr
          · exact List.mem_cons_self
          · exact List.mem_cons_of_mem _ (List.mem_cons_of_mem _ hr)
      · intro hswitched
        simp [Move.session, limitedSession] at hswitched

end pass

/-- Over every run the sessions are sound exactly if no pass reverts; those of one-shot passes
always are. -/
theorem sessions_sound_iff (env : Environment W) (args : AutopilotArgs) (draws : ℕ) (s : System W) :
    (∀ modelId modelSpec baselineConfig s,
      Ensures (serving env) (tuneOnce modelId modelSpec baselineConfig) s fun r t _ =>
        ∀ session, r = .ok session → Sound (benched t) session) ∧
    (Each (YieldsSound args) [] (run env args draws s) ↔
      ∀ y ∈ run env args draws s, ¬ Reverts args y) := by
  refine ⟨tuneOnce_sound, ?_⟩
  have hpasses : ∀ y ∈ run env args draws s, IsPass args y := by
    intro y hy
    obtain ⟨pre, post, hsplit⟩ := List.append_of_mem hy
    exact (each_iff.mp (run_follows draws s) pre y post hsplit).pass
  constructor
  · intro hsound y hy hreverts
    obtain ⟨pre, post, hsplit⟩ := List.append_of_mem hy
    have hback := (reverts_iff (hpasses y hy)).mp hreverts
    have hy' := each_iff.mp hsound pre y post hsplit (by rw [hback]; exact nofun)
    have hworks := hy'.usable (.inr hback)
    rw [isPass_rolledBack_fails (hpasses y hy) hback] at hworks
    cases hworks
  · intro hsafe
    apply each_iff.mpr
    intro pre y post hsplit hlocked
    have hy : y ∈ run env args draws s := by simp [hsplit]
    have hback : y.session.outcome ≠ .rolledBack := fun hr =>
      hsafe y hy ((reverts_iff (hpasses y hy)).mpr hr)
    rw [List.nil_append, evidence_append]
    exact isPass_sound (hpasses y hy) hlocked hback

/-- The first pass goes back from 4096 to 2048, with the failure under 4096 as its benchmark. -/
theorem rollback_shows_failed_benchmark :
    (∀ r ∈ (seededWith [2048]).initialHistory, r.benchmark.config = r.config) ∧
    ¬ Each (YieldsSound (seededWith [2048])) [] (run without4096 (seededWith [2048]) 1 storing4096) := by
  constructor
  · decide +kernel
  · intro hsound
    have hfails : ∃ y ∈ (run without4096 (seededWith [2048]) 1 storing4096).head?,
        y.session.outcome = .rolledBack ∧ y.session.winner.benchmark.works = false := by
      decide +kernel
    obtain ⟨y, hy, hback, hfailed⟩ := hfails
    obtain ⟨rest, hrest⟩ := List.head?_eq_some_iff.mp hy
    have hy' := each_iff.mp hsound [] y rest hrest (by rw [hback]; exact nofun)
    have hworks := hy'.usable (.inr hback)
    rw [hfailed] at hworks
    cases hworks

end LlmMax.SessionIntegrity
