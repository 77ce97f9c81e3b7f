import LlmMax.CandidateSet
import LlmMax.ImprovementOrder
import LlmMax.TuneAccounts

/-! What a pass decides: it accepts a new config exactly when one of the candidates is a
meaningful improvement, and then the best of them. -/
namespace LlmMax.TuneDecision
open Domain BenchMetrics AutotuneState Storage EffectProgram Services BenchRunner BenchSummary
open AutotuneDecision LauncherConfig AutotuneEngine AutotuneSpec TuneAccounts
open AutopilotConvergence CandidateSet ImprovementOrder

/-- The measured throughput; a missing one counts as zero. -/
def rate (r : TuningCandidateResult) : ℚ := r.benchmark.tokensPerSec.getD 0

/-- The measured p95 latency; a missing one counts as infinite. -/
def latency (r : TuningCandidateResult) : WithTop ℚ := r.benchmark.p95LatencyS

/-- The candidate works, and it is worth switching to from the baseline. -/
structure Improves (candidate baseline : TuningCandidateResult) : Prop where
  succeeded : candidate.benchmark.succeeded
  no_oom : candidate.benchmark.oomOccurred = false
  better : baseline.benchmark.succeeded = false ∨ rate baseline = 0 ∧ 0 < rate candidate ∨
    0 < rate baseline ∧ rate baseline * (105 / 100) ≤ rate candidate

/-- More throughput, else a lower latency, else no larger a context. -/
def Precedes (best r : TuningCandidateResult) : Prop :=
  rate r < rate best ∨ rate r = rate best ∧
    (latency best < latency r ∨
      latency best = latency r ∧ contextOf best.config ≤ contextOf r.config)

section ranking
variable {best r baseline : TuningCandidateResult} {results : List TuningCandidateResult}

/-- The negated latency is the higher the lower the latency is. -/
lemma negated_le_iff (p q : Option ℚ) :
    (show WithBot ℚ from p.map fun p95 => -p95) ≤ (show WithBot ℚ from q.map fun p95 => -p95) ↔
      (show WithTop ℚ from q) ≤ (show WithTop ℚ from p) := by
  cases p with
  | none => exact iff_of_true bot_le le_top
  | some p =>
    cases q with
    | none => exact iff_of_false (WithBot.not_coe_le_bot _) (WithTop.not_top_le_coe _)
    | some q =>
      exact WithBot.coe_le_coe.trans (neg_le_neg_iff.trans WithTop.coe_le_coe.symm)

lemma score_le_iff : score r ≤ score best ↔
    rate r < rate best ∨ rate r = rate best ∧ latency best ≤ latency r :=
  Prod.Lex.toLex_le_toLex.trans
    (or_congr Iff.rfl (and_congr Iff.rfl (negated_le_iff _ _)))

/-- In a list ordered by a relation the earlier of two entries is the smaller one. -/
lemma rel_of_idxOf_le {α : Type} [DecidableEq α] {R : α → α → Prop} {l : List α}
    (hl : l.Pairwise R) {a b : α} (ha : a ∈ l) (hb : b ∈ l) (h : l.idxOf a ≤ l.idxOf b) :
    a = b ∨ R a b := by
  have hia := List.idxOf_lt_length_of_mem ha
  have hib := List.idxOf_lt_length_of_mem hb
  rcases h.eq_or_lt with heq | hlt
  · exact .inl ((List.idxOf_inj ha).mp heq)
  · have hrel := List.pairwise_iff_getElem.mp hl _ _ hia hib hlt
    rw [List.getElem_idxOf, List.getElem_idxOf] at hrel
    exact .inr hrel

/-- What is picked precedes everything that works. -/
lemma pickBest_precedes
    (hsorted : results.Pairwise fun c d => contextOf c.config < contextOf d.config)
    (hbest : pickBest results = some best) (hr : r ∈ results) (hworks : r.benchmark.works) :
    Precedes best r := by
  have hmem : r ∈ results.filter fun r => r.benchmark.works := List.mem_filter.mpr ⟨hr, hworks⟩
  obtain ⟨hbestmem, hmax, hfirst⟩ := List.argmax_eq_some_iff.mp hbest
  rcases score_le_iff.mp (hmax r hmem) with hlt | ⟨hrate, hlatency⟩
  · exact .inl hlt
  · rcases hlatency.lt_or_eq with hlt | heq
    · exact .inr ⟨hrate, .inl hlt⟩
    · have hidx := hfirst r hmem (score_le_iff.mpr (.inr ⟨hrate.symm, heq.ge⟩))
      have hle : contextOf best.config ≤ contextOf r.config := by
        rcases rel_of_idxOf_le (hsorted.filter _) hbestmem hmem hidx with rfl | hlt
        · exact le_rfl
        · exact hlt.le
      exact .inr ⟨hrate, .inr ⟨heq, hle⟩⟩

end ranking

section improvement
variable {candidate best baseline : TuningCandidateResult}

lemma Improves.works (h : Improves candidate baseline) : candidate.benchmark.works := by
  simp [BenchmarkResult.works, h.succeeded, h.no_oom]

/-- Five percent more, in exact arithmetic. -/
lemma improvement_iff (hnonneg : 0 ≤ rate baseline) :
    isMeaningfulImprovement candidate baseline ↔ Improves candidate baseline := by
  have hpercent : (1 : ℚ) + defaultMinImprovementPct / 100 = 105 / 100 := by
    norm_num [defaultMinImprovementPct]
  rw [improvement_iff_exceeds hnonneg]
  unfold Exceeds
  rw [hpercent]
  constructor
  · intro h
    obtain ⟨hworks, hbetter⟩ := h
    simp only [BenchmarkResult.works, Bool.and_eq_true, Bool.not_eq_eq_eq_not, Bool.not_true] at hworks
    exact ⟨hworks.1, hworks.2, hbetter⟩
  · intro h
    exact ⟨h.works, h.better⟩

/-- What improves on a baseline still does so at a higher throughput. -/
lemma Improves.mono (h : Improves candidate baseline) (hworks : best.benchmark.works)
    (hrate : rate candidate ≤ rate best) : Improves best baseline := by
  simp only [BenchmarkResult.works, Bool.and_eq_true, Bool.not_eq_eq_eq_not, Bool.not_true] at hworks
  refine ⟨hworks.1, hworks.2, ?_⟩
  rcases h.better with h | ⟨hzero, hpos⟩ | ⟨hpos, hle⟩
  · exact .inl h
  · exact .inr (.inl ⟨hzero, hpos.trans_le hrate⟩)
  · exact .inr (.inr ⟨hpos, hle.trans hrate⟩)

lemma not_improves_self (r : TuningCandidateResult) : ¬ Improves r r := by
  intro h
  rcases h.better with hfailed | ⟨hzero, hpos⟩ | ⟨hpos, hle⟩
  · simp [h.succeeded] at hfailed
  · exact absurd hpos (by rw [hzero]; exact lt_irrefl 0)
  · linarith

end improvement

section conclude
variable {modelId : String} {baseline : TuningCandidateResult}
  {candidates : List TuningCandidateResult}

variable (modelId) in
/-- The best candidate is put to the test for all of them. -/
theorem conclude_improves_iff (hnonneg : 0 ≤ rate baseline)
    (hreused : ∀ r ∈ candidates, r.config = baseline.config → r = baseline)
    (hsorted : candidates.Pairwise fun c d => contextOf c.config < contextOf d.config) :
    (conclude modelId baseline candidates).outcome = .acceptedNew ↔
      ∃ c ∈ candidates, Improves c baseline := by
  rw [conclude_accepted_iff]
  constructor
  · intro h
    obtain ⟨best, hbest, -, himproves⟩ := h
    exact ⟨best, (pickBest_mem hbest).1, (improvement_iff hnonneg).mp himproves⟩
  · intro h
    obtain ⟨c, hc, himproves⟩ := h
    cases hbest : pickBest candidates with
    | none =>
      have hbroken := pickBest_eq_none.mp hbest c hc
      rw [himproves.works] at hbroken
      cases hbroken
    | some best =>
      obtain ⟨hmem, hworks⟩ := pickBest_mem hbest
      have hrate : rate c ≤ rate best := by
        rcases pickBest_precedes hsorted hbest hc himproves.works with hlt | ⟨heq, -⟩
        · exact hlt.le
        · exact heq.le
      have hbetter : Improves best baseline := himproves.mono hworks hrate
      refine ⟨best, rfl, ?_, (improvement_iff hnonneg).mpr hbetter⟩
      intro hsame
      rw [hreused best hmem hsame] at hbetter
      exact not_improves_self baseline hbetter

/-- A session that accepts a config accepts the best candidate, and that improves. -/
lemma conclude_accepted (hnonneg : 0 ≤ rate baseline)
    (hsorted : candidates.Pairwise fun c d => contextOf c.config < contextOf d.config)
    (haccepted : (conclude modelId baseline candidates).outcome = .acceptedNew) :
    (conclude modelId baseline candidates).winner ∈ candidates ∧
      Improves (conclude modelId baseline candidates).winner baseline ∧
      (conclude modelId baseline candidates).winner.config ≠ baseline.config ∧
      ∀ c ∈ candidates, c.benchmark.works →
        Precedes (conclude modelId baseline candidates).winner c := by
  have hbest := conclude_winner modelId baseline candidates haccepted
  rcases conclude_cases modelId baseline candidates with ⟨hkept, -⟩ | ⟨-, hmem, -, hne, himproves⟩
  · rw [hkept] at haccepted
    cases haccepted
  · exact ⟨hmem, (improvement_iff hnonneg).mp himproves, hne,
      fun c hc hworks => pickBest_precedes hsorted hbest hc hworks⟩

end conclude

variable {W : Type} {env : Environment W}

/-- Where the runtime reports a throughput, it is not negative. -/
def NonnegativeRates (env : Environment W) : Prop :=
  ∀ modelId prompt options w result, (env.run modelId prompt options w).1 = .ok result →
    ∀ tokensPerSec, result.tokensPerSec = some tokensPerSec → 0 ≤ tokensPerSec

lemma rateSample_nonneg {result : RunResult}
    (h : ∀ tokensPerSec, result.tokensPerSec = some tokensPerSec → 0 ≤ tokensPerSec) :
    ∀ sample ∈ rateSample result, 0 ≤ sample := by
  intro sample hsample
  unfold rateSample at hsample
  cases hrate : result.tokensPerSec with
  | none => simp [hrate] at hsample
  | some tokensPerSec =>
    simp only [hrate] at hsample
    split_ifs at hsample
    · cases hsample
    · rw [List.mem_singleton.mp hsample]
      exact h tokensPerSec hrate

/-- Then no benchmark has a negative throughput. -/
lemma runBenchmark_nonneg (hrates : NonnegativeRates env) :
    Yields env fun b => 0 ≤ b.tokensPerSec.getD 0 := by
  intro modelId options s b hb
  have hpost := runPrompts_ensures env modelId options benchmarkPrompts [] [] 0 s
  unfold Ensures at hpost
  obtain ⟨answers, hans, hresult⟩ | ⟨answers, exc, hbroke, hresult⟩ := hpost
  · obtain ⟨p50, p95, -, -, hsummary⟩ := summary_inv (hresult.symm.trans hb)
    rw [hsummary, average_getD]
    apply div_nonneg _ (Nat.cast_nonneg _)
    apply List.sum_nonneg
    intro sample hsample
    rw [List.nil_append] at hsample
    obtain ⟨result, hmem, hsample⟩ := List.mem_flatMap.mp hsample
    apply rateSample_nonneg _ sample hsample
    have hreply : Except.ok result ∈
        adapterReplies (exec (serving env) (runBenchmark modelId options) s).steps := by
      unfold runBenchmark
      rw [hans.replies]
      exact List.mem_map_of_mem hmem
    obtain ⟨modelId', prompt, options', w, hrun⟩ := mem_adapterReplies _ s hreply
    exact hrates modelId' prompt options' w result hrun.symm
  · have hbroken := hresult.symm.trans hb
    unfold broken at hbroken
    cases hcaught : exc.caught with
    | none => simp [hcaught] at hbroken
    | some message =>
      simp only [hcaught, Except.ok.injEq] at hbroken
      rw [← hbroken]
      exact le_rfl

/-- What a pass measures and what it decides on it. -/
structure Decides (modelId : String) (modelSpec : Option ModelSpec) (baselineConfig : Option Config)
    (t : Trace W) (session : TuningSession) : Prop where
  baseline_config :
    session.baseline.config = baselineConfig.getD (defaultBaseline modelSpec (scans t))
  candidates : generateCandidates session.baseline.config =
    .ok (session.candidates.map TuningCandidateResult.config)
  benchmarks : measurements t = passBenchmarks session.baseline session.candidates
  own : ∀ r ∈ session.baseline :: session.candidates, r.benchmark.config = r.config
  reused : ∀ r ∈ session.candidates, r.config = session.baseline.config → r = session.baseline
  calls : adapterRuns t = (measurements t).flatMap (callsOf modelId)
  once : ∀ config, ((measurements t).map BenchmarkResult.config).count config =
    if config ∈ session.baseline.config :: session.candidates.map TuningCandidateResult.config
      then 1 else 0
  accepted_iff : session.outcome = .acceptedNew ↔
    ∃ c ∈ session.candidates, Improves c session.baseline
  accepted : session.outcome = .acceptedNew → session.winner ∈ session.candidates ∧
    Improves session.winner session.baseline ∧ session.winner.config ≠ session.baseline.config ∧
    ∀ c ∈ session.candidates, c.benchmark.works → Precedes session.winner c
  otherwise : session.outcome ≠ .acceptedNew →
    session.outcome = .keptBaseline ∧ session.winner = session.baseline

/-- The configs a pass benchmarks are the baseline's and those of the other candidates. -/
lemma passBenchmarks_configs {baseline : TuningCandidateResult}
    {candidates : List TuningCandidateResult}
    (hown : ∀ r ∈ baseline :: candidates, r.benchmark.config = r.config) :
    (passBenchmarks baseline candidates).map BenchmarkResult.config =
      baseline.config :: (candidates.map TuningCandidateResult.config).filter (· ≠ baseline.config) := by
  unfold passBenchmarks
  rw [List.map_cons, hown baseline List.mem_cons_self, List.filter_map, List.map_map]
  apply congrArg
  apply List.map_congr_left
  intro r hr
  exact hown r (List.mem_cons_of_mem _ (List.mem_of_mem_filter hr))

lemma count_cons_filter_ne {α : Type} [DecidableEq α] {l : List α} (hl : l.Nodup) (a x : α) :
    (a :: l.filter (· ≠ a)).count x = if x ∈ a :: l then 1 else 0 := by
  have hnodup : (a :: l.filter (· ≠ a)).Nodup := by
    rw [List.nodup_cons]
    exact ⟨by simp, hl.filter _⟩
  rw [hnodup.count]
  congr 1
  simp only [List.mem_cons, List.mem_filter, decide_eq_true_eq, eq_iff_iff]
  tauto

/-- On a machine that can be relied on, whatever its runs do, a pass returns a session that
accepts a new config exactly when some candidate improves on the baseline. -/
theorem tuneOnce_decides (henv : Dependable env) (hrates : NonnegativeRates env) (modelId : String)
    (modelSpec : Option ModelSpec) {baselineConfig : Option Config}
    (hbaseline : ∀ config, baselineConfig = some config → Numeric config) (s : System W) :
    ∃ session, (exec (serving env) (tuneOnce modelId modelSpec baselineConfig) s).result = .ok session ∧
      Decides modelId modelSpec baselineConfig
        (exec (serving env) (tuneOnce modelId modelSpec baselineConfig) s).steps session := by
  obtain ⟨⟨session, hresult, -⟩, hcalls, hnonneg⟩ :=
    tuneOnce_accounts henv (runBenchmark_nonneg hrates) modelId modelSpec hbaseline s
  obtain ⟨baseline, candidates, rfl, htuned, hmeas⟩ :=
    @tuneOnce_ensures _ env modelId modelSpec baselineConfig s session hresult
  have hown : ∀ r ∈ baseline :: candidates, r.benchmark.config = r.config :=
    fun r hr => (htuned.all_measured r hr).config_eq
  have hrate : 0 ≤ rate baseline := by
    apply hnonneg
    rw [hmeas]
    exact List.mem_cons_self
  have hascending := generateCandidates_ascending htuned.configs
  have hsorted := List.pairwise_map.mp hascending
  have hnodup : (candidates.map TuningCandidateResult.config).Nodup :=
    hascending.imp fun hlt heq => absurd hlt (by rw [heq]; exact lt_irrefl _)
  have hiff := conclude_improves_iff modelId hrate htuned.reused hsorted
  refine ⟨_, hresult, ?_⟩
  constructor
  · rw [conclude_baseline]
    exact htuned.baseline_config
  · rw [conclude_baseline, conclude_candidates]
    exact htuned.configs
  · rw [conclude_baseline, conclude_candidates]
    exact hmeas
  · rw [conclude_baseline, conclude_candidates]
    exact hown
  · rw [conclude_baseline, conclude_candidates]
    exact htuned.reused
  · exact hcalls
  · intro config
    rw [conclude_baseline, conclude_candidates, hmeas, passBenchmarks_configs hown]
    exact count_cons_filter_ne hnodup _ _
  · rw [conclude_baseline, conclude_candidates]
    exact hiff
  · intro haccepted
    rw [conclude_baseline, conclude_candidates]
    exact conclude_accepted hrate hsorted haccepted
  · intro hother
    rw [conclude_baseline]
    rcases conclude_cases modelId baseline candidates with hkept | ⟨haccepted, -⟩
    · exact hkept
    · exact absurd haccepted hother

/-- A machine that is twice as fast under one config. -/
def fasterUnder (config : Config) : Environment ℚ :=
  clocked [] (fun _ => true) fun _ options => .ok (if options = some config then 200 else 100)

lemma fasterUnder_dependable (config : Config) : Dependable (fasterUnder config) :=
  ⟨fun _ => rfl, fun _ => ⟨_, rfl⟩, clocked_neverInterrupts _ _ _⟩

lemma fasterUnder_nonnegative (config : Config) : NonnegativeRates (fasterUnder config) := by
  intro modelId prompt options w result h tokensPerSec hrate
  simp only [fasterUnder, clocked, Except.ok.injEq] at h
  subst h
  cases hrate
  split_ifs
  · norm_num
  · norm_num

/-- A pass from the default on that machine. -/
theorem tuneOnce_decides_faster :
    ∃ session, (exec (serving (fasterUnder (Config.ofCtx 4096))) (tuneOnce "m" none none)
        ⟨0, ⟨[], [], []⟩⟩).result = .ok session ∧
      Decides "m" none none (exec (serving (fasterUnder (Config.ofCtx 4096))) (tuneOnce "m" none none)
        ⟨0, ⟨[], [], []⟩⟩).steps session :=
  tuneOnce_decides (fasterUnder_dependable _) (fasterUnder_nonnegative _) "m" none
    (fun _ h => by cases h) _

end LlmMax.TuneDecision
