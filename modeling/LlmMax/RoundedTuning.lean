import LlmMax.EffectCouplings
import LlmMax.OllamaAdapter
import LlmMax.TuneDecision

/-! Tuning on rounded figures beside tuning on exact ones: the two passes make the same calls, and
differ in their verdict only where the gain is within the rounding of the threshold. -/
namespace LlmMax.RoundedTuning
open Domain BenchMetrics AutotuneState EffectProgram EffectCouplings Services BenchRunner
open AutotuneDecision AutotuneEngine AutotuneSpec CandidateSet Rounding OllamaAdapter TuneDecision

/-- Two positive rates, as near as rounding to two decimals leaves them. -/
structure NearRate (rounded exact : ℚ) : Prop where
  pos : 0 < rounded
  exact_pos : 0 < exact
  near : |rounded - exact| ≤ 1 / 200

/-- A benchmark from rounded figures, and the one from the exact figures of the same runs. -/
structure Near (rounded exact : BenchmarkResult) : Prop where
  config : rounded.config = exact.config
  rate : Option.Rel NearRate rounded.tokensPerSec exact.tokensPerSec
  p50 : rounded.p50LatencyS = exact.p50LatencyS.map (roundTo 3)
  p95 : rounded.p95LatencyS = exact.p95LatencyS.map (roundTo 3)
  oom : rounded.oomOccurred = exact.oomOccurred
  error : rounded.error = exact.error
  completed : rounded.samplesCompleted = exact.samplesCompleted
  attempted : rounded.samplesAttempted = exact.samplesAttempted

structure NearResult (rounded exact : TuningCandidateResult) : Prop where
  config : rounded.config = exact.config
  benchmark : Near rounded.benchmark exact.benchmark

/-- Sessions made of benchmarks that are near. -/
structure NearSession (session exact : TuningSession) : Prop where
  baseline : NearResult session.baseline exact.baseline
  candidates : List.Forall₂ NearResult session.candidates exact.candidates

/-- The candidate works and is five percent faster than the baseline, give or take that much. -/
structure Gains (slack : ℚ) (candidate baseline : TuningCandidateResult) : Prop where
  works : candidate.benchmark.works
  better : baseline.benchmark.succeeded = false ∨ rate baseline = 0 ∧ 0 < rate candidate ∨
    0 < rate baseline ∧ rate baseline * (105 / 100) ≤ rate candidate + slack

/-- What rounding to two decimals can make of the comparison with the threshold. -/
def slack : ℚ := 41 / 4000

/-- The verdict of a session holds of the exact figures, give or take the slack. -/
structure Verdict (session exact : TuningSession) : Prop where
  accepted : session.outcome = .acceptedNew → ∃ winner ∈ exact.candidates,
    winner.config = session.winner.config ∧ Gains slack winner exact.baseline
  kept : session.outcome = .keptBaseline →
    ∀ candidate ∈ exact.candidates, ¬ Gains (-slack) candidate exact.baseline

/-- The two passes make the same runs and leave the same state, and they raise the same
exception or return sessions that are near, with a verdict that holds of both. -/
structure RoundsSafely {W : Type} (out exact : Outcome services Exn TuningSession (System W)) :
    Prop where
  state : out.state = exact.state
  runs : adapterRuns out.steps = adapterRuns exact.steps
  result : Alike (fun session exactSession => NearSession session exactSession ∧
    Verdict session exactSession) out.result exact.result

/-- The result of a run rounded, beside the exact one: the rates that count are paired. -/
structure RoundedRun (rounded exact : RunResult) : Prop where
  duration : rounded.totalDurationS = roundTo 3 exact.totalDurationS
  rates : List.Forall₂ NearRate (rateSample rounded) (rateSample exact)

/-- The calls of the two passes: they are the same, but for the benchmarks that are noted. -/
inductive SameCall : Call → Call → Prop
  | same (c : Call) (h : Measuring c) : SameCall c c
  | measured {b b' : BenchmarkResult} (h : Near b b') : SameCall (.measured b) (.measured b')

def SameReply : (c c' : Call) → Except Exn c.Reply → Except Exn c'.Reply → Prop
  | .adapterRun _ _ _, .adapterRun _ _ _, r, r' => Alike RoundedRun r r'
  | .adapterName, .adapterName, r, r' => r = r'
  | .isAvailable, .isAvailable, r, r' => r = r'
  | .scanHardware, .scanHardware, r, r' => r = r'
  | .measured _, .measured _, r, r' => r = .ok () ∧ r' = .ok ()
  | _, _, _, _ => True

def passes : Coupling services Exn := ⟨SameCall, SameReply⟩

section figures
variable {rounded exact : RunResult}

lemma runResult_rounded (elapsed : ℚ) (reply : GenerateReply) :
    RoundedRun (figures elapsed reply) (unrounded elapsed reply) := by
  refine ⟨rfl, ?_⟩
  cases hrate : tokensPerSec reply with
  | none => simp [rateSample, figures, unrounded, hrate]
  | some rate =>
    by_cases hkept : roundTo 2 rate = 0
    · have hleft : rateSample (figures elapsed reply) = [] := by
        unfold rateSample figures
        rw [hrate]
        by_cases hzero : rate = 0
        · simp [hzero]
        · simp [hzero, hkept]
      have hright : rateSample (unrounded elapsed reply) = [] := by
        simp [rateSample, unrounded, hrate, hkept]
      rw [hleft, hright]
      exact .nil
    · have hne : rate ≠ 0 := by
        rintro rfl
        exact hkept (roundTo_zero 2)
      have hpos : 0 < rate := lt_of_le_of_ne (tokensPerSec_nonneg hrate) (Ne.symm hne)
      have hround : 0 < roundTo 2 rate :=
        lt_of_le_of_ne (roundTo_nonneg hpos.le) (Ne.symm hkept)
      have hleft : rateSample (figures elapsed reply) = [roundTo 2 rate] := by
        simp [rateSample, figures, hrate, hne, hkept]
      have hright : rateSample (unrounded elapsed reply) = [rate] := by
        simp [rateSample, unrounded, hrate, hkept, hne]
      rw [hleft, hright]
      have hnear := roundTo_near 2 rate
      norm_num at hnear
      exact .cons ⟨hround, hpos, by norm_num; exact hnear⟩ .nil

end figures

section handlers
variable {W : Type} (server : Ollama W) (machine : Environment W)

lemma run_rounded (modelId prompt : String) (options : Option Config) (w : W) :
    Alike RoundedRun (run figures server modelId prompt options w).1
        (run unrounded server modelId prompt options w).1 ∧
      (run figures server modelId prompt options w).2 =
        (run unrounded server modelId prompt options w).2 := by
  refine ⟨?_, rfl⟩
  unfold run
  dsimp only
  cases (server.generate
    { model := modelId, prompt := prompt, options := options.bind Config.orNone } w).1 with
  | error e => exact .error e
  | ok resp =>
    cases hstatus : resp.raiseForStatus with
    | error e =>
      simp only [bind, Except.bind, hstatus]
      exact .error e
    | ok _ =>
      cases hjson : resp.json with
      | error e =>
        simp only [bind, Except.bind, hstatus, hjson]
        exact .error e
      | ok reply =>
        simp only [bind, Except.bind, hstatus, hjson]
        exact .ok (runResult_rounded _ reply)

/-- Serving one pass with rounded figures and the other with exact ones. -/
lemma serving_passes (c c' : Call) (s t : System W) (hpair : passes.pair c c') (hst : s = t) :
    passes.replies c c' ((serving (environment figures server machine)).handle c s).1
        ((serving (environment unrounded server machine)).handle c' t).1 ∧
      ((serving (environment figures server machine)).handle c s).2 =
        ((serving (environment unrounded server machine)).handle c' t).2 := by
  subst hst
  cases hpair with
  | measured h => exact ⟨⟨rfl, rfl⟩, rfl⟩
  | same c h =>
    cases c with
    | adapterRun modelId prompt options =>
      obtain ⟨hreply, hrest⟩ := run_rounded server modelId prompt options s.world
      refine ⟨hreply, ?_⟩
      exact congrArg (fun w => { s with world := w }) hrest
    | adapterName => exact ⟨rfl, rfl⟩
    | isAvailable => exact ⟨rfl, rfl⟩
    | scanHardware => exact ⟨rfl, rfl⟩
    | measured b => exact ⟨⟨rfl, rfl⟩, rfl⟩
    | _ => exact absurd h id

end handlers

section programs

lemma failure_near (config : Config) (message : String) (completed attempted : ℕ) :
    Near (failure config message completed attempted)
      (failure config message completed attempted) :=
  ⟨rfl, .none, rfl, rfl, rfl, rfl, rfl, rfl⟩

lemma rates_pos {rates exact : List ℚ} (h : List.Forall₂ NearRate rates exact) :
    (∀ x ∈ rates, 0 < x) ∧ ∀ y ∈ exact, 0 < y := by
  induction h with
  | nil => simp
  | cons hxy _ ih =>
    simp only [List.forall_mem_cons]
    exact ⟨⟨hxy.pos, ih.1⟩, hxy.exact_pos, ih.2⟩

lemma average_near {rates exact : List ℚ} (h : List.Forall₂ NearRate rates exact) :
    Option.Rel NearRate (average rates) (average exact) := by
  cases hrates : rates with
  | nil =>
    rw [hrates] at h
    cases h
    exact .none
  | cons x xs =>
    have hne : rates ≠ [] := by simp [hrates]
    have hne' : exact ≠ [] := by
      rintro rfl
      cases h
      exact hne rfl
    have hvalue : average rates = some (rates.sum / rates.length) := if_neg hne
    have hvalue' : average exact = some (exact.sum / exact.length) := if_neg hne'
    rw [← hrates, hvalue, hvalue']
    obtain ⟨hpos, hpos'⟩ := rates_pos h
    have hnear := mean_near hne (h.imp fun _ _ hxy => hxy.near)
    exact .some ⟨mean_pos hne hpos, mean_pos hne' hpos', hnear⟩

lemma summary_near (config : Config) (durations : List ℚ) {rates exact : List ℚ} (attempted : ℕ)
    (h : List.Forall₂ NearRate rates exact) :
    Alike Near (summary config (durations.map (roundTo 3)) rates attempted)
      (summary config durations exact attempted) := by
  unfold summary
  rw [percentile_map (roundTo_mono 3), percentile_map (roundTo_mono 3)]
  cases h50 : percentile durations 50 with
  | error e => exact .error e
  | ok p50 =>
    cases h95 : percentile durations 95 with
    | error e => exact .error e
    | ok p95 => exact .ok ⟨rfl, average_near h, rfl, rfl, rfl, rfl, List.length_map .., rfl⟩

lemma runPrompts_coupled (modelId : String) (options : Option Config) (prompts : List String)
    (durations : List ℚ) {rates exact : List ℚ} (attempted : ℕ)
    (h : List.Forall₂ NearRate rates exact) :
    Coupled passes Near
      (runPrompts modelId options prompts (durations.map (roundTo 3)) rates attempted)
      (runPrompts modelId options prompts durations exact attempted) := by
  induction prompts generalizing durations rates exact attempted with
  | nil => exact coupled_lift (summary_near _ durations attempted h)
  | cons prompt prompts ih =>
    refine coupled_attempt (K := passes) (I := services) (.same _ trivial) fun r r' hr => ?_
    cases hr with
    | @ok result result' hrun =>
      have hnext := ih (durations ++ [result'.totalDurationS]) (attempted + 1) (List.rel_append h hrun.rates)
      rw [List.map_append, List.map_singleton, ← hrun.duration] at hnext
      exact hnext
    | error e =>
      dsimp only
      cases he : e.caught with
      | none => exact .raise e
      | some message =>
        rw [List.length_map]
        exact .ret (failure_near _ _ _ _)

lemma measure_coupled (modelId : String) (config : Config) :
    Coupled passes Near (measure modelId config) (measure modelId config) := by
  refine (runPrompts_coupled modelId config.orNone benchmarkPrompts [] 0 .nil).bind ?_
  intro b b' h
  have hnoted : Coupled passes (fun _ _ => True)
      (Program.perform (I := services) (ε := Exn) (.measured b))
      (Program.perform (I := services) (.measured b')) := by
    refine coupled_perform (K := passes) (.measured h) fun r r' hr => ?_
    obtain ⟨rfl, rfl⟩ := hr
    exact .ok trivial
  exact hnoted.bind fun _ _ _ => coupled_pure h

lemma measureCandidates_coupled (modelId : String) {baseline baseline' : TuningCandidateResult}
    (h : NearResult baseline baseline') (configs : List Config) :
    Coupled passes (List.Forall₂ NearResult) (measureCandidates modelId baseline configs)
      (measureCandidates modelId baseline' configs) := by
  induction configs with
  | nil => exact coupled_pure .nil
  | cons config configs ih =>
    unfold measureCandidates
    rw [h.config]
    split_ifs with hsame
    · exact ih.bind fun _ _ hrest => coupled_pure (.cons h hrest)
    · refine (measure_coupled modelId config).bind fun b b' hb => ?_
      exact ih.bind fun _ _ hrest => coupled_pure (.cons ⟨rfl, hb⟩ hrest)

/-- The calls that the two passes make before any run. -/
def Preparing (c : Call) : Prop := AsksOnly c ∨ c = .scanHardware

lemma preparing_coupled {α : Type} {p : Engine α} (hp : Only Preparing p) :
    Coupled passes Eq p p := by
  refine coupled_of_only hp fun c hc => ?_
  obtain (rfl | rfl) | rfl := hc
  · exact ⟨.same _ trivial, fun r r' hr => hr⟩
  · exact ⟨.same _ trivial, fun r r' hr => hr⟩
  · exact ⟨.same _ trivial, fun r r' hr => hr⟩

lemma baselineOr_preparing (modelSpec : Option ModelSpec) (baselineConfig : Option Config) :
    Only Preparing (baselineOr modelSpec baselineConfig) := by
  cases baselineConfig with
  | some config => exact only_pure _
  | none =>
    cases modelSpec with
    | none => exact only_pure _
    | some model =>
      have hscan : Only Preparing scanHardware := only_perform (I := services) (.inr rfl)
      exact hscan.bind fun _ => only_pure _

lemma tuneOnce_coupled (modelId : String) (modelSpec : Option ModelSpec)
    (baselineConfig : Option Config) :
    Coupled passes NearSession (tuneOnce modelId modelSpec baselineConfig)
      (tuneOnce modelId modelSpec baselineConfig) := by
  refine (preparing_coupled (requireRuntime_only.mono fun _ h => .inl h)).bind ?_
  intro _ _ _
  refine (preparing_coupled (baselineOr_preparing modelSpec baselineConfig)).bind ?_
  rintro config _ rfl
  refine (measure_coupled modelId config).bind ?_
  intro b b' hb
  have hbaseline : NearResult ⟨config, b⟩ ⟨config, b'⟩ := ⟨rfl, hb⟩
  refine (coupled_lift (Q := Eq) ?_).bind ?_
  · cases generateCandidates config with
    | ok configs => exact .ok rfl
    | error e => exact .error e
  · rintro configs _ rfl
    refine (measureCandidates_coupled modelId hbaseline configs).bind ?_
    intro candidates candidates' hcandidates
    refine coupled_pure ⟨?_, ?_⟩
    · rw [conclude_baseline, conclude_baseline]
      exact hbaseline
    · rw [conclude_candidates, conclude_candidates]
      exact hcandidates

end programs

section verdict
variable {r r' c c' baseline baseline' : TuningCandidateResult}

lemma Near.succeeded {b b' : BenchmarkResult} (h : Near b b') : b.succeeded = b'.succeeded := by
  simp only [BenchmarkResult.succeeded, h.error, h.completed, h.attempted]

lemma Near.works {b b' : BenchmarkResult} (h : Near b b') : b.works = b'.works := by
  simp only [BenchmarkResult.works, h.succeeded, h.oom]

/-- Rates that are near: both are missing, or both positive. -/
lemma NearResult.rates (h : NearResult r r') :
    rate r = 0 ∧ rate r' = 0 ∨ 0 < rate r ∧ 0 < rate r' ∧ |rate r - rate r'| ≤ 1 / 200 := by
  have hrate := h.benchmark.rate
  unfold rate
  cases hx : r.benchmark.tokensPerSec with
  | none =>
    rw [hx] at hrate
    generalize r'.benchmark.tokensPerSec = y at hrate
    cases hrate
    exact .inl ⟨rfl, rfl⟩
  | some x =>
    rw [hx] at hrate
    generalize r'.benchmark.tokensPerSec = y at hrate
    cases hrate with
    | some hnear => exact .inr ⟨hnear.pos, hnear.exact_pos, hnear.near⟩

lemma NearResult.rate_nonneg (h : NearResult r r') : 0 ≤ rate r := by
  rcases h.rates with ⟨hzero, -⟩ | ⟨hpos, -⟩
  · exact hzero.ge
  · exact hpos.le

/-- What improves in rounded figures gains in exact ones, up to the slack. -/
lemma gains_of_improves (hc : NearResult c c') (hb : NearResult baseline baseline')
    (h : Improves c baseline) : Gains slack c' baseline' := by
  refine ⟨hc.benchmark.works ▸ h.works, ?_⟩
  rcases h.better with hfailed | ⟨hzero, hpos⟩ | ⟨hpos, hle⟩
  · exact .inl (hb.benchmark.succeeded ▸ hfailed)
  · right; left
    rcases hb.rates with ⟨-, hzero'⟩ | ⟨hne, -⟩
    · rcases hc.rates with ⟨hnone, -⟩ | ⟨-, hpos', -⟩
      · exact absurd hpos (by rw [hnone]; exact lt_irrefl 0)
      · exact ⟨hzero', hpos'⟩
    · exact absurd hzero hne.ne'
  · right; right
    rcases hb.rates with ⟨hzero, -⟩ | ⟨-, hpos', hnear⟩
    · exact absurd hpos (by rw [hzero]; exact lt_irrefl 0)
    · rcases hc.rates with ⟨hnone, -⟩ | ⟨-, -, hnear'⟩
      · rw [hnone] at hle
        linarith
      · rw [abs_le] at hnear hnear'
        refine ⟨hpos', ?_⟩
        unfold slack
        linarith

/-- What gains in exact figures by more than the slack improves in rounded ones. -/
lemma improves_of_gains (hc : NearResult c c') (hb : NearResult baseline baseline')
    (h : Gains (-slack) c' baseline') : Improves c baseline := by
  have hworks : c.benchmark.works = true := by
    rw [hc.benchmark.works]
    exact h.works
  have hparts := hworks
  simp only [BenchmarkResult.works, Bool.and_eq_true, Bool.not_eq_eq_eq_not, Bool.not_true] at hparts
  refine ⟨hparts.1, hparts.2, ?_⟩
  rcases h.better with hfailed | ⟨hzero, hpos⟩ | ⟨hpos, hle⟩
  · exact .inl (hb.benchmark.succeeded.trans hfailed)
  · right; left
    rcases hb.rates with ⟨hzero', -⟩ | ⟨-, hne, -⟩
    · rcases hc.rates with ⟨-, hnone⟩ | ⟨hpos', -⟩
      · exact absurd hpos (by rw [hnone]; exact lt_irrefl 0)
      · exact ⟨hzero', hpos'⟩
    · exact absurd hzero hne.ne'
  · right; right
    rcases hb.rates with ⟨-, hzero⟩ | ⟨hpos', -, hnear⟩
    · exact absurd hpos (by rw [hzero]; exact lt_irrefl 0)
    · rcases hc.rates with ⟨-, hnone⟩ | ⟨-, -, hnear'⟩
      · rw [hnone] at hle
        unfold slack at hle
        linarith
      · rw [abs_le] at hnear hnear'
        refine ⟨hpos', ?_⟩
        unfold slack at hle
        linarith

lemma exists_near {xs ys : List TuningCandidateResult} (h : List.Forall₂ NearResult xs ys) :
    (∀ x ∈ xs, ∃ y ∈ ys, NearResult x y) ∧ ∀ y ∈ ys, ∃ x ∈ xs, NearResult x y := by
  induction h with
  | nil => simp
  | @cons x y xs ys hxy _ ih =>
    constructor
    · intro a ha
      rcases List.mem_cons.mp ha with rfl | ha
      · exact ⟨y, List.mem_cons_self, hxy⟩
      · obtain ⟨b, hb, hab⟩ := ih.1 a ha
        exact ⟨b, List.mem_cons_of_mem _ hb, hab⟩
    · intro b hb
      rcases List.mem_cons.mp hb with rfl | hb
      · exact ⟨x, List.mem_cons_self, hxy⟩
      · obtain ⟨a, ha, hab⟩ := ih.2 b hb
        exact ⟨a, List.mem_cons_of_mem _ ha, hab⟩

/-- The verdict of a session that a pass returns. -/
lemma verdict_of_near {W : Type} {env : Environment W} {modelId : String}
    {modelSpec : Option ModelSpec} {baselineConfig : Option Config} {s : System W}
    {session exact : TuningSession}
    (hresult : (exec (serving env) (tuneOnce modelId modelSpec baselineConfig) s).result = .ok session)
    (h : NearSession session exact) : Verdict session exact := by
  obtain ⟨baseline, candidates, rfl, htuned, -⟩ :=
    @AutotuneSpec.tuneOnce_ensures _ env modelId modelSpec baselineConfig s session hresult
  obtain ⟨hbaseline, hcandidates⟩ := h
  rw [conclude_baseline] at hbaseline
  rw [conclude_candidates] at hcandidates
  have hnonneg := hbaseline.rate_nonneg
  have hsorted := List.pairwise_map.mp (generateCandidates_ascending htuned.configs)
  obtain ⟨hright, hleft⟩ := exists_near hcandidates
  constructor
  · intro haccepted
    obtain ⟨hmem, himproves, -, -⟩ := conclude_accepted hnonneg hsorted haccepted
    obtain ⟨winner, hwinner, hnear⟩ := hright _ hmem
    exact ⟨winner, hwinner, hnear.config.symm, gains_of_improves hnear hbaseline himproves⟩
  · intro hkept candidate' hcandidate hgains
    obtain ⟨candidate, hmem, hnear⟩ := hleft candidate' hcandidate
    have haccepted := (conclude_improves_iff modelId hnonneg htuned.reused hsorted).mpr
      ⟨candidate, hmem, improves_of_gains hnear hbaseline hgains⟩
    rw [hkept] at haccepted
    cases haccepted

lemma adapterRuns_same {W : Type} {t u : Trace W}
    (h : List.Forall₂ (fun x y => SameCall x.call y.call) t u) : adapterRuns t = adapterRuns u := by
  induction h with
  | nil => rfl
  | @cons x y t u hxy _ ih =>
    obtain ⟨before, call, reply⟩ := x
    obtain ⟨before', call', reply'⟩ := y
    cases hxy with
    | measured _ => exact ih
    | same _ _ =>
      cases call with
      | adapterRun modelId prompt options => exact congrArg (List.cons _) ih
      | _ => exact ih

end verdict

theorem tuneOnce_roundsSafely {W : Type} (server : Ollama W) (machine : Environment W)
    (modelId : String) (modelSpec : Option ModelSpec) (baselineConfig : Option Config)
    (s : System W) :
    RoundsSafely
      (exec (serving (environment figures server machine))
        (tuneOnce modelId modelSpec baselineConfig) s)
      (exec (serving (environment unrounded server machine))
        (tuneOnce modelId modelSpec baselineConfig) s) := by
  obtain ⟨hresult, hsteps, hstate⟩ := (tuneOnce_coupled modelId modelSpec baselineConfig).two_runs
    (S := Eq) (serving_passes server machine) (rfl : s = s)
  refine ⟨hstate, adapterRuns_same hsteps, ?_⟩
  generalize (exec (serving (environment unrounded server machine))
    (tuneOnce modelId modelSpec baselineConfig) s).result = exact at hresult ⊢
  cases hout : (exec (serving (environment figures server machine))
      (tuneOnce modelId modelSpec baselineConfig) s).result with
  | ok session =>
    rw [hout] at hresult
    cases hresult with
    | ok hnear => exact .ok ⟨hnear, verdict_of_near hout hnear⟩
  | error e =>
    rw [hout] at hresult
    cases hresult with
    | error _ => exact .error e

end LlmMax.RoundedTuning
