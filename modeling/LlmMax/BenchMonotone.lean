import LlmMax.BenchSummary
import Mathlib.Data.List.Forall2

/-! Two benchmarks over the same prompts, of which one is nowhere faster. Its aggregated
throughput is the mean of the positive rates only, so that a prompt answered at rate zero
counts as not measured. -/
namespace LlmMax.BenchMonotone
open Domain BenchMetrics AutotuneState Storage EffectProgram Services BenchRunner AutotuneDecision
open BenchSummary

section averages

/-- Non-negative rates, none of them above the one at the same place of the other list. -/
def Dominated (xs ys : List ℚ) : Prop := List.Forall₂ (fun x y => 0 ≤ x ∧ x ≤ y) xs ys

/-- How many rates rise from exactly zero. -/
def risen (xs ys : List ℚ) : ℕ := (xs.zip ys).countP fun p => p.1 = 0 ∧ 0 < p.2

variable {xs ys : List ℚ}

/-- The risen rates weigh no more than what all the rates gain. -/
def Outweighed (xs ys : List ℚ) : Prop :=
  risen xs ys * xs.sum ≤ xs.countP (0 < ·) * (ys.sum - xs.sum)

instance (xs ys : List ℚ) : Decidable (Outweighed xs ys) := inferInstanceAs (Decidable (_ ≤ _))

lemma sum_filter_ne_zero (xs : List ℚ) : (xs.filter (· ≠ 0)).sum = xs.sum := by
  induction xs with
  | nil => rfl
  | cons x xs ih =>
    by_cases hx : x = 0
    · simpa [hx] using ih
    · simpa [hx] using ih

/-- Without its zeros a list of rates averages to its sum over the positive ones. -/
lemma average_filter_getD (h : ∀ x ∈ xs, 0 ≤ x) :
    (average (xs.filter (· ≠ 0))).getD 0 = xs.sum / (xs.countP (0 < ·) : ℕ) := by
  rw [average_getD, sum_filter_ne_zero, ← List.countP_eq_length_filter]
  congr 2
  apply List.countP_congr
  intro x hx
  simpa using (h x hx).lt_iff_ne'.symm

lemma Dominated.nonneg_left (h : Dominated xs ys) : ∀ x ∈ xs, 0 ≤ x := by
  induction h with
  | nil => simp
  | cons hxy _ ih =>
    intro z hz
    rcases List.mem_cons.mp hz with rfl | hz
    · exact hxy.1
    · exact ih z hz

lemma Dominated.nonneg_right (h : Dominated xs ys) : ∀ y ∈ ys, 0 ≤ y := by
  induction h with
  | nil => simp
  | cons hxy _ ih =>
    intro z hz
    rcases List.mem_cons.mp hz with rfl | hz
    · exact hxy.1.trans hxy.2
    · exact ih z hz

/-- A rate is positive in the second list when it was in the first, or has risen. -/
lemma Dominated.countP_pos (h : Dominated xs ys) :
    ys.countP (0 < ·) = xs.countP (0 < ·) + risen xs ys := by
  induction h with
  | nil => rfl
  | @cons x y xs ys hxy _ ih =>
    obtain ⟨hx, hle⟩ := hxy
    simp only [risen, List.countP_cons, List.zip_cons_cons, decide_eq_true_eq] at ih ⊢
    rw [ih]
    rcases hx.eq_or_lt with rfl | hpos
    · simp [add_assoc]
    · simp [hpos, hpos.trans_le hle, hpos.ne', add_right_comm]

/-- The mean of the positive rates is monotone as long as the risen rates are outweighed. -/
theorem Dominated.average_le_iff (h : Dominated xs ys) :
    (average (xs.filter (· ≠ 0))).getD 0 ≤ (average (ys.filter (· ≠ 0))).getD 0 ↔
      Outweighed xs ys := by
  rw [average_filter_getD h.nonneg_left, average_filter_getD h.nonneg_right, h.countP_pos]
  unfold Outweighed
  rcases Nat.eq_zero_or_pos (xs.countP (0 < ·)) with hzero | hpos
  · have hsum : xs.sum = 0 := by
      apply List.sum_eq_zero
      intro x hx
      have hle : ¬ 0 < x := by simpa using List.countP_eq_zero.mp hzero x hx
      exact le_antisymm (not_lt.mp hle) (h.nonneg_left x hx)
    have hys : 0 ≤ ys.sum := List.sum_nonneg h.nonneg_right
    simp only [hzero, hsum, Nat.zero_add]
    constructor
    · intro _
      simp
    · intro _
      simpa using div_nonneg hys (Nat.cast_nonneg _)
  · have hn : (0 : ℚ) < (xs.countP (0 < ·) : ℕ) := by exact_mod_cast hpos
    have hm : (0 : ℚ) < (xs.countP (0 < ·) + risen xs ys : ℕ) := by
      exact_mod_cast Nat.add_pos_left hpos _
    rw [div_le_div_iff₀ hn hm]
    push_cast
    constructor
    · intro hle
      linarith
    · intro hle
      linarith

end averages

variable {W W' : Type} {env : Environment W} {env' : Environment W'}

/-- The rates measured in a trace, prompt by prompt. -/
def measuredRates (t : Trace W) : List ℚ :=
  (adapterReplies t).filterMap fun
    | .ok result => result.tokensPerSec
    | .error _ => none

/-- Two answers that took as long, the first at no higher a rate. -/
structure Slower (a b : RunResult) : Prop where
  duration_eq : a.totalDurationS = b.totalDurationS
  rates : ∃ r r', a.tokensPerSec = some r ∧ b.tokensPerSec = some r' ∧ 0 ≤ r ∧ r ≤ r'

/-- Every call of both runs was answered, and the first run was nowhere faster. -/
def NowhereFaster (t : Trace W) (u : Trace W') : Prop :=
  List.Forall₂ (fun x y => ∃ a b, x = .ok a ∧ y = .ok b ∧ Slower a b)
    (adapterReplies t) (adapterReplies u)

lemma exists_answers {xs ys : List (Except Exn RunResult)}
    (h : List.Forall₂ (fun x y => ∃ a b, x = .ok a ∧ y = .ok b ∧ Slower a b) xs ys) :
    ∃ as bs, xs = as.map .ok ∧ ys = bs.map .ok ∧ List.Forall₂ Slower as bs := by
  induction h with
  | nil => exact ⟨[], [], rfl, rfl, .nil⟩
  | cons hxy _ ih =>
    obtain ⟨a, b, rfl, rfl, hab⟩ := hxy
    obtain ⟨as, bs, rfl, rfl, hrest⟩ := ih
    exact ⟨a :: as, b :: bs, rfl, rfl, .cons hab hrest⟩

lemma measuredRates_eq {t : Trace W} {answers : List RunResult}
    (h : adapterReplies t = answers.map .ok) :
    measuredRates t = answers.filterMap RunResult.tokensPerSec := by
  unfold measuredRates
  rw [h, List.filterMap_map]
  rfl

/-- The samples of a run are its rates without the zeros. -/
lemma flatMap_rateSample (answers : List RunResult) :
    answers.flatMap rateSample = (answers.filterMap RunResult.tokensPerSec).filter (· ≠ 0) := by
  induction answers with
  | nil => rfl
  | cons result answers ih =>
    rw [List.flatMap_cons, ih]
    cases hrate : result.tokensPerSec with
    | none => simp [rateSample, hrate]
    | some rate =>
      by_cases hzero : rate = 0
      · simp [rateSample, hrate, hzero]
      · simp [rateSample, hrate, hzero]

section slower
variable {as bs : List RunResult}

lemma durations_eq_of_slower (h : List.Forall₂ Slower as bs) :
    as.map RunResult.totalDurationS = bs.map RunResult.totalDurationS := by
  induction h with
  | nil => rfl
  | cons hab _ ih => rw [List.map_cons, List.map_cons, hab.duration_eq, ih]

lemma dominated_of_slower (h : List.Forall₂ Slower as bs) :
    Dominated (as.filterMap RunResult.tokensPerSec) (bs.filterMap RunResult.tokensPerSec) := by
  induction h with
  | nil => exact .nil
  | cons hab _ ih =>
    obtain ⟨r, r', hr, hr', hnonneg, hle⟩ := hab.rates
    rw [List.filterMap_cons_some hr, List.filterMap_cons_some hr']
    exact .cons ⟨hnonneg, hle⟩ ih

end slower

/-- A benchmark all of whose calls were answered is the summary of the answers. -/
lemma summary_of_answered {modelId : String} {options : Option Config} {prompts : List String}
    {s : System W} {answers : List RunResult} {b : BenchmarkResult}
    (hresult : (exec (serving env) (runPrompts modelId options prompts [] [] 0) s).result = .ok b)
    (hreplies : adapterReplies (exec (serving env) (runPrompts modelId options prompts [] [] 0) s).steps
      = answers.map .ok) :
    summary (options.getD ∅) (answers.map RunResult.totalDurationS) (answers.flatMap rateSample)
      answers.length = .ok b := by
  have hpost := runPrompts_ensures env modelId options prompts [] [] 0 s
  unfold Ensures at hpost
  rw [hresult] at hpost
  obtain ⟨answers', hans, hb⟩ | ⟨answers', exc, hbroke, -⟩ := hpost
  · have heq : answers' = answers := by
      apply List.map_injective_iff.mpr (fun _ _ h => Except.ok.inj h)
      exact hans.replies.symm.trans hreplies
    subst heq
    simpa using hb.symm
  · have herror : Except.error exc ∈ answers.map Except.ok := by
      rw [← hreplies, hbroke.replies]
      exact List.mem_append_right _ (List.mem_singleton_self _)
    obtain ⟨result, -, hres⟩ := List.mem_map.mp herror
    cases hres

/-- What the ranking reads of a summary. -/
lemma summary_ranked {config : Config} {latencies rates : List ℚ} {attempted : ℕ}
    {b : BenchmarkResult} (h : summary config latencies rates attempted = .ok b)
    (hattempted : attempted = latencies.length) :
    b.works ∧ b.tokensPerSec = average rates ∧
      ∃ p95, percentile latencies 95 = .ok p95 ∧ b.p95LatencyS = some p95 := by
  obtain ⟨p50, p95, -, h95, rfl⟩ := summary_inv h
  exact ⟨by simp [BenchmarkResult.works, BenchmarkResult.succeeded, hattempted], rfl, p95, h95, rfl⟩

/-- Of two usable results as slow as each other the earlier one wins unless the later one
has the higher throughput. -/
lemma pickBest_pair {r r' : TuningCandidateResult} (hr : r.benchmark.works) (hr' : r'.benchmark.works)
    (hp95 : r.benchmark.p95LatencyS = r'.benchmark.p95LatencyS)
    (hle : r'.benchmark.tokensPerSec.getD 0 ≤ r.benchmark.tokensPerSec.getD 0) :
    pickBest [r, r'] = some r := by
  have hscore : ¬ score r < score r' := by
    unfold score
    rw [hp95, Prod.Lex.toLex_lt_toLex]
    intro hlt
    rcases hlt with hlt | ⟨-, hlt⟩
    · exact absurd hle (not_le.mpr hlt)
    · exact lt_irrefl _ hlt
  have hviable : ([r, r'].filter fun c => c.benchmark.works) = [r, r'] := by simp [hr, hr']
  unfold pickBest
  rw [hviable, List.argmax_cons, List.argmax_singleton]
  exact if_neg hscore

/-- Of two runs over the same prompts with the same durations, the first nowhere faster, the
first has no higher throughput and is never preferred, exactly if the rates that rise from
zero are outweighed. -/
theorem throughput_monotone_iff {modelId modelId' : String} {options options' : Option Config}
    {prompts : List String} {s : System W} {s' : System W'} {b b' : BenchmarkResult}
    (h : (exec (serving env) (runPrompts modelId options prompts [] [] 0) s).result = .ok b)
    (h' : (exec (serving env') (runPrompts modelId' options' prompts [] [] 0) s').result = .ok b')
    (hslower : NowhereFaster
      (exec (serving env) (runPrompts modelId options prompts [] [] 0) s).steps
      (exec (serving env') (runPrompts modelId' options' prompts [] [] 0) s').steps) :
    (b.tokensPerSec.getD 0 ≤ b'.tokensPerSec.getD 0 ∧
      ∀ config config', pickBest [⟨config', b'⟩, ⟨config, b⟩] = some ⟨config', b'⟩) ↔
    Outweighed
      (measuredRates (exec (serving env) (runPrompts modelId options prompts [] [] 0) s).steps)
      (measuredRates (exec (serving env') (runPrompts modelId' options' prompts [] [] 0) s').steps) := by
  obtain ⟨as, bs, has, hbs, hpairs⟩ := exists_answers hslower
  obtain ⟨hworks, hrate, p95, hp95, hb95⟩ := summary_ranked (summary_of_answered h has) (by simp)
  obtain ⟨hworks', hrate', p95', hp95', hb95'⟩ := summary_ranked (summary_of_answered h' hbs) (by simp)
  have hiff := (dominated_of_slower hpairs).average_le_iff
  rw [← flatMap_rateSample, ← flatMap_rateSample, ← hrate, ← hrate'] at hiff
  rw [measuredRates_eq has, measuredRates_eq hbs, ← hiff]
  constructor
  · intro hprop
    exact hprop.1
  · intro hle
    have heq : b'.p95LatencyS = b.p95LatencyS := by
      rw [durations_eq_of_slower hpairs, hp95'] at hp95
      rw [hb95, hb95', Except.ok.inj hp95]
    exact ⟨hle, fun config config' => pickBest_pair hworks' hworks heq hle⟩

/-- A machine that answers each prompt in a second, at the rate of the prompt. -/
def paced (rate : String → ℚ) : Environment Unit where
  name := "ollama"
  isAvailable w := (.ok true, w)
  run _ prompt _ w := (.ok ⟨"", 1, 1, some (rate prompt), ""⟩, w)
  scanHardware w := (.ok ⟨[], 0⟩, w)
  now w := (.ok 0, w)
  sleep _ w := (.ok (), w)

/-- The first prompt is answered at its own rate, the others at a hundred tokens a second. -/
def warmingUp (first : ℚ) (prompt : String) : ℚ :=
  if prompt = "Say hello in one short sentence." then first else 100

def pacedRun (first : ℚ) : Outcome services Exn BenchmarkResult (System Unit) :=
  exec (serving (paced (warmingUp first))) (runBenchmark "m" none) ⟨(), ⟨[], [], []⟩⟩

def pacedResult (rate : ℚ) : BenchmarkResult where
  config := ∅
  tokensPerSec := some rate
  p50LatencyS := some 1
  p95LatencyS := some 1
  samplesCompleted := 3
  samplesAttempted := 3

lemma pacedRun_zero : (pacedRun 0).result = .ok (pacedResult 100) := by decide +kernel

lemma pacedRun_fifty : (pacedRun 50).result = .ok (pacedResult (250 / 3)) := by decide +kernel

lemma pacedRun_forty : (pacedRun 40).result = .ok (pacedResult 80) := by decide +kernel

lemma pacedRun_nowhereFaster {first first' : ℚ} (hnonneg : 0 ≤ first) (hle : first ≤ first') :
    NowhereFaster (pacedRun first).steps (pacedRun first').steps := by
  have hslower {rate rate' : ℚ} (h : 0 ≤ rate) (h' : rate ≤ rate') :
      Slower ⟨"", 1, 1, some rate, ""⟩ ⟨"", 1, 1, some rate', ""⟩ :=
    ⟨rfl, rate, rate', rfl, rfl, h, h'⟩
  have hrest : Slower ⟨"", 1, 1, some 100, ""⟩ ⟨"", 1, 1, some 100, ""⟩ :=
    hslower (by norm_num) le_rfl
  exact .cons ⟨_, _, rfl, rfl, hslower hnonneg hle⟩
    (.cons ⟨_, _, rfl, rfl, hrest⟩ (.cons ⟨_, _, rfl, rfl, hrest⟩ .nil))

/-- At 40 and at 50 tokens a second for the first prompt nothing rises from zero. -/
theorem throughput_monotone_iff_paced :
    (80 : ℚ) ≤ 250 / 3 ∧ ∀ config config',
      pickBest [⟨config', pacedResult (250 / 3)⟩, ⟨config, pacedResult 80⟩] =
        some ⟨config', pacedResult (250 / 3)⟩ :=
  (throughput_monotone_iff pacedRun_forty pacedRun_fifty
    (pacedRun_nowhereFaster (by norm_num) (by norm_num))).mpr (by decide +kernel)

/-- The first prompt at rate zero, and at 50 tokens a second: the slower run wins. -/
theorem pacedRun_zero_outranks_fifty :
    NowhereFaster (pacedRun 0).steps (pacedRun 50).steps ∧
      (pacedRun 0).result = .ok (pacedResult 100) ∧
      (pacedRun 50).result = .ok (pacedResult (250 / 3)) ∧
      ¬ (100 : ℚ) ≤ 250 / 3 ∧
      pickBest [⟨Config.ofCtx 2048, pacedResult (250 / 3)⟩, ⟨Config.ofCtx 1024, pacedResult 100⟩] =
        some ⟨Config.ofCtx 1024, pacedResult 100⟩ :=
  ⟨pacedRun_nowhereFaster le_rfl (by norm_num), pacedRun_zero, pacedRun_fifty, by norm_num,
    by decide +kernel⟩

end LlmMax.BenchMonotone
