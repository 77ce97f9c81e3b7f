import LlmMax.BenchRunner
import Mathlib.Data.List.MinMax
import Mathlib.Data.Prod.Lex
import Mathlib.Data.List.Dedup
import Mathlib.Algebra.Order.WithTop.Untop0

/-! The pure decisions of the tuner: which configs to try, which result wins,
whether it is worth switching, and where to go back to. -/
namespace LlmMax.AutotuneDecision
open Domain BenchMetrics AutotuneState BenchRunner

def ctxFloor : ℚ := 512
def ctxCeiling : ℚ := 8192
def defaultBaselineCtx : ℚ := 2048

/-- The baseline, half its context and double its context, in ascending order
without duplicates. Halving a value that is no number is a type error. -/
def generateCandidates (baselineConfig : Config) : Except Exn (List Config) :=
  match (baselineConfig.lookup "num_ctx").getD (.number defaultBaselineCtx) with
  | .other _ => .error (.exception "unsupported operand type(s) for //")
  | .number baselineCtx =>
    let lower := max ctxFloor ⌊baselineCtx / 2⌋
    let upper := min ctxCeiling (baselineCtx * 2)
    .ok ((([baselineCtx, lower, upper].dedup).insertionSort (· ≤ ·)).map Config.ofCtx)

/-- Throughput first, then lower p95 latency; a missing latency counts as infinite. -/
def score (r : TuningCandidateResult) : ℚ ×ₗ WithBot ℚ :=
  toLex (r.benchmark.tokensPerSec.getD 0, r.benchmark.p95LatencyS.map fun p95 => -p95)

/-- The first result of maximal score among those that work. -/
def pickBest (results : List TuningCandidateResult) : Option TuningCandidateResult :=
  (results.filter fun r => r.benchmark.works).argmax score

def defaultMinImprovementPct : ℚ := 5

def isMeaningfulImprovement (candidate baseline : TuningCandidateResult)
    (minImprovementPct : ℚ := defaultMinImprovementPct) : Bool :=
  if !candidate.benchmark.succeeded || candidate.benchmark.oomOccurred then false
  else if !baseline.benchmark.succeeded then true
  else
    let baselineTps := baseline.benchmark.tokensPerSec.getD 0
    let candidateTps := candidate.benchmark.tokensPerSec.getD 0
    if baselineTps ≤ 0 then 0 < candidateTps
    else minImprovementPct ≤ (candidateTps - baselineTps) / baselineTps * 100

/-- The percentage quoted in the reason of an accepted session. -/
def improvementPct (baseline candidate : TuningCandidateResult) : ℚ :=
  let baselineTps := baseline.benchmark.tokensPerSec.getD 0
  let candidateTps := candidate.benchmark.tokensPerSec.getD 0
  if baselineTps ≤ 0 then 0 else (candidateTps - baselineTps) / baselineTps * 100

def needsRollback (active : TuningCandidateResult) : Bool :=
  active.benchmark.oomOccurred || !active.benchmark.succeeded

/-- The newest entry of the history that works and is for another config. -/
def rollbackTarget (active : TuningCandidateResult) (history : List TuningCandidateResult) :
    Option Config :=
  (history.reverse.find? fun c => c.config ≠ active.config ∧ c.benchmark.works).map
    TuningCandidateResult.config

lemma pickBest_mem {results : List TuningCandidateResult} {best : TuningCandidateResult}
    (h : pickBest results = some best) : best ∈ results ∧ best.benchmark.works := by
  have := List.argmax_mem (Option.mem_def.mpr h)
  simpa [List.mem_filter] using this

lemma pickBest_eq_none {results : List TuningCandidateResult} :
    pickBest results = none ↔ ∀ r ∈ results, r.benchmark.works = false := by
  simp [pickBest, List.argmax_eq_none, List.filter_eq_nil_iff]

lemma needsRollback_eq (active : TuningCandidateResult) :
    needsRollback active = !active.benchmark.works := by
  simp [needsRollback, BenchmarkResult.works, Bool.or_comm]

/-- Anything that works beats a baseline whose run did not succeed. -/
lemma improvement_over_broken {candidate baseline : TuningCandidateResult}
    (hc : candidate.benchmark.works) (hb : baseline.benchmark.succeeded = false) :
    isMeaningfulImprovement candidate baseline := by
  simp only [BenchmarkResult.works, Bool.and_eq_true, Bool.not_eq_eq_eq_not, Bool.not_true] at hc
  simp [isMeaningfulImprovement, hc, hb]

/-- The chosen config is that of a working entry after which every working entry is for
the active config. -/
lemma rollbackTarget_eq_some_iff {active : TuningCandidateResult}
    {history : List TuningCandidateResult} {target : Config} :
    rollbackTarget active history = some target ↔ ∃ older c newer,
      history = older ++ c :: newer ∧ c.benchmark.works ∧ c.config ≠ active.config ∧
        (∀ r ∈ newer, r.benchmark.works → r.config = active.config) ∧ c.config = target := by
  simp only [rollbackTarget, Option.map_eq_some_iff, List.find?_eq_some_iff_append]
  constructor
  · rintro ⟨c, ⟨hc, newer, older, hsplit, hnewer⟩, rfl⟩
    simp only [ne_eq, decide_eq_true_eq] at hc
    refine ⟨older.reverse, c, newer.reverse, ?_, hc.2, hc.1, fun r hr hw => ?_, rfl⟩
    · rw [← List.reverse_reverse history, hsplit]
      simp
    · by_contra hne
      have := hnewer r (List.mem_reverse.mp hr)
      simp [hne, hw] at this
  · rintro ⟨older, c, newer, rfl, hw, hne, hnewer, rfl⟩
    refine ⟨c, ⟨by simp [hne, hw], newer.reverse, older.reverse, by simp, fun r hr => ?_⟩, rfl⟩
    by_cases hr' : r.benchmark.works
    · simp [hnewer r (List.mem_reverse.mp hr) hr']
    · simp [hr']

lemma rollbackTarget_eq_some {active : TuningCandidateResult}
    {history : List TuningCandidateResult} {target : Config}
    (h : rollbackTarget active history = some target) :
    ∃ c ∈ history, c.config = target ∧ c.benchmark.works ∧ target ≠ active.config := by
  obtain ⟨older, c, newer, rfl, hw, hne, -, rfl⟩ := rollbackTarget_eq_some_iff.mp h
  exact ⟨c, by simp, rfl, hw, hne⟩

lemma rollbackTarget_eq_none {active : TuningCandidateResult}
    {history : List TuningCandidateResult} :
    rollbackTarget active history = none ↔
      ∀ c ∈ history, c.benchmark.works → c.config = active.config := by
  simp only [rollbackTarget, Option.map_eq_none_iff, List.find?_eq_none, List.mem_reverse,
    decide_eq_true_eq, not_and', ne_eq, Decidable.not_not]

end LlmMax.AutotuneDecision
