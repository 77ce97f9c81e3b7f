import LlmMax.AutotuneDecision

/-! Meaningful improvement as a relation between results. It is a strict order, so that no
chain of improvements comes back to where it began. -/
namespace LlmMax.ImprovementOrder
open BenchMetrics AutotuneState AutotuneDecision

/-- The second throughput exceeds the first by a percentage; anything exceeds zero. -/
def Exceeds (pct base more : ℚ) : Prop :=
  base = 0 ∧ 0 < more ∨ 0 < base ∧ base * (1 + pct / 100) ≤ more

section exceeds
variable {pct a b c : ℚ}

lemma Exceeds.lt (hpct : 0 < pct) (h : Exceeds pct a b) : a < b := by
  rcases h with ⟨rfl, hpos⟩ | ⟨hpos, hle⟩
  · exact hpos
  · have hgain : 0 < a * (pct / 100) := by positivity
    linarith

lemma Exceeds.trans (hpct : 0 < pct) (h : Exceeds pct a b) (h' : Exceeds pct b c) :
    Exceeds pct a c := by
  have hbc := h'.lt hpct
  rcases h with ⟨rfl, hpos⟩ | ⟨hpos, hle⟩
  · exact .inl ⟨rfl, hpos.trans hbc⟩
  · exact .inr ⟨hpos, hle.trans hbc.le⟩

/-- The percentage that the code computes. -/
lemma percent_iff (hpos : 0 < a) : pct ≤ (b - a) / a * 100 ↔ a * (1 + pct / 100) ≤ b := by
  rw [div_mul_eq_mul_div, le_div_iff₀ hpos]
  constructor
  · intro h
    linarith
  · intro h
    linarith

end exceeds

section improvement
variable {candidate baseline : TuningCandidateResult} {pct : ℚ}

/-- What the four branches of the test come to, when throughput is not negative. -/
theorem improvement_iff_exceeds (hnonneg : 0 ≤ baseline.benchmark.tokensPerSec.getD 0) :
    isMeaningfulImprovement candidate baseline pct ↔ candidate.benchmark.works ∧
      (baseline.benchmark.succeeded = false ∨ Exceeds pct (baseline.benchmark.tokensPerSec.getD 0)
        (candidate.benchmark.tokensPerSec.getD 0)) := by
  unfold isMeaningfulImprovement BenchmarkResult.works
  cases candidate.benchmark.succeeded with
  | false => simp
  | true =>
    cases candidate.benchmark.oomOccurred with
    | true => simp
    | false =>
      cases baseline.benchmark.succeeded with
      | false => simp
      | true =>
        simp only [Bool.not_true, Bool.or_self, Bool.false_eq_true, if_false, Bool.not_false,
          Bool.and_self, true_and, Bool.true_eq_false, false_or]
        split_ifs with hzero
        · have heq := le_antisymm hzero hnonneg
          simp [Exceeds, heq]
        · have hpos := not_le.mp hzero
          rw [decide_eq_true_eq, percent_iff hpos]
          simp [Exceeds, hpos, hpos.ne']

end improvement

/-- A result whose throughput, where it is known, is not negative. -/
abbrev Measurement :=
  { r : TuningCandidateResult // ∀ rate, r.benchmark.tokensPerSec = some rate → 0 ≤ rate }

lemma Measurement.nonneg (r : Measurement) : 0 ≤ r.1.benchmark.tokensPerSec.getD 0 := by
  cases hrate : r.1.benchmark.tokensPerSec with
  | none => exact le_rfl
  | some rate => exact r.2 rate hrate

/-- The first measurement is a meaningful improvement on the second. -/
def ImprovesOn (pct : ℚ) (candidate baseline : Measurement) : Prop :=
  isMeaningfulImprovement candidate.1 baseline.1 pct

section order
variable {pct : ℚ} {r s t : Measurement}

lemma improvesOn_iff : ImprovesOn pct r s ↔ r.1.benchmark.works ∧
    (s.1.benchmark.succeeded = false ∨ Exceeds pct (s.1.benchmark.tokensPerSec.getD 0)
      (r.1.benchmark.tokensPerSec.getD 0)) :=
  improvement_iff_exceeds s.nonneg

lemma ImprovesOn.succeeded (h : ImprovesOn pct r s) : r.1.benchmark.succeeded = true := by
  obtain ⟨hworks, -⟩ := improvesOn_iff.mp h
  unfold BenchmarkResult.works at hworks
  exact (Bool.and_eq_true_iff.mp hworks).1

/-- Over a result that succeeded only more throughput is an improvement. -/
lemma ImprovesOn.exceeds (h : ImprovesOn pct r s) (hs : s.1.benchmark.succeeded = true) :
    Exceeds pct (s.1.benchmark.tokensPerSec.getD 0) (r.1.benchmark.tokensPerSec.getD 0) := by
  obtain ⟨-, hbroken | hexceeds⟩ := improvesOn_iff.mp h
  · rw [hs] at hbroken
    cases hbroken
  · exact hexceeds

lemma not_improvesOn_self (hpct : 0 < pct) (r : Measurement) : ¬ ImprovesOn pct r r := by
  intro h
  have hlt := (h.exceeds h.succeeded).lt hpct
  exact lt_irrefl _ hlt

theorem ImprovesOn.trans (hpct : 0 < pct) (h : ImprovesOn pct r s) (h' : ImprovesOn pct s t) :
    ImprovesOn pct r t := by
  have hgain := h.exceeds h'.succeeded
  obtain ⟨hworks, -⟩ := improvesOn_iff.mp h
  obtain ⟨-, hbroken | hexceeds⟩ := improvesOn_iff.mp h'
  · exact improvesOn_iff.mpr ⟨hworks, .inl hbroken⟩
  · exact improvesOn_iff.mpr ⟨hworks, .inr (hexceeds.trans hpct hgain)⟩

/-- A chain of improvements is an improvement. -/
lemma improvesOn_of_chain (hpct : 0 < pct) (h : Relation.TransGen (ImprovesOn pct) r s) :
    ImprovesOn pct r s := by
  induction h with
  | single h => exact h
  | tail _ h ih => exact ih.trans hpct h

/-- For any positive threshold, meaningful improvement is irreflexive, asymmetric and
transitive, and goes in no circle. -/
theorem improvement_strictOrder (hpct : 0 < pct) :
    (∀ r : Measurement, ¬ ImprovesOn pct r r) ∧
    (∀ r s : Measurement, ImprovesOn pct r s → ¬ ImprovesOn pct s r) ∧
    (∀ r s t : Measurement, ImprovesOn pct r s → ImprovesOn pct s t → ImprovesOn pct r t) ∧
    ∀ r : Measurement, ¬ Relation.TransGen (ImprovesOn pct) r r := by
  refine ⟨not_improvesOn_self hpct, ?_, ?_, ?_⟩
  · intro r s h h'
    exact not_improvesOn_self hpct r (h.trans hpct h')
  · intro r s t h h'
    exact h.trans hpct h'
  · intro r h
    exact not_improvesOn_self hpct r (improvesOn_of_chain hpct h)

end order

/-- At the threshold of the tuner. -/
theorem improvement_strictOrder_default :
    (∀ r : Measurement, ¬ ImprovesOn defaultMinImprovementPct r r) ∧
    (∀ r s : Measurement, ImprovesOn defaultMinImprovementPct r s →
      ¬ ImprovesOn defaultMinImprovementPct s r) ∧
    (∀ r s t : Measurement, ImprovesOn defaultMinImprovementPct r s →
      ImprovesOn defaultMinImprovementPct s t → ImprovesOn defaultMinImprovementPct r t) ∧
    ∀ r : Measurement, ¬ Relation.TransGen (ImprovesOn defaultMinImprovementPct) r r :=
  improvement_strictOrder (by norm_num [defaultMinImprovementPct])

end LlmMax.ImprovementOrder
