import LlmMax.Domain
import Mathlib.Data.List.Sort
import Mathlib.Data.List.GetD
import Mathlib.Algebra.Order.Floor.Ring
import Mathlib.Data.Rat.Floor

/-! The benchmark result and the percentile it is summarised with. -/
namespace LlmMax.BenchMetrics
open Domain

/-- What a call can raise. `except Exception` catches everything but an interrupt. -/
inductive Exn
  | runtimeUnavailable (message : String)
  | exception (message : String)
  | interrupt
  deriving DecidableEq

/-- `str(exc)` of the exceptions that `except Exception` catches. -/
def Exn.caught : Exn → Option String
  | .runtimeUnavailable message => some message
  | .exception message => some message
  | .interrupt => none

/-- The exceptions that `except Exception` catches. -/
abbrev Failure := { e : Exn // e.caught.isSome }

/-- A failure with that message. -/
def Failure.ofMessage (message : String) : Failure := ⟨.exception message, rfl⟩

structure BenchmarkResult where
  config : Config
  tokensPerSec : Option ℚ := none
  p50LatencyS : Option ℚ := none
  p95LatencyS : Option ℚ := none
  oomOccurred : Bool := false
  error : Option String := none
  samplesCompleted : ℕ := 0
  samplesAttempted : ℕ := 0
  deriving DecidableEq

namespace BenchmarkResult

def succeeded (b : BenchmarkResult) : Bool :=
  b.error.isNone && b.samplesCompleted == b.samplesAttempted

/-- The config was measured as usable: the run succeeded and did not run out of memory. -/
def works (b : BenchmarkResult) : Bool := b.succeeded && !b.oomOccurred

end BenchmarkResult

/-- Python's `round`: to the nearest integer, ties to the even one. -/
def roundHalfEven (q : ℚ) : ℤ :=
  let low := ⌊q⌋
  if q - low < 1 / 2 then low
  else if 1 / 2 < q - low then low + 1
  else if low % 2 = 0 then low else low + 1

/-- Nearest-rank percentile of the samples. -/
def percentile (values : List ℚ) (pct : ℚ) : Except Exn ℚ :=
  if values = [] then .error (.exception "cannot compute percentile of an empty list")
  else
    let sortedVals := values.insertionSort (· ≤ ·)
    let last : ℤ := sortedVals.length - 1
    let index := max 0 (min last (roundHalfEven (pct / 100 * last)))
    .ok (sortedVals.getD index.toNat 0)

/-- Rounding moves a number by less than one, to one of its two neighbours. -/
lemma roundHalfEven_bounds (q : ℚ) : ⌊q⌋ ≤ roundHalfEven q ∧ roundHalfEven q ≤ ⌊q⌋ + 1 := by
  unfold roundHalfEven
  dsimp only
  split_ifs <;> omega

lemma roundHalfEven_mono {q r : ℚ} (h : q ≤ r) : roundHalfEven q ≤ roundHalfEven r := by
  have hq := roundHalfEven_bounds q
  have hr := roundHalfEven_bounds r
  rcases (Int.floor_mono h).lt_or_eq with hlt | heq
  · omega
  · -- with the same floor the larger fraction is rounded up whenever the smaller one is
    unfold roundHalfEven
    rw [heq]
    dsimp only
    split_ifs <;> first | omega | linarith

lemma percentile_mem {values : List ℚ} {pct v : ℚ} (h : percentile values pct = .ok v) :
    v ∈ values := by
  unfold percentile at h
  split_ifs at h with hnil
  have hpos : 0 < values.length := List.length_pos_of_ne_nil hnil
  simp only [Except.ok.injEq] at h
  subst h
  rw [List.getD_eq_getElem _ _ (by rw [List.length_insertionSort]; omega)]
  exact (List.mem_insertionSort _).mp (List.getElem_mem _)

/-- A higher percentile of the same samples is no smaller. -/
lemma percentile_mono {values : List ℚ} {pct pct' v v' : ℚ} (h : pct ≤ pct')
    (hv : percentile values pct = .ok v) (hv' : percentile values pct' = .ok v') : v ≤ v' := by
  unfold percentile at hv hv'
  by_cases hnil : values = []
  · simp [hnil] at hv
  · have hpos : 0 < values.length := List.length_pos_of_ne_nil hnil
    rw [if_neg hnil] at hv hv'
    simp only [Except.ok.injEq] at hv hv'
    subst hv hv'
    have hsorted : (values.insertionSort (· ≤ ·)).SortedLE := List.sortedLE_insertionSort
    have hlast : (0 : ℚ) ≤ (((values.insertionSort (· ≤ ·)).length : ℤ) - 1 : ℤ) := by
      rw [List.length_insertionSort]
      exact_mod_cast (by omega : (0 : ℤ) ≤ (values.length : ℤ) - 1)
    have hround := roundHalfEven_mono
      (mul_le_mul_of_nonneg_right (div_le_div_of_nonneg_right h (by norm_num : (0 : ℚ) ≤ 100)) hlast)
    rw [List.getD_eq_getElem _ _ (by rw [List.length_insertionSort]; omega),
      List.getD_eq_getElem _ _ (by rw [List.length_insertionSort]; omega)]
    apply hsorted.monotone_get
    simp only [Fin.mk_le_mk]
    omega

end LlmMax.BenchMetrics
