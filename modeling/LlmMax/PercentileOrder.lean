import LlmMax.BenchMetrics
import LlmMax.SortedLists

/-! The percentile as an order statistic: it goes up with the rank and with the samples, and
does not depend on their order. -/
namespace LlmMax.PercentileOrder
open BenchMetrics SortedLists

/-- The place of a percentile among that many sorted samples. -/
def nearestRank (count : ℕ) (pct : ℚ) : ℕ :=
  (max 0 (min ((count : ℤ) - 1) (roundHalfEven (pct / 100 * ((count : ℤ) - 1 : ℤ))))).toNat

lemma nearestRank_lt {count : ℕ} (h : 0 < count) (pct : ℚ) : nearestRank count pct < count := by
  unfold nearestRank
  omega

@[simp] lemma nearestRank_zero (count : ℕ) : nearestRank count 0 = 0 := by
  have hround : roundHalfEven 0 = 0 := by decide +kernel
  unfold nearestRank
  rw [zero_div, zero_mul, hround]
  omega

lemma roundHalfEven_intCast (n : ℤ) : roundHalfEven n = n := by
  unfold roundHalfEven
  simp

@[simp] lemma nearestRank_hundred (count : ℕ) : nearestRank count 100 = count - 1 := by
  unfold nearestRank
  rw [div_self (by norm_num), one_mul, roundHalfEven_intCast]
  omega

section values
variable {values values' : List ℚ}

/-- The percentile is the sample at its place once the samples are sorted. -/
lemma percentile_eq (h : values ≠ []) (pct : ℚ) :
    ∃ hlt : nearestRank values.length pct < (values.insertionSort (· ≤ ·)).length,
      percentile values pct = .ok ((values.insertionSort (· ≤ ·)).get ⟨_, hlt⟩) := by
  have hlt : nearestRank values.length pct < (values.insertionSort (· ≤ ·)).length := by
    rw [List.length_insertionSort]
    exact nearestRank_lt (List.length_pos_of_ne_nil h) pct
  refine ⟨hlt, ?_⟩
  have hget := List.getD_eq_getElem (values.insertionSort (· ≤ ·)) 0 hlt
  unfold percentile
  rw [if_neg h]
  unfold nearestRank at hget
  simpa [nearestRank] using hget

/-- Nothing but the values matters to a percentile, not their order. -/
lemma percentile_perm (h : values'.Perm values) (pct : ℚ) :
    percentile values' pct = percentile values pct := by
  have hsorted : values'.insertionSort (· ≤ ·) = values.insertionSort (· ≤ ·) := by
    apply List.Perm.eq_of_pairwise' (r := (· ≤ ·))
    · exact List.pairwise_insertionSort _ _
    · exact List.pairwise_insertionSort _ _
    · exact (List.perm_insertionSort _ _).trans (h.trans (List.perm_insertionSort _ _).symm)
  have hnil : values' = [] ↔ values = [] := by
    rw [← List.length_eq_zero_iff, ← List.length_eq_zero_iff, h.length_eq]
  unfold percentile
  simp only [hsorted, hnil]

/-- Larger samples have larger percentiles. -/
lemma percentile_pointwise (hne : values ≠ []) (h : List.Forall₂ (· ≤ ·) values values') (pct : ℚ) :
    ∃ v v', percentile values pct = .ok v ∧ percentile values' pct = .ok v' ∧ v ≤ v' := by
  have hlength : values.length = values'.length := h.length_eq
  have hne' : values' ≠ [] := by
    intro hnil
    rw [hnil, List.length_nil] at hlength
    exact hne (List.length_eq_zero_iff.mp hlength)
  obtain ⟨hlt, hv⟩ := percentile_eq hne pct
  obtain ⟨hlt', hv'⟩ := percentile_eq hne' pct
  refine ⟨_, _, hv, hv', ?_⟩
  have hsorted := forall₂_insertionSort h
  simp only [← hlength]
  exact hsorted.get hlt (by rwa [← hsorted.length_eq])

lemma percentile_least (hne : values ≠ []) :
    ∃ v, percentile values 0 = .ok v ∧ IsLeast {x | x ∈ values} v := by
  obtain ⟨hlt, hv⟩ := percentile_eq hne 0
  refine ⟨_, hv, percentile_mem hv, ?_⟩
  intro x hx
  obtain ⟨i, hi⟩ := List.mem_iff_get.mp ((List.mem_insertionSort (· ≤ ·)).mpr hx)
  have hsorted : (values.insertionSort (· ≤ ·)).SortedLE := List.sortedLE_insertionSort
  rw [← hi]
  apply hsorted.monotone_get
  simp [Fin.le_def]

lemma percentile_greatest (hne : values ≠ []) :
    ∃ v, percentile values 100 = .ok v ∧ IsGreatest {x | x ∈ values} v := by
  obtain ⟨hlt, hv⟩ := percentile_eq hne 100
  refine ⟨_, hv, percentile_mem hv, ?_⟩
  intro x hx
  obtain ⟨i, hi⟩ := List.mem_iff_get.mp ((List.mem_insertionSort (· ≤ ·)).mpr hx)
  have hsorted : (values.insertionSort (· ≤ ·)).SortedLE := List.sortedLE_insertionSort
  have hlast : (i : ℕ) < values.length := i.isLt.trans_eq (List.length_insertionSort _ _)
  rw [← hi]
  apply hsorted.monotone_get
  simp only [Fin.le_def, nearestRank_hundred]
  omega

end values

/-- Every percentile is one of the samples, whatever their order; it goes from the least to the
greatest of them, up with the rank and up with the samples. -/
theorem percentile_orderStatistic {values : List ℚ} (hne : values ≠ []) {p q : ℚ} (hpq : p ≤ q) :
    ∃ v w least greatest, percentile values p = .ok v ∧ percentile values q = .ok w ∧
      percentile values 0 = .ok least ∧ percentile values 100 = .ok greatest ∧
      v ∈ values ∧ v ≤ w ∧ IsLeast {x | x ∈ values} least ∧ IsGreatest {x | x ∈ values} greatest ∧
      (∀ values', values'.Perm values → percentile values' p = .ok v) ∧
      ∀ raised, List.Forall₂ (· ≤ ·) values raised →
        ∃ v', percentile raised p = .ok v' ∧ v ≤ v' := by
  obtain ⟨_, hv⟩ := percentile_eq hne p
  obtain ⟨_, hw⟩ := percentile_eq hne q
  obtain ⟨least, hleast, hbelow⟩ := percentile_least hne
  obtain ⟨greatest, hgreatest, habove⟩ := percentile_greatest hne
  refine ⟨_, _, least, greatest, hv, hw, hleast, hgreatest, percentile_mem hv,
    percentile_mono hpq hv hw, hbelow, habove, ?_, ?_⟩
  · intro values' hperm
    rw [percentile_perm hperm, hv]
  · intro raised hraised
    obtain ⟨u, v', hu, hv', hle⟩ := percentile_pointwise hne hraised p
    rw [hv] at hu
    cases hu
    exact ⟨v', hv', hle⟩

/-- Of three latencies the median is no larger than the 95th percentile. -/
theorem percentile_orderStatistic_three :
    ∃ v w least greatest, percentile [3, 1, 2] 50 = .ok v ∧ percentile [3, 1, 2] 95 = .ok w ∧
      percentile [3, 1, 2] 0 = .ok least ∧ percentile [3, 1, 2] 100 = .ok greatest ∧
      v ∈ [3, 1, 2] ∧ v ≤ w ∧ IsLeast {x | x ∈ [3, 1, 2]} least ∧
      IsGreatest {x | x ∈ [3, 1, 2]} greatest ∧
      (∀ values', values'.Perm [3, 1, 2] → percentile values' 50 = .ok v) ∧
      ∀ raised, List.Forall₂ (· ≤ ·) [3, 1, 2] raised →
        ∃ v', percentile raised 50 = .ok v' ∧ v ≤ v' :=
  percentile_orderStatistic (by simp) (by norm_num)

end LlmMax.PercentileOrder
