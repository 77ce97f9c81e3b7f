import LlmMax.BenchRunner
import LlmMax.PercentileOrder

/-! Rounding to a number of decimals: how far it moves a figure, and what it leaves of the
percentiles and the mean of a list of figures. -/
namespace LlmMax.Rounding
open BenchMetrics BenchRunner PercentileOrder

/-- `round(q, digits)`. -/
def roundTo (digits : ℕ) (q : ℚ) : ℚ := roundHalfEven (q * 10 ^ digits) / 10 ^ digits

lemma roundHalfEven_near (q : ℚ) : |(roundHalfEven q : ℚ) - q| ≤ 1 / 2 := by
  have hlow := Int.floor_le q
  have hhigh := Int.lt_floor_add_one q
  unfold roundHalfEven
  dsimp only
  rw [abs_le]
  split_ifs <;> push_cast <;> constructor <;> linarith

lemma roundTo_near (digits : ℕ) (q : ℚ) : |roundTo digits q - q| ≤ 1 / 2 / 10 ^ digits := by
  have hpos : (0 : ℚ) < 10 ^ digits := by positivity
  have hscaled : roundTo digits q - q = (roundHalfEven (q * 10 ^ digits) - q * 10 ^ digits) / 10 ^ digits := by
    unfold roundTo
    field_simp
  rw [hscaled, abs_div, abs_of_pos hpos]
  exact div_le_div_of_nonneg_right (roundHalfEven_near _) hpos.le

lemma roundTo_mono (digits : ℕ) : Monotone (roundTo digits) := by
  intro q r h
  have hpos : (0 : ℚ) < 10 ^ digits := by positivity
  apply div_le_div_of_nonneg_right _ hpos.le
  exact_mod_cast roundHalfEven_mono (mul_le_mul_of_nonneg_right h hpos.le)

@[simp] lemma roundTo_zero (digits : ℕ) : roundTo digits 0 = 0 := by
  have hround := roundHalfEven_intCast 0
  rw [Int.cast_zero] at hround
  simp [roundTo, hround]

lemma roundTo_nonneg {digits : ℕ} {q : ℚ} (h : 0 ≤ q) : 0 ≤ roundTo digits q := by
  rw [← roundTo_zero digits]
  exact roundTo_mono digits h

lemma insertionSort_map {f : ℚ → ℚ} (hf : Monotone f) (values : List ℚ) :
    (values.map f).insertionSort (· ≤ ·) = (values.insertionSort (· ≤ ·)).map f := by
  apply List.Perm.eq_of_pairwise' (r := (· ≤ ·))
  · exact List.pairwise_insertionSort _ _
  · rw [List.pairwise_map]
    exact (List.pairwise_insertionSort _ _).imp fun h => hf h
  · exact (List.perm_insertionSort _ _).trans ((List.perm_insertionSort _ _).map f).symm

/-- The percentile of rounded figures is the rounded percentile. -/
lemma percentile_map {f : ℚ → ℚ} (hf : Monotone f) (values : List ℚ) (pct : ℚ) :
    percentile (values.map f) pct = (percentile values pct).map f := by
  by_cases hnil : values = []
  · rw [hnil]
    rfl
  · have hne : values.map f ≠ [] := by simpa using hnil
    obtain ⟨hlt, hv⟩ := percentile_eq hnil pct
    obtain ⟨hlt', hv'⟩ := percentile_eq hne pct
    rw [hv, hv', Except.map]
    simp [insertionSort_map hf]

section mean
variable {eps : ℚ} {xs ys : List ℚ}

lemma sum_near (h : List.Forall₂ (fun x y => |x - y| ≤ eps) xs ys) :
    |xs.sum - ys.sum| ≤ xs.length * eps := by
  induction h with
  | nil => simp
  | @cons x y xs ys hxy _ ih =>
    have hsplit : (x :: xs).sum - (y :: ys).sum = (x - y) + (xs.sum - ys.sum) := by
      simp only [List.sum_cons]
      ring
    rw [hsplit, List.length_cons]
    push_cast
    have htriangle := abs_add_le (x - y) (xs.sum - ys.sum)
    linarith

/-- The means of figures that are near are as near. -/
lemma mean_near (hne : xs ≠ []) (h : List.Forall₂ (fun x y => |x - y| ≤ eps) xs ys) :
    |xs.sum / xs.length - ys.sum / ys.length| ≤ eps := by
  have hpos : (0 : ℚ) < xs.length := by exact_mod_cast List.length_pos_of_ne_nil hne
  rw [← h.length_eq, ← sub_div, abs_div, abs_of_pos hpos, div_le_iff₀ hpos]
  linarith [sum_near h]

lemma mean_pos (hne : xs ≠ []) (h : ∀ x ∈ xs, 0 < x) : 0 < xs.sum / xs.length := by
  have hpos : (0 : ℚ) < xs.length := by exact_mod_cast List.length_pos_of_ne_nil hne
  exact div_pos (List.sum_pos xs h hne) hpos

end mean

end LlmMax.Rounding
