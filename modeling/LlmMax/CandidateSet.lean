import LlmMax.AutopilotConvergence

/-! What the search offers a pass to try: when it is the baseline with one bounded step
each way. -/
namespace LlmMax.CandidateSet
open Domain BenchMetrics AutotuneDecision AutopilotConvergence

/-- The context size is absent or a positive number. -/
def Positive (baseline : Config) : Prop :=
  baseline.lookup "num_ctx" = none ∨
    ∃ ctx, baseline.lookup "num_ctx" = some (.number ctx) ∧ 0 < ctx

/-- The baseline and one bounded step each way. -/
structure Bounded (baseline : Config) (candidates : List Config) : Prop where
  contains : baseline ∈ candidates
  agrees : ∀ c ∈ candidates, ∀ key, key ≠ "num_ctx" → c.lookup key = baseline.lookup key
  distinct : candidates.Nodup
  length_le : candidates.length ≤ 3
  one_smaller : ∀ c ∈ candidates, ∀ d ∈ candidates, contextOf c < contextOf baseline →
    contextOf d < contextOf baseline → c = d
  one_larger : ∀ c ∈ candidates, ∀ d ∈ candidates, contextOf baseline < contextOf c →
    contextOf baseline < contextOf d → c = d
  in_range : ∀ c ∈ candidates, contextOf c ≠ contextOf baseline →
    ctxFloor ≤ contextOf c ∧ contextOf c ≤ ctxCeiling

/-- Half the context, not below the floor. -/
def stepDown (ctx : ℚ) : ℚ := max ctxFloor ⌊ctx / 2⌋

/-- Double the context, not above the ceiling. -/
def stepUp (ctx : ℚ) : ℚ := min ctxCeiling (ctx * 2)

lemma lookup_ofCtx_of_ne {key : String} (h : key ≠ "num_ctx") (ctx : ℚ) :
    (Config.ofCtx ctx).lookup key = none := by
  apply Finmap.lookup_eq_none.mpr
  intro hmem
  exact h (Finmap.mem_singleton _ _ _ |>.mp hmem)

/-- The candidates are the configs of three context sizes, of which some may coincide. -/
lemma generateCandidates_ok {baseline : Config} (h : Positive baseline) :
    0 < contextOf baseline ∧ ∃ contexts : List ℚ,
      generateCandidates baseline = .ok (contexts.map Config.ofCtx) ∧ contexts.Nodup ∧
      contexts.length ≤ 3 ∧ ∀ ctx, ctx ∈ contexts ↔
        ctx = contextOf baseline ∨ ctx = stepDown (contextOf baseline) ∨
          ctx = stepUp (contextOf baseline) := by
  obtain ⟨ctx, hctx, hpos⟩ : ∃ ctx, (baseline.lookup "num_ctx").getD (.number defaultBaselineCtx) =
      .number ctx ∧ 0 < ctx := by
    obtain hnone | ⟨ctx, hsome, hpos⟩ := h
    · exact ⟨defaultBaselineCtx, by rw [hnone]; rfl, by norm_num [defaultBaselineCtx]⟩
    · exact ⟨ctx, by rw [hsome]; rfl, hpos⟩
  have hcontext : contextOf baseline = ctx := by
    unfold contextOf
    rw [hctx]
  rw [hcontext]
  refine ⟨hpos, ([ctx, stepDown ctx, stepUp ctx].dedup).insertionSort (· ≤ ·), ?_, ?_, ?_, ?_⟩
  · unfold generateCandidates
    rw [hctx]
    rfl
  · exact (List.perm_insertionSort _ _).nodup_iff.mpr (List.nodup_dedup _)
  · rw [List.length_insertionSort]
    exact (List.dedup_sublist _).length_le
  · intro other
    rw [List.mem_insertionSort, List.mem_dedup]
    simp

/-- The candidates come in ascending order of their context size. -/
lemma generateCandidates_ascending {baseline : Config} {configs : List Config}
    (h : generateCandidates baseline = .ok configs) :
    configs.Pairwise fun c d => contextOf c < contextOf d := by
  unfold generateCandidates at h
  cases hctx : (baseline.lookup "num_ctx").getD (.number defaultBaselineCtx) with
  | other json => simp [hctx] at h
  | number ctx =>
    simp only [hctx, Except.ok.injEq] at h
    subst h
    rw [List.pairwise_map]
    simp only [contextOf_ofCtx]
    have hsorted := List.pairwise_insertionSort (· ≤ ·)
      ([ctx, stepDown ctx, stepUp ctx].dedup)
    have hnodup : (([ctx, stepDown ctx, stepUp ctx].dedup).insertionSort (· ≤ ·)).Nodup :=
      (List.perm_insertionSort _ _).nodup_iff.mpr (List.nodup_dedup _)
    exact hsorted.imp₂ (fun _ _ hle hne => lt_of_le_of_ne hle hne) hnodup

section steps
variable {ctx : ℚ}

lemma stepDown_le_of_mem (hlow : ctxFloor ≤ ctx) : stepDown ctx ≤ ctx := by
  apply max_le hlow
  have hpos : 0 ≤ ctx := le_trans (by norm_num [ctxFloor]) hlow
  have hfloor := Int.floor_le (ctx / 2)
  linarith

lemma le_stepUp_of_mem (hpos : 0 < ctx) (hhigh : ctx ≤ ctxCeiling) : ctx ≤ stepUp ctx :=
  le_min hhigh (by linarith)

lemma stepDown_of_lt_floor (hpos : 0 < ctx) (hlow : ctx < ctxFloor) : stepDown ctx = ctxFloor := by
  apply max_eq_left
  have hfloor := Int.floor_le (ctx / 2)
  linarith

lemma stepUp_of_lt_floor (hlow : ctx < ctxFloor) : stepUp ctx = ctx * 2 := by
  apply min_eq_right
  simp only [ctxFloor, ctxCeiling] at hlow ⊢
  linarith

lemma stepDown_of_gt_ceiling (hhigh : ctxCeiling < ctx) : stepDown ctx = ⌊ctx / 2⌋ := by
  apply max_eq_right
  simp only [ctxFloor, ctxCeiling] at hhigh ⊢
  have hfloor : (512 : ℤ) ≤ ⌊ctx / 2⌋ := Int.le_floor.mpr (by norm_num; linarith)
  exact_mod_cast hfloor

lemma stepUp_of_gt_ceiling (hhigh : ctxCeiling < ctx) : stepUp ctx = ctxCeiling := by
  apply min_eq_left
  simp only [ctxCeiling] at hhigh ⊢
  linarith

end steps

/-- The only key is the context size, and a step from it leads one way at most: it lies in
the range, or both steps from outside lead to the same end of it. -/
def Steppable (baseline : Config) : Prop :=
  ∃ ctx, baseline = Config.ofCtx ctx ∧
    (512 ≤ ctx ∧ ctx ≤ 8192 ∨ ctx = 256 ∨ 16384 ≤ ctx ∧ ctx < 16386)

lemma floor_half_of_meeting {ctx : ℚ} (hlow : 16384 ≤ ctx) (hhigh : ctx < 16386) :
    ⌊ctx / 2⌋ = 8192 := by
  rw [Int.floor_eq_iff]
  norm_num
  constructor
  · linarith
  · linarith

/-- In range the steps go apart, and from the few contexts outside they meet. -/
lemma steps_apart_or_equal {ctx : ℚ}
    (h : 512 ≤ ctx ∧ ctx ≤ 8192 ∨ ctx = 256 ∨ 16384 ≤ ctx ∧ ctx < 16386) :
    stepDown ctx ≤ ctx ∧ ctx ≤ stepUp ctx ∨ stepDown ctx = stepUp ctx := by
  rcases h with ⟨hlow, hhigh⟩ | rfl | ⟨hlow, hhigh⟩
  · exact .inl ⟨stepDown_le_of_mem hlow, le_stepUp_of_mem (by linarith) hhigh⟩
  · right
    rw [stepDown_of_lt_floor (by norm_num) (by norm_num [ctxFloor]),
      stepUp_of_lt_floor (by norm_num [ctxFloor])]
    norm_num [ctxFloor]
  · right
    have hceiling : ctxCeiling < ctx := by
      simp only [ctxCeiling]
      linarith
    rw [stepDown_of_gt_ceiling hceiling, stepUp_of_gt_ceiling hceiling,
      floor_half_of_meeting hlow hhigh]
    norm_num [ctxCeiling]

lemma steps_in_range {ctx : ℚ}
    (h : 512 ≤ ctx ∧ ctx ≤ 8192 ∨ ctx = 256 ∨ 16384 ≤ ctx ∧ ctx < 16386) :
    (ctxFloor ≤ stepDown ctx ∧ stepDown ctx ≤ ctxCeiling) ∧
      ctxFloor ≤ stepUp ctx ∧ stepUp ctx ≤ ctxCeiling := by
  have hdown : ctxFloor ≤ stepDown ctx := le_max_left _ _
  have hup : stepUp ctx ≤ ctxCeiling := min_le_left _ _
  rcases steps_apart_or_equal h with ⟨hle, hge⟩ | heq
  · rcases h with ⟨hlow, hhigh⟩ | rfl | ⟨hlow, hhigh⟩
    · exact ⟨⟨hdown, hle.trans hhigh⟩, le_trans hlow hge, hup⟩
    · simp only [ctxFloor] at hdown
      linarith
    · simp only [ctxCeiling] at hup
      linarith
  · exact ⟨⟨hdown, heq.trans_le hup⟩, heq ▸ hdown, hup⟩

/-- When each way there is one step at most, the context size is in range or its steps meet. -/
lemma range_of_steps {ctx : ℚ} (hpos : 0 < ctx)
    (hsmaller : stepDown ctx < ctx → stepUp ctx < ctx → stepDown ctx = stepUp ctx)
    (hlarger : ctx < stepDown ctx → ctx < stepUp ctx → stepDown ctx = stepUp ctx) :
    512 ≤ ctx ∧ ctx ≤ 8192 ∨ ctx = 256 ∨ 16384 ≤ ctx ∧ ctx < 16386 := by
  by_cases hlow : ctx < ctxFloor
  · -- below the floor both steps go up
    rw [stepDown_of_lt_floor hpos hlow, stepUp_of_lt_floor hlow] at hlarger
    have heq := hlarger hlow (by linarith)
    simp only [ctxFloor] at heq
    exact .inr (.inl (by linarith))
  · by_cases hhigh : ctxCeiling < ctx
    · -- above the ceiling both steps go down
      rw [stepDown_of_gt_ceiling hhigh, stepUp_of_gt_ceiling hhigh] at hsmaller
      have hfloor := Int.floor_le (ctx / 2)
      have hroof := Int.lt_floor_add_one (ctx / 2)
      have heq := hsmaller (by linarith) hhigh
      rw [heq] at hfloor hroof
      simp only [ctxCeiling] at hfloor hroof
      exact .inr (.inr ⟨by linarith, by linarith⟩)
    · exact .inl ⟨not_lt.mp hlow, not_lt.mp hhigh⟩

section contexts
variable {ctx : ℚ} {contexts : List ℚ}
  (hmem : ∀ x, x ∈ contexts ↔ x = ctx ∨ x = stepDown ctx ∨ x = stepUp ctx)
include hmem

lemma range_of_bounded (hpos : 0 < ctx)
    (hb : Bounded (Config.ofCtx ctx) (contexts.map Config.ofCtx)) :
    512 ≤ ctx ∧ ctx ≤ 8192 ∨ ctx = 256 ∨ 16384 ≤ ctx ∧ ctx < 16386 := by
  have hdown : Config.ofCtx (stepDown ctx) ∈ contexts.map Config.ofCtx :=
    List.mem_map_of_mem ((hmem _).mpr (.inr (.inl rfl)))
  have hup : Config.ofCtx (stepUp ctx) ∈ contexts.map Config.ofCtx :=
    List.mem_map_of_mem ((hmem _).mpr (.inr (.inr rfl)))
  have hsmaller := hb.one_smaller _ hdown _ hup
  have hlarger := hb.one_larger _ hdown _ hup
  simp only [contextOf_ofCtx, Config.ofCtx_injective.eq_iff] at hsmaller hlarger
  exact range_of_steps hpos hsmaller hlarger

/-- Two contexts on one side of the first are the same step. -/
lemma step_unique (hrange : 512 ≤ ctx ∧ ctx ≤ 8192 ∨ ctx = 256 ∨ 16384 ≤ ctx ∧ ctx < 16386)
    {x y : ℚ} (hx : x ∈ contexts) (hy : y ∈ contexts)
    (hside : x < ctx ∧ y < ctx ∨ ctx < x ∧ ctx < y) : x = y := by
  rw [hmem] at hx hy
  rcases steps_apart_or_equal hrange with ⟨hle, hge⟩ | heq
  · grind
  · grind

lemma bounded_of_range (hrange : 512 ≤ ctx ∧ ctx ≤ 8192 ∨ ctx = 256 ∨ 16384 ≤ ctx ∧ ctx < 16386)
    (hnodup : contexts.Nodup) (hlength : contexts.length ≤ 3) :
    Bounded (Config.ofCtx ctx) (contexts.map Config.ofCtx) := by
  obtain ⟨hdown, hup⟩ := steps_in_range hrange
  constructor
  · exact List.mem_map_of_mem ((hmem ctx).mpr (.inl rfl))
  · intro c hc key hkey
    obtain ⟨ctx', -, rfl⟩ := List.mem_map.mp hc
    rw [lookup_ofCtx_of_ne hkey, lookup_ofCtx_of_ne hkey]
  · exact hnodup.map Config.ofCtx_injective
  · rwa [List.length_map]
  · intro c hc d hd
    obtain ⟨x, hx, rfl⟩ := List.mem_map.mp hc
    obtain ⟨y, hy, rfl⟩ := List.mem_map.mp hd
    simp only [contextOf_ofCtx]
    intro hxlt hylt
    rw [step_unique hmem hrange hx hy (.inl ⟨hxlt, hylt⟩)]
  · intro c hc d hd
    obtain ⟨x, hx, rfl⟩ := List.mem_map.mp hc
    obtain ⟨y, hy, rfl⟩ := List.mem_map.mp hd
    simp only [contextOf_ofCtx]
    intro hxlt hylt
    rw [step_unique hmem hrange hx hy (.inr ⟨hxlt, hylt⟩)]
  · intro c hc hne
    obtain ⟨x, hx, rfl⟩ := List.mem_map.mp hc
    rw [contextOf_ofCtx, contextOf_ofCtx] at hne
    rw [contextOf_ofCtx]
    rcases (hmem x).mp hx with rfl | rfl | rfl
    · exact absurd rfl hne
    · exact hdown
    · exact hup

end contexts

/-- The candidates are the baseline and one bounded step each way exactly if the baseline has
no other key and its context size is in range, or is one of the few whose steps meet there. -/
theorem generateCandidates_bounded_iff {baseline : Config} (h : Positive baseline) :
    (∃ candidates, generateCandidates baseline = .ok candidates ∧ Bounded baseline candidates) ↔
      Steppable baseline := by
  obtain ⟨hpos, contexts, hgen, hnodup, hlength, hmem⟩ := generateCandidates_ok h
  constructor
  · intro hbounded
    obtain ⟨candidates, hcandidates, hb⟩ := hbounded
    rw [hgen] at hcandidates
    cases hcandidates
    obtain ⟨ctx, -, rfl⟩ := List.mem_map.mp hb.contains
    rw [contextOf_ofCtx] at hpos hmem
    exact ⟨ctx, rfl, range_of_bounded hmem hpos hb⟩
  · intro hsteppable
    obtain ⟨ctx, rfl, hrange⟩ := hsteppable
    rw [contextOf_ofCtx] at hmem
    exact ⟨_, hgen, bounded_of_range hmem hrange hnodup hlength⟩

/-- A baseline of the default size. -/
theorem generateCandidates_bounded_iff_2048 :
    ∃ candidates, generateCandidates (Config.ofCtx 2048) = .ok candidates ∧
      Bounded (Config.ofCtx 2048) candidates :=
  (generateCandidates_bounded_iff (.inr ⟨2048, rfl, by norm_num⟩)).mpr
    ⟨2048, rfl, .inl ⟨by norm_num, by norm_num⟩⟩

/-- The empty config is not among its own candidates. -/
theorem generateCandidates_misses_empty :
    Positive ∅ ∧
      generateCandidates ∅ = .ok [Config.ofCtx 1024, Config.ofCtx 2048, Config.ofCtx 4096] ∧
      ¬ Bounded ∅ [Config.ofCtx 1024, Config.ofCtx 2048, Config.ofCtx 4096] := by
  refine ⟨.inl rfl, by decide +kernel, ?_⟩
  intro h
  have hmem := h.contains
  revert hmem
  decide +kernel

/-- A config with a key besides the context size. -/
def batched : Config := (Config.ofCtx 2048).insert "num_batch" (.number 512)

/-- It is not among its candidates, which all lack the key. -/
theorem generateCandidates_drops_batch :
    Positive batched ∧
      generateCandidates batched = .ok [Config.ofCtx 1024, Config.ofCtx 2048, Config.ofCtx 4096] ∧
      ¬ Bounded batched [Config.ofCtx 1024, Config.ofCtx 2048, Config.ofCtx 4096] := by
  refine ⟨.inr ⟨2048, by decide +kernel, by norm_num⟩, by decide +kernel, ?_⟩
  intro h
  have hmem := h.contains
  revert hmem
  decide +kernel

end LlmMax.CandidateSet
