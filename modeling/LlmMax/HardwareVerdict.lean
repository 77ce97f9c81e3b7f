import LlmMax.Catalog
import LlmMax.Compatibility

/-! What the verdict owes to the hardware: when better hardware keeps it, and that the
config a model is launched with is the one its verdict stands for. -/
namespace LlmMax.HardwareVerdict
open Domain LauncherConfig Compatibility Catalog

/-- The second host has every GPU of the first with at least as much free memory, in any
place of its list and beside any others, and at least as much free main memory. -/
structure AtLeast (hw hw' : HardwareProfile) : Prop where
  gpus : ∃ kept, kept.Subperm hw'.gpus ∧
    List.Forall₂ (fun g g' => g.freeVramMb ≤ g'.freeVramMb) hw.gpus kept
  ram : hw.availableRamMb ≤ hw'.availableRamMb

lemma exists_mem_of_forall₂ {α β : Type} {R : α → β → Prop} {xs : List α} {ys : List β}
    (h : List.Forall₂ R xs ys) : ∀ x ∈ xs, ∃ y ∈ ys, R x y := by
  induction h with
  | nil => simp
  | @cons x y xs ys hxy _ ih =>
    intro z hz
    rcases List.mem_cons.mp hz with rfl | hz
    · exact ⟨y, List.mem_cons_self, hxy⟩
    · obtain ⟨y', hy', hzy'⟩ := ih z hz
      exact ⟨y', List.mem_cons_of_mem _ hy', hzy'⟩

lemma AtLeast.bestGpu {hw hw' : HardwareProfile} {gpu : GpuInfo} (h : AtLeast hw hw')
    (hbest : bestGpu hw.gpus = some gpu) :
    ∃ gpu', bestGpu hw'.gpus = some gpu' ∧ gpu.freeVramMb ≤ gpu'.freeVramMb := by
  obtain ⟨kept, hkept, hfree⟩ := h.gpus
  obtain ⟨g', hg', hle⟩ := exists_mem_of_forall₂ hfree gpu (bestGpu_spec hbest).1
  obtain ⟨gpu', hbest', hmax⟩ := exists_bestGpu (hkept.subset hg')
  exact ⟨gpu', hbest', hle.trans hmax⟩

/-- The memory a host without GPU must have for the model not to be advised against. -/
def RunsOnCpu (model : ModelSpec) (hw : HardwareProfile) : Prop :=
  model.minRamMb + cpuOnlyRamHeadroomMb ≤ hw.availableRamMb

/-- The memory a GPU must have for the model not to be advised against. -/
def RunsOnGpu (model : ModelSpec) (gpu : GpuInfo) : Prop :=
  model.minVramMb ≤ gpu.freeVramMb ∨ model.minVramMb * mayBeSlowVramFloorRatio ≤ gpu.freeVramMb

lemma RunsOnGpu.mono {model : ModelSpec} {gpu gpu' : GpuInfo} (h : RunsOnGpu model gpu)
    (hle : gpu.freeVramMb ≤ gpu'.freeVramMb) : RunsOnGpu model gpu' := by
  have hcast : (gpu.freeVramMb : ℚ) ≤ gpu'.freeVramMb := by exact_mod_cast hle
  rcases h with h | h
  · exact .inl (h.trans hle)
  · exact .inr (h.trans hcast)

lemma gpuTier_advised_iff {model : ModelSpec} (hvalid : CatalogValid model) (gpu : GpuInfo) :
    gpuTier model gpu.freeVramMb ≠ .notRecommended ↔ RunsOnGpu model gpu := by
  have hrecommended : model.recommendedVramMb ≤ gpu.freeVramMb →
      model.minVramMb ≤ gpu.freeVramMb := hvalid.vram.trans
  unfold gpuTier RunsOnGpu
  split_ifs with hrec hmin hfloor
  · simp [hrecommended hrec]
  · simp [hmin]
  · simp [hfloor]
  · simp [hmin, hfloor]

lemma classifyCpuOnly_tier (model : ModelSpec) (hw : HardwareProfile) :
    (classifyCpuOnly model hw).tier = .mayBeSlow ∧ RunsOnCpu model hw ∨
      (classifyCpuOnly model hw).tier = .notRecommended ∧ ¬ RunsOnCpu model hw := by
  unfold classifyCpuOnly RunsOnCpu
  split_ifs with h
  · exact .inl ⟨rfl, h⟩
  · exact .inr ⟨rfl, h⟩

lemma le_worst (tier : CompatibilityTier) :
    tierSortOrder tier ≤ tierSortOrder .notRecommended := by
  cases tier <;> simp [tierSortOrder]

lemma le_slow_iff (tier : CompatibilityTier) :
    tierSortOrder tier ≤ tierSortOrder .mayBeSlow ↔ tier ≠ .notRecommended := by
  cases tier <;> simp [tierSortOrder]

lemma classifyCpuOnly_antitone {model : ModelSpec} {hw hw' : HardwareProfile}
    (hram : hw.availableRamMb ≤ hw'.availableRamMb) :
    tierSortOrder (classifyCpuOnly model hw').tier ≤
      tierSortOrder (classifyCpuOnly model hw).tier := by
  rcases classifyCpuOnly_tier model hw with ⟨htier, henough⟩ | ⟨htier, -⟩
  · rcases classifyCpuOnly_tier model hw' with ⟨htier', -⟩ | ⟨-, hshort⟩
    · rw [htier, htier']
    · exact absurd (henough.trans hram) hshort
  · rw [htier]
    exact le_worst _

/-- Where the two procedures meet: the verdict on the GPU against that on main memory. -/
lemma gpu_le_cpuOnly_iff {model : ModelSpec} (hvalid : CatalogValid model) (hw : HardwareProfile)
    (gpu : GpuInfo) :
    tierSortOrder (classifyGpu model gpu).tier ≤ tierSortOrder (classifyCpuOnly model hw).tier ↔
      (RunsOnCpu model hw → RunsOnGpu model gpu) := by
  rw [classifyGpu_tier]
  rcases classifyCpuOnly_tier model hw with ⟨htier, henough⟩ | ⟨htier, hshort⟩
  · rw [htier, le_slow_iff, gpuTier_advised_iff hvalid]
    simp [henough]
  · rw [htier]
    simp [le_worst, hshort]

/-- Where the better host has the first GPU, some GPU of it takes over what main memory
was enough for. -/
def TakesOver (model : ModelSpec) (hw hw' : HardwareProfile) : Prop :=
  hw.gpus = [] → hw'.gpus ≠ [] → RunsOnCpu model hw → ∃ gpu ∈ hw'.gpus, RunsOnGpu model gpu

/-- The verdict on better hardware is as good exactly if the first GPU takes over. -/
theorem classify_monotone_iff {model : ModelSpec} {hw hw' : HardwareProfile}
    (hvalid : CatalogValid model) (h : AtLeast hw hw') :
    tierSortOrder (classify model hw').tier ≤ tierSortOrder (classify model hw).tier ↔
      TakesOver model hw hw' := by
  unfold TakesOver
  cases hbest : bestGpu hw.gpus with
  | some gpu =>
    obtain ⟨gpu', hbest', hle⟩ := h.bestGpu hbest
    have hgpus : hw.gpus ≠ [] := List.ne_nil_of_mem (bestGpu_spec hbest).1
    rw [classify_gpu hbest, classify_gpu hbest', classifyGpu_tier, classifyGpu_tier]
    simp [hgpus, gpuTier_antitone model hle]
  | none =>
    have hgpus := bestGpu_eq_none.mp hbest
    rw [classify_cpuOnly hbest]
    cases hbest' : bestGpu hw'.gpus with
    | none =>
      have hgpus' := bestGpu_eq_none.mp hbest'
      rw [classify_cpuOnly hbest']
      simp [hgpus', classifyCpuOnly_antitone h.ram]
    | some gpu' =>
      obtain ⟨hmem, hmax⟩ := bestGpu_spec hbest'
      rw [classify_gpu hbest', gpu_le_cpuOnly_iff hvalid]
      constructor
      · intro hruns _ _ henough
        exact ⟨gpu', hmem, hruns henough⟩
      · intro htakes henough
        obtain ⟨gpu, hgpu, hruns⟩ := htakes hgpus (List.ne_nil_of_mem hmem) henough
        exact hruns.mono (hmax gpu hgpu)

def llama31 : ModelSpec where
  id := "llama3.1:8b"
  paramSizeB := 8
  minVramMb := 6000
  recommendedVramMb := 9000
  minRamMb := 12000

def withoutGpu : HardwareProfile := { gpus := [], availableRamMb := 16000 }

def withGpu (freeVramMb : ℤ) : HardwareProfile :=
  { gpus := [{ name := "GPU", freeVramMb := freeVramMb }], availableRamMb := 16000 }

lemma llama31_valid : CatalogValid llama31 := ⟨by decide, by decide⟩

lemma atLeast_withGpu (freeVramMb : ℤ) : AtLeast withoutGpu (withGpu freeVramMb) :=
  ⟨⟨[], List.nil_subperm, .nil⟩, le_rfl⟩

/-- A small GPU is found, and the model that ran slowly is no longer recommended. -/
theorem classify_downgrades : ¬ ∀ model hw hw', CatalogValid model → AtLeast hw hw' →
    tierSortOrder (classify model hw').tier ≤ tierSortOrder (classify model hw).tier := by
  intro h
  have hworse : ¬ tierSortOrder (classify llama31 (withGpu 2000)).tier ≤
      tierSortOrder (classify llama31 withoutGpu).tier := by decide +kernel
  exact hworse (h llama31 withoutGpu (withGpu 2000) llama31_valid (atLeast_withGpu 2000))

theorem classify_monotone_large :
    tierSortOrder (classify llama31 (withGpu 5000)).tier ≤
      tierSortOrder (classify llama31 withoutGpu).tier := by
  apply (classify_monotone_iff llama31_valid (atLeast_withGpu 5000)).mpr
  intro _ _ _
  exact ⟨_, List.mem_singleton_self _, .inr (by norm_num [llama31, mayBeSlowVramFloorRatio])⟩

/-- The context size a verdict stands for where there is a GPU. -/
def tierCtx : CompatibilityTier → ℚ
  | .greatFit => generousCtx
  | .willRun => moderateCtx
  | .mayBeSlow => conservativeCtx
  | .notRecommended => conservativeCtx

lemma contextFor_eq (model : ModelSpec) (freeVram : ℤ) :
    contextFor model freeVram = tierCtx (gpuTier model freeVram) := by
  unfold contextFor gpuTier
  split_ifs <;> rfl

lemma buildRunConfig_cpuOnly {model : ModelSpec} {hw : HardwareProfile} (h : hw.gpus = []) :
    buildRunConfig model hw = ∅ := by
  simp [buildRunConfig, h, bestGpu]

lemma buildRunConfig_gpu {model : ModelSpec} {hw : HardwareProfile} {gpu : GpuInfo}
    (h : bestGpu hw.gpus = some gpu) :
    buildRunConfig model hw = Config.ofCtx (tierCtx (classify model hw).tier) := by
  simp [buildRunConfig, h, classify_gpu h, classifyGpu_tier, contextFor_eq]

/-- The order of the GPUs decides at most which of the best ones is named. -/
lemma bestGpu_perm {gpus gpus' : List GpuInfo} (h : gpus'.Perm gpus) :
    (bestGpu gpus').map GpuInfo.freeVramMb = (bestGpu gpus).map GpuInfo.freeVramMb := by
  cases hbest : bestGpu gpus with
  | none =>
    have hnil : gpus' = [] := by simpa [bestGpu_eq_none.mp hbest] using h
    simp [bestGpu_eq_none.mpr hnil]
  | some gpu =>
    obtain ⟨hmem, hmax⟩ := bestGpu_spec hbest
    obtain ⟨gpu', hbest', hle⟩ := exists_bestGpu (h.mem_iff.mpr hmem)
    have hle' := hmax gpu' (h.mem_iff.mp (bestGpu_spec hbest').1)
    simp [hbest', le_antisymm hle' hle]

/-- Verdict and config depend on the GPUs only through the free memory of the best one. -/
lemma verdict_congr (model : ModelSpec) {hw hw' : HardwareProfile}
    (hram : hw'.availableRamMb = hw.availableRamMb)
    (hfree : (bestGpu hw'.gpus).map GpuInfo.freeVramMb = (bestGpu hw.gpus).map GpuInfo.freeVramMb) :
    (classify model hw').tier = (classify model hw).tier ∧
      buildRunConfig model hw' = buildRunConfig model hw := by
  cases hbest : bestGpu hw.gpus with
  | none =>
    have hbest' : bestGpu hw'.gpus = none := by simpa [hbest] using hfree
    rw [buildRunConfig_cpuOnly (bestGpu_eq_none.mp hbest),
      buildRunConfig_cpuOnly (bestGpu_eq_none.mp hbest'), classify_cpuOnly hbest,
      classify_cpuOnly hbest']
    simp [classifyCpuOnly, hram, apply_ite]
  | some gpu =>
    obtain ⟨gpu', hbest', hsame⟩ : ∃ gpu', bestGpu hw'.gpus = some gpu' ∧
        gpu'.freeVramMb = gpu.freeVramMb := by simpa [hbest] using hfree
    rw [buildRunConfig_gpu hbest, buildRunConfig_gpu hbest', classify_gpu hbest,
      classify_gpu hbest', classifyGpu_tier, classifyGpu_tier, hsame]
    simp

lemma tierCtx_generous (tier : CompatibilityTier) : tierCtx tier = generousCtx ↔ tier = .greatFit := by
  cases tier <;> simp [tierCtx, generousCtx, moderateCtx, conservativeCtx]

lemma tierCtx_moderate (tier : CompatibilityTier) : tierCtx tier = moderateCtx ↔ tier = .willRun := by
  cases tier <;> simp [tierCtx, generousCtx, moderateCtx, conservativeCtx]

lemma tierCtx_conservative (tier : CompatibilityTier) :
    tierCtx tier = conservativeCtx ↔ tier = .mayBeSlow ∨ tier = .notRecommended := by
  cases tier <;> simp [tierCtx, generousCtx, moderateCtx, conservativeCtx]

lemma cpuOnly_at_best_slow {model : ModelSpec} {hw : HardwareProfile} (h : hw.gpus = []) :
    (classify model hw).tier ≠ .greatFit ∧ (classify model hw).tier ≠ .willRun := by
  rw [classify_cpuOnly (bestGpu_eq_none.mpr h)]
  rcases classifyCpuOnly_tier model hw with ⟨htier, -⟩ | ⟨htier, -⟩ <;> simp [htier]

/-- Each config stands for one verdict, and neither depends on the order of the GPUs. -/
theorem config_matches_verdict (model : ModelSpec) (hw : HardwareProfile) :
    (buildRunConfig model hw = Config.ofCtx generousCtx ↔
      (classify model hw).tier = .greatFit) ∧
    (buildRunConfig model hw = Config.ofCtx moderateCtx ↔
      (classify model hw).tier = .willRun) ∧
    (buildRunConfig model hw = Config.ofCtx conservativeCtx ↔ hw.gpus ≠ [] ∧
      ((classify model hw).tier = .mayBeSlow ∨ (classify model hw).tier = .notRecommended)) ∧
    (buildRunConfig model hw = ∅ ↔ hw.gpus = []) ∧
    ∀ gpus' : List GpuInfo, gpus'.Perm hw.gpus →
      (classify model { hw with gpus := gpus' }).tier = (classify model hw).tier ∧
      buildRunConfig model { hw with gpus := gpus' } = buildRunConfig model hw := by
  have horder : ∀ gpus' : List GpuInfo, gpus'.Perm hw.gpus →
      (classify model { hw with gpus := gpus' }).tier = (classify model hw).tier ∧
      buildRunConfig model { hw with gpus := gpus' } = buildRunConfig model hw := by
    intro gpus' h
    exact verdict_congr model rfl (bestGpu_perm h)
  cases hbest : bestGpu hw.gpus with
  | none =>
    have hnil := bestGpu_eq_none.mp hbest
    have hempty (ctx : ℚ) : ∅ ≠ Config.ofCtx ctx := (Config.ofCtx_ne_empty ctx).symm
    refine ⟨?_, ?_, ?_, ?_, horder⟩
    all_goals rw [buildRunConfig_cpuOnly hnil]
    · simp [hempty, (cpuOnly_at_best_slow hnil).1]
    · simp [hempty, (cpuOnly_at_best_slow hnil).2]
    · simp [hempty, hnil]
    · simp [hnil]
  | some gpu =>
    have hgpus : hw.gpus ≠ [] := List.ne_nil_of_mem (bestGpu_spec hbest).1
    refine ⟨?_, ?_, ?_, ?_, horder⟩
    all_goals rw [buildRunConfig_gpu hbest]
    · rw [Config.ofCtx_injective.eq_iff, tierCtx_generous]
    · rw [Config.ofCtx_injective.eq_iff, tierCtx_moderate]
    · rw [Config.ofCtx_injective.eq_iff, tierCtx_conservative]
      simp [hgpus]
    · simp [hgpus, Config.ofCtx_ne_empty]

end LlmMax.HardwareVerdict
