import LlmMax.LauncherConfig
import LlmMax.SortedLists

/-! How well a model fits the hardware: thresholds on the best GPU's free memory, and on
the free main memory where there is no GPU. -/
namespace LlmMax.Compatibility
open Domain LauncherConfig

inductive CompatibilityTier
  | greatFit | willRun | mayBeSlow | notRecommended
  deriving DecidableEq

/-- Below this fraction of a model's least GPU memory it is no longer called slow. Memory sizes
are integers, on the same side of which the exact product and the floating-point one lie. -/
def mayBeSlowVramFloorRatio : ℚ := 7 / 10

def cpuOnlyRamHeadroomMb : ℤ := 4000

/-- Best tier first. -/
def tierSortOrder : CompatibilityTier → ℕ
  | .greatFit => 0
  | .willRun => 1
  | .mayBeSlow => 2
  | .notRecommended => 3

structure ModelCompatibility where
  model : ModelSpec
  tier : CompatibilityTier
  reason : Message
  deriving DecidableEq

def classifyGpu (model : ModelSpec) (bestGpu : GpuInfo) : ModelCompatibility :=
  let freeVram := bestGpu.freeVramMb
  if model.recommendedVramMb ≤ freeVram then
    { model := model
      tier := .greatFit
      reason := [.number (some freeVram), .text " MB free VRAM on ", .text bestGpu.name,
        .text " comfortably exceeds the ", .number (some model.recommendedVramMb),
        .text " MB recommended."] }
  else if model.minVramMb ≤ freeVram then
    { model := model
      tier := .willRun
      reason := [.number (some freeVram), .text " MB free VRAM meets the ",
        .number (some model.minVramMb), .text " MB minimum but is below the ",
        .number (some model.recommendedVramMb),
        .text " MB recommended — expect reduced context size or batch size."] }
  else if model.minVramMb * mayBeSlowVramFloorRatio ≤ freeVram then
    { model := model
      tier := .mayBeSlow
      reason := [.text "Only ", .number (some freeVram), .text " MB free VRAM vs. ",
        .number (some model.minVramMb),
        .text " MB minimum — will likely require CPU offload, slowing inference significantly."] }
  else
    { model := model
      tier := .notRecommended
      reason := [.number (some freeVram), .text " MB free VRAM is far below the ",
        .number (some model.minVramMb), .text " MB minimum required."] }

def classifyCpuOnly (model : ModelSpec) (hw : HardwareProfile) : ModelCompatibility :=
  if model.minRamMb + cpuOnlyRamHeadroomMb ≤ hw.availableRamMb then
    { model := model
      tier := .mayBeSlow
      reason := [.text "No GPU detected — running on CPU only. RAM is sufficient (",
        .number (some hw.availableRamMb),
        .text " MB available) but expect noticeably lower throughput than GPU inference."] }
  else
    { model := model
      tier := .notRecommended
      reason := [.text "No GPU detected and only ", .number (some hw.availableRamMb),
        .text " MB RAM available vs. ", .number (some model.minRamMb),
        .text " MB minimum needed for CPU inference."] }

/-- With a GPU only its free memory counts; main memory counts where there is none. -/
def classify (model : ModelSpec) (hw : HardwareProfile) : ModelCompatibility :=
  match bestGpu hw.gpus with
  | some gpu => classifyGpu model gpu
  | none => classifyCpuOnly model hw

/-- The verdicts on the whole catalog, best fit first. -/
def classifyAll (catalog : List ModelSpec) (hw : HardwareProfile) : List ModelCompatibility :=
  SortedLists.sortByKey (fun r => tierSortOrder r.tier) (catalog.map fun m => classify m hw)

@[simp] lemma classify_model (model : ModelSpec) (hw : HardwareProfile) :
    (classify model hw).model = model := by
  unfold classify
  split
  · simp only [classifyGpu]
    split_ifs <;> simp only
  · simp only [classifyCpuOnly]
    split_ifs <;> simp only

lemma classify_gpu {model : ModelSpec} {hw : HardwareProfile} {gpu : GpuInfo}
    (h : bestGpu hw.gpus = some gpu) : classify model hw = classifyGpu model gpu := by
  simp [classify, h]

lemma classify_cpuOnly {model : ModelSpec} {hw : HardwareProfile} (h : bestGpu hw.gpus = none) :
    classify model hw = classifyCpuOnly model hw := by
  simp [classify, h]

/-- The tier of a model on a GPU with that much free memory. -/
def gpuTier (model : ModelSpec) (freeVram : ℤ) : CompatibilityTier :=
  if model.recommendedVramMb ≤ freeVram then .greatFit
  else if model.minVramMb ≤ freeVram then .willRun
  else if model.minVramMb * mayBeSlowVramFloorRatio ≤ freeVram then .mayBeSlow
  else .notRecommended

lemma classifyGpu_tier (model : ModelSpec) (gpu : GpuInfo) :
    (classifyGpu model gpu).tier = gpuTier model gpu.freeVramMb := by
  simp only [classifyGpu, gpuTier]
  split_ifs <;> simp only

/-- More free memory on the GPU never makes a verdict worse, whatever the thresholds. -/
lemma gpuTier_antitone {freeVram freeVram' : ℤ} (model : ModelSpec) (h : freeVram ≤ freeVram') :
    tierSortOrder (gpuTier model freeVram') ≤ tierSortOrder (gpuTier model freeVram) := by
  have hcast : (freeVram : ℚ) ≤ freeVram' := by exact_mod_cast h
  unfold gpuTier
  split_ifs <;> simp only [tierSortOrder] <;> first | omega | linarith

end LlmMax.Compatibility
