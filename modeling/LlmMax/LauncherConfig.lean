import LlmMax.Domain

/-! The hardware heuristic for runtime options. -/
namespace LlmMax.LauncherConfig
open Domain

def generousCtx : ℚ := 4096
def moderateCtx : ℚ := 2048
def conservativeCtx : ℚ := 1024

/-- The first GPU with the most free memory. -/
def bestGpu : List GpuInfo → Option GpuInfo
  | [] => none
  | g :: gpus => some <|
    gpus.foldl (fun best g => if best.freeVramMb < g.freeVramMb then g else best) g

@[simp] lemma bestGpu_eq_none {gpus : List GpuInfo} : bestGpu gpus = none ↔ gpus = [] := by
  cases gpus <;> simp [bestGpu]

/-- The scan ends on a GPU it has seen, and none of those has more free memory. -/
lemma bestGpu_spec {gpus : List GpuInfo} {gpu : GpuInfo} (h : bestGpu gpus = some gpu) :
    gpu ∈ gpus ∧ ∀ g ∈ gpus, g.freeVramMb ≤ gpu.freeVramMb := by
  cases gpus with
  | nil => simp [bestGpu] at h
  | cons best gpus =>
    simp only [bestGpu, Option.some.injEq] at h
    induction gpus generalizing best with
    | nil => simp_all
    | cons g gpus ih =>
      simp only [List.foldl_cons] at h
      obtain ⟨hmem, hmax⟩ := ih _ h
      split_ifs at hmem hmax with hlt
      · refine ⟨List.mem_cons_of_mem _ hmem, ?_⟩
        intro x hx
        rcases List.mem_cons.mp hx with rfl | hx
        · exact hlt.le.trans (hmax g List.mem_cons_self)
        · exact hmax x hx
      · have hbest := hmax best List.mem_cons_self
        constructor
        · rcases List.mem_cons.mp hmem with rfl | hmem <;> simp_all
        · intro x hx
          rcases List.mem_cons.mp hx with rfl | hx
          · exact hbest
          · rcases List.mem_cons.mp hx with rfl | hx
            · exact (not_lt.mp hlt).trans hbest
            · exact hmax x (List.mem_cons_of_mem _ hx)

lemma exists_bestGpu {gpus : List GpuInfo} {g : GpuInfo} (h : g ∈ gpus) :
    ∃ gpu, bestGpu gpus = some gpu ∧ g.freeVramMb ≤ gpu.freeVramMb := by
  obtain ⟨gpu, hbest⟩ := Option.ne_none_iff_exists'.mp (mt bestGpu_eq_none.mp (List.ne_nil_of_mem h))
  exact ⟨gpu, hbest, (bestGpu_spec hbest).2 g h⟩

/-- The context size for a model on a GPU with that much free memory. -/
def contextFor (model : ModelSpec) (freeVram : ℤ) : ℚ :=
  if model.recommendedVramMb ≤ freeVram then generousCtx
  else if model.minVramMb ≤ freeVram then moderateCtx
  else conservativeCtx

/-- Without a GPU there is nothing to tune, and the runtime's defaults apply. -/
def buildRunConfig (model : ModelSpec) (hw : HardwareProfile) : Config :=
  match bestGpu hw.gpus with
  | none => ∅
  | some gpu => Config.ofCtx (contextFor model gpu.freeVramMb)

/-- The config the heuristic gives a model on the hardware that was scanned, if any. -/
def heuristicConfig (modelSpec : Option ModelSpec) (scanned : Option HardwareProfile) : Config :=
  match modelSpec, scanned with
  | some model, some hw => buildRunConfig model hw
  | _, _ => ∅

end LlmMax.LauncherConfig
