import LlmMax.Operations

/-! What becomes of a saved config when its model is run: the launcher never asks the
store, so a saved config takes effect only where the heuristic happens to agree. -/
namespace LlmMax.LauncherTuned
open Domain BenchMetrics AutotuneState Storage EffectProgram Services
open LauncherConfig LauncherService Operations

variable {W : Type}

/-- The options a run of the model should hand to the adapter: the saved config, and the
heuristic only when nothing is saved. -/
def intended (modelId : String) (modelSpec : Option ModelSpec) (r : Record W) : Option Config :=
  match r.before.store.getTunedConfig modelId with
  | some c => c.config.orNone
  | none => (heuristicConfig modelSpec (scans r.steps).getLast?).orNone

/-- Whatever a run hands to the adapter is its prompt under the intended options. -/
def TakesEffect (r : Record W) : Prop :=
  match r.operation with
  | .run modelId prompt modelSpec =>
    ∀ e ∈ adapterRuns r.steps, e = (modelId, prompt, intended modelId modelSpec r)
  | _ => True

instance : ∀ r : Record W, Decidable (TakesEffect r)
  | ⟨.run _ _ _, _, _, _⟩ => inferInstanceAs (Decidable (∀ e ∈ _, _))
  | ⟨.tune _ _ _, _, _, _⟩ => .isTrue trivial
  | ⟨.pass _ _, _, _, _⟩ => .isTrue trivial
  | ⟨.autopilot _ _, _, _, _⟩ => .isTrue trivial
  | ⟨.disable _, _, _, _⟩ => .isTrue trivial

/-- The config is what a machine with that hardware would have chosen anyway: nothing
without a spec or a GPU, else the context of the tier of its best GPU. -/
def Coincides (modelSpec : Option ModelSpec) (scanned : Option HardwareProfile) (config : Config) :
    Prop :=
  match modelSpec, scanned with
  | some model, some hw =>
    match bestGpu hw.gpus with
    | none => config = ∅
    | some gpu => config = Config.ofCtx (
        if model.recommendedVramMb ≤ gpu.freeVramMb then 4096
        else if model.minVramMb ≤ gpu.freeVramMb then 2048
        else 1024)
  | _, _ => config = ∅

/-- A run that reaches the adapter finds nothing saved, or a config that coincides. -/
def Unaffected (r : Record W) : Prop :=
  match r.operation with
  | .run modelId _ modelSpec => adapterRuns r.steps ≠ [] →
    ∀ c, r.before.store.getTunedConfig modelId = some c →
      Coincides modelSpec (scans r.steps).getLast? c.config
  | _ => True

lemma coincides_iff (modelSpec : Option ModelSpec) (scanned : Option HardwareProfile)
    (config : Config) :
    Coincides modelSpec scanned config ↔ config = heuristicConfig modelSpec scanned := by
  unfold Coincides heuristicConfig
  cases modelSpec with
  | none => rfl
  | some model =>
    cases scanned with
    | none => rfl
    | some hw =>
      dsimp only [buildRunConfig]
      cases bestGpu hw.gpus with
      | none => rfl
      | some gpu => rfl

lemma takesEffect_iff (env : Environment W) {r : Record W} (h : r.Performed env) :
    TakesEffect r ↔ Unaffected r := by
  unfold TakesEffect Unaffected
  cases hop : r.operation with
  | run modelId prompt modelSpec =>
    have hsteps := h.1
    rw [hop] at hsteps
    have hruns : adapterRuns r.steps = [] ∨ adapterRuns r.steps =
        [(modelId, prompt, (heuristicConfig modelSpec (scans r.steps).getLast?).orNone)] := by
      have hrun : Ensures (serving env) (Operation.run modelId prompt modelSpec).program r.before
          fun _ t _ => adapterRuns t = [] ∨ adapterRuns t =
            [(modelId, prompt, (heuristicConfig modelSpec (scans t).getLast?).orNone)] := by
        refine (run_ensures modelId prompt modelSpec r.before).bind ?_ fun e t s' h => h
        intro a t s' ht
        exact ensures_pure (by simpa using ht)
      rw [hsteps]
      exact hrun
    dsimp only
    rcases hruns with hnone | hone
    · simp [hnone]
    · rw [hone]
      simp only [List.mem_singleton, forall_eq, ne_eq, List.cons_ne_self, not_false_eq_true,
        forall_const, Prod.mk.injEq, true_and, intended]
      cases hstored : r.before.store.getTunedConfig modelId with
      | none => simp
      | some c =>
        simp only [Option.some.injEq, forall_eq', coincides_iff]
        constructor
        · intro heq
          exact (Config.orNone_injective heq).symm
        · intro heq
          rw [heq]
  | _ => rfl

/-- Over every sequence of operations, saved configs take effect in all runs exactly when
every run that reaches the adapter finds nothing saved or a config that coincides. -/
theorem records_takeEffect_iff (env : Environment W) (operations : List Operation) (s : System W) :
    (∀ r ∈ records env operations s, TakesEffect r) ↔
      ∀ r ∈ records env operations s, Unaffected r := by
  have hperformed := records_performed env operations s
  constructor
  · intro h r hr
    exact (takesEffect_iff env (hperformed r hr)).mp (h r hr)
  · intro h r hr
    exact (takesEffect_iff env (hperformed r hr)).mpr (h r hr)

/-- Tuning saves the context 4096, and the next run goes without options. -/
theorem records_ignore_saved : ¬ ∀ r ∈ records (growing ∅)
    [.tune "tinyllama:1.1b" none false, .run "tinyllama:1.1b" "Hello!" none] ⟨0, {}⟩, TakesEffect r := by
  decide +kernel

end LlmMax.LauncherTuned
