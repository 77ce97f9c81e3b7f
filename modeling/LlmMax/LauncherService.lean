import LlmMax.LauncherConfig
import LlmMax.Services

/-! Running one prompt: options by the hardware heuristic, and a record of the run. -/
namespace LlmMax.LauncherService
open Domain BenchMetrics Storage EffectProgram Services LauncherConfig

/-- The options of a run: without a spec of the model there are none. -/
def runOptions (modelSpec : Option ModelSpec) : Engine (Option Config) := do
  match modelSpec with
  | none => return none
  | some model =>
    let hw ← scanHardware
    return (buildRunConfig model hw).orNone

def run (modelId prompt : String) (modelSpec : Option ModelSpec) :
    Engine (RunResult × RunRecord) := do
  requireRuntime
  let options ← runOptions modelSpec
  let result ← adapterRun modelId prompt options
  let runtime ← adapterName
  let record ← saveRun {
    modelId, runtime, prompt
    tokensGenerated := result.tokensGenerated
    totalDurationS := result.totalDurationS
    tokensPerSec := result.tokensPerSec }
  return (result, record)

variable {W : Type} {env : Environment W}

/-- Calls that neither run a prompt nor scan the hardware. -/
def Aside (c : Call) : Prop :=
  c = .isAvailable ∨ c = .adapterName ∨ ∃ op, c = .storage op

lemma aside_trace {t : Trace W} (h : ∀ x ∈ t, Aside x.call) : adapterRuns t = [] ∧ scans t = [] :=
  ⟨adapterRuns_eq_nil h (by simp [Aside]), scans_eq_nil h (by simp [Aside])⟩

lemma aside_of_asksOnly {c : Call} (h : AsksOnly c) : Aside c := by
  obtain rfl | rfl := h
  · exact .inl rfl
  · exact .inr (.inl rfl)

/-- What a run calls: of the storage, only the table of runs. -/
def Launching (c : Call) : Prop := c.OffStore ∨ ∃ record, c = .storage (.saveRun record)

lemma run_only (modelId prompt : String) (modelSpec : Option ModelSpec) :
    Only Launching (run modelId prompt modelSpec) := by
  have hcall {c : Call} (hc : c.OffStore) :
      Only Launching (Program.perform (I := services) (ε := Exn) c) :=
    only_perform (I := services) (.inl hc)
  have hrequire : Only Launching requireRuntime := by
    apply requireRuntime_only.mono
    intro c hc
    obtain rfl | rfl := hc
    · exact .inl fun _ h => by cases h
    · exact .inl fun _ h => by cases h
  have hoptions : Only Launching (runOptions modelSpec) := by
    cases modelSpec with
    | none => exact only_pure _
    | some model =>
      have hscan : Only Launching scanHardware := hcall fun _ h => by cases h
      exact hscan.bind fun _ => only_pure _
  apply hrequire.bind
  intro _
  apply hoptions.bind
  intro options
  have hrun : Only Launching (adapterRun modelId prompt options) := hcall fun _ h => by cases h
  apply hrun.bind
  intro result
  have hname : Only Launching adapterName := hcall fun _ h => by cases h
  apply hname.bind
  intro runtime
  have hsave (record : RunRecord) : Only Launching (saveRun record) :=
    only_perform (I := services) (.inr ⟨record, rfl⟩)
  exact (hsave _).bind fun _ => only_pure _

lemma runOptions_ensures (modelSpec : Option ModelSpec) (s : System W) :
    Ensures (serving env) (runOptions modelSpec) s fun r t _ => adapterRuns t = [] ∧
      ∀ options, r = .ok options →
        options = (heuristicConfig modelSpec (scans t).getLast?).orNone := by
  cases modelSpec with
  | none =>
    refine ensures_pure ⟨rfl, fun options h => ?_⟩
    cases h
    rfl
  | some model =>
    have hscan : Ensures (serving env) scanHardware s fun r t _ => adapterRuns t = [] ∧
        ∀ hw : HardwareProfile, r = .ok hw → scans t = [hw] := by
      refine ensures_perform ⟨rfl, fun hw h => ?_⟩
      simp only [scans, serving] at h ⊢
      simp [h]
    refine hscan.bind ?_ ?_
    · intro hw t s' h
      refine ensures_pure ⟨by simpa using h.1, fun options ho => ?_⟩
      cases ho
      simp [h.2 hw rfl, heuristicConfig]
    · intro e t s' h
      exact ⟨h.1, fun options ho => by cases ho⟩

/-- A run hands the adapter its prompt once, under the options of the heuristic, unless it
fails before. -/
theorem run_ensures (modelId prompt : String) (modelSpec : Option ModelSpec) (s : System W) :
    Ensures (serving env) (run modelId prompt modelSpec) s fun _ t _ => adapterRuns t = [] ∨
      adapterRuns t =
        [(modelId, prompt, (heuristicConfig modelSpec (scans t).getLast?).orNone)] := by
  have hrequire : Ensures (serving env) requireRuntime s fun _ t _ =>
      adapterRuns t = [] ∧ scans t = [] :=
    aside_trace (requireRuntime_only.mono fun _ => aside_of_asksOnly).steps
  have hsave (result : RunResult) : Only Aside (do
      let runtime ← adapterName
      let record ← saveRun {
        modelId, runtime, prompt
        tokensGenerated := result.tokensGenerated
        totalDurationS := result.totalDurationS
        tokensPerSec := result.tokensPerSec }
      return (result, record)) := by
    have hname : Only Aside adapterName := only_perform (I := services) (.inr (.inl rfl))
    apply hname.bind
    intro runtime
    have hrecord (record : RunRecord) : Only Aside (saveRun record) :=
      only_perform (I := services) (.inr (.inr ⟨_, rfl⟩))
    exact (hrecord _).bind fun _ => only_pure _
  refine hrequire.bind ?_ fun e t s' h => .inl h.1
  intro _ t₁ s₁ h₁
  refine (runOptions_ensures modelSpec s₁).bind ?_ ?_
  · intro options t₂ s₂ h₂
    have hoptions := h₂.2 options rfl
    have hrun : Ensures (serving env) (adapterRun modelId prompt options) s₂ fun _ t _ =>
        adapterRuns t = [(modelId, prompt, options)] ∧ scans t = [] := ensures_perform ⟨rfl, rfl⟩
    refine hrun.bind ?_ ?_
    · intro result t₃ s₃ h₃
      have h₄ := aside_trace ((hsave result).steps (H := serving env) (s := s₃))
      refine .inr ?_
      simp [h₁, h₂.1, h₃, h₄, hoptions]
    · intro e t₃ s₃ h₃
      refine .inr ?_
      simp [h₁, h₂.1, h₃, hoptions]
  · intro e t₂ s₂ h₂
    refine .inl ?_
    simp [h₁, h₂.1]

end LlmMax.LauncherService
