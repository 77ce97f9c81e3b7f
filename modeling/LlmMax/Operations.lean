import LlmMax.AutopilotAgreement
import LlmMax.LauncherService

/-! The operations that the command line and the daemon offer, each run to its end before
the next one, over one store. -/
namespace LlmMax.Operations
open Domain BenchMetrics AutotuneState Storage EffectProgram Services
open AutotuneEngine AutotuneSpec AutopilotPass

/-- One-shot tuning: an accepted session is applied unless the run is dry. -/
def tune (modelId : String) (modelSpec : Option ModelSpec) (dryRun : Bool) :
    Engine TuningSession := do
  let session ← tuneOnce modelId modelSpec none
  if session.outcome = .acceptedNew ∧ dryRun = false then
    let _ ← apply session
    return session
  else return session

/-- Lock the current config; the answer tells whether there was one. -/
def autopilotDisable (modelId : String) : Engine Bool := do
  match ← getTunedConfig modelId with
  | none => return false
  | some _ =>
    lockConfig modelId
    return true

/-- A complete operation. A pass is one iteration of a running autopilot, with its loop
variables; an autopilot is drawn from at least once. -/
inductive Operation
  | tune (modelId : String) (modelSpec : Option ModelSpec) (dryRun : Bool)
  | run (modelId prompt : String) (modelSpec : Option ModelSpec)
  | pass (args : AutopilotArgs) (l : LoopState)
  | autopilot (args : AutopilotArgs) (more : ℕ)
  | disable (modelId : String)

def Operation.program : Operation → Engine Unit
  | .tune modelId modelSpec dryRun => do
    let _ ← Operations.tune modelId modelSpec dryRun
    return ()
  | .run modelId prompt modelSpec => do
    let _ ← LauncherService.run modelId prompt modelSpec
    return ()
  | .pass args l => do
    let _ ← iterate args l
    return ()
  | .autopilot args more => autopilotLoop args (more + 1) (.start args)
  | .disable modelId => do
    let _ ← autopilotDisable modelId
    return ()

variable {W : Type}

/-- One operation as it happened. -/
structure Record (W : Type) where
  operation : Operation
  before : System W
  steps : Trace W
  after : System W

/-- The records of operations performed one after the other; one that raises ends there, and
the next one finds the state it left. -/
def records (env : Environment W) : List Operation → System W → List (Record W)
  | [], _ => []
  | operation :: rest, s =>
    let out := exec (serving env) operation.program s
    ⟨operation, s, out.steps, out.state⟩ :: records env rest out.state

/-- The record is of that operation, performed in the state before. -/
def Record.Performed (env : Environment W) (r : Record W) : Prop :=
  r.steps = (exec (serving env) r.operation.program r.before).steps ∧
    r.after = (exec (serving env) r.operation.program r.before).state

/-- What an operation does is what its program does before the value is dropped. -/
lemma Record.Performed.discarded {env : Environment W} {r : Record W} (h : r.Performed env)
    {α : Type} {p : Engine α} (hp : r.operation.program = p >>= fun _ => pure ()) :
    r.steps = (exec (serving env) p r.before).steps ∧
      r.after = (exec (serving env) p r.before).state := by
  obtain ⟨hsteps, hafter⟩ := h
  obtain ⟨htrace, hstate⟩ := exec_discard (serving env) p r.before
  rw [hp] at hsteps hafter
  exact ⟨hsteps.trans htrace, hafter.trans hstate⟩

lemma records_performed (env : Environment W) (operations : List Operation) (s : System W) :
    ∀ r ∈ records env operations s, r.Performed env := by
  induction operations generalizing s with
  | nil => simp [records]
  | cons operation rest ih =>
    intro r hr
    rcases List.mem_cons.mp hr with rfl | hr
    · exact ⟨rfl, rfl⟩
    · exact ih _ r hr

lemma records_operation (env : Environment W) (operations : List Operation) (s : System W) :
    ∀ r ∈ records env operations s, r.operation ∈ operations := by
  induction operations generalizing s with
  | nil => simp [records]
  | cons operation rest ih =>
    intro r hr
    rcases List.mem_cons.mp hr with rfl | hr
    · exact List.mem_cons_self ..
    · exact List.mem_cons_of_mem _ (ih _ r hr)

end LlmMax.Operations
