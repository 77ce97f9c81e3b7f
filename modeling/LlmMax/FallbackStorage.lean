import LlmMax.BenchMetrics
import LlmMax.Failover
import LlmMax.Storage

/-! The storage that is chosen for MySQL: every operation goes to the primary store, and to
the fallback when the primary raises. -/
namespace LlmMax.FallbackStorage
open Domain BenchMetrics Storage EffectProgram Failover

variable {σ τ : Type}

section methods
variable (primary : Handler storage Failure σ) (fallback : Handler storage Failure τ)

/-- `_call`: both stores get the same arguments. -/
def callMethod (c : TimedCall) (s : Pair σ τ) : Except Failure c.op.Reply × Pair σ τ :=
  Failover.call (primary.handle c) (fallback.handle c) s

def saveRun (time : String) (record : RunRecord) (s : Pair σ τ) :
    Except Failure RunRecord × Pair σ τ :=
  callMethod primary fallback ⟨time, .saveRun record⟩ s

def listRuns (time : String) (modelId : Option String) (limit : ℤ) (s : Pair σ τ) :
    Except Failure (List RunRecord) × Pair σ τ :=
  callMethod primary fallback ⟨time, .listRuns modelId limit⟩ s

def saveTunedConfig (time : String) (config : TunedConfig) (s : Pair σ τ) :
    Except Failure TunedConfig × Pair σ τ :=
  callMethod primary fallback ⟨time, .saveTunedConfig config⟩ s

def getTunedConfig (time : String) (modelId : String) (s : Pair σ τ) :
    Except Failure (Option TunedConfig) × Pair σ τ :=
  callMethod primary fallback ⟨time, .getTunedConfig modelId⟩ s

def lockConfig (time : String) (modelId : String) (s : Pair σ τ) : Except Failure Unit × Pair σ τ :=
  callMethod primary fallback ⟨time, .lockConfig modelId⟩ s

def saveAutopilotEvent (time : String) (event : AutopilotEvent) (s : Pair σ τ) :
    Except Failure AutopilotEvent × Pair σ τ :=
  callMethod primary fallback ⟨time, .saveAutopilotEvent event⟩ s

def listAutopilotEvents (time : String) (modelId : Option String) (limit : ℤ) (s : Pair σ τ) :
    Except Failure (List AutopilotEvent) × Pair σ τ :=
  callMethod primary fallback ⟨time, .listAutopilotEvents modelId limit⟩ s

def serve (time : String) :
    (op : StorageCall) → Pair σ τ → Except Failure op.Reply × Pair σ τ
  | .saveRun record => saveRun primary fallback time record
  | .listRuns modelId limit => listRuns primary fallback time modelId limit
  | .saveTunedConfig config => saveTunedConfig primary fallback time config
  | .getTunedConfig modelId => getTunedConfig primary fallback time modelId
  | .lockConfig modelId => lockConfig primary fallback time modelId
  | .saveAutopilotEvent event => saveAutopilotEvent primary fallback time event
  | .listAutopilotEvents modelId limit => listAutopilotEvents primary fallback time modelId limit

lemma serve_eq (time : String) (op : StorageCall) (s : Pair σ τ) :
    serve primary fallback time op s = callMethod primary fallback ⟨time, op⟩ s := by
  cases op <;> rfl

end methods

section runs
variable (primary : AtomicStore storage Failure σ) (fallback : AtomicStore storage Failure τ)

/-- The wrapper serving one operation of a run under the faults that the schedule has for it. -/
def attempt (a : Attempt storage Failure) (s : Pair σ τ) :
    Except Failure a.op.op.Reply × Pair σ τ :=
  serve (primary.under a.primaryFault).toHandler (fallback.under a.fallbackFault).toHandler
    a.op.time a.op.op s

/-- A run through the wrapper, call by call. -/
def run : List (Attempt storage Failure) → Pair σ τ → List (Record storage Failure σ τ)
  | [], _ => []
  | a :: rest, s =>
    let out := attempt primary fallback a s
    ⟨a, s, out.1, out.2⟩ :: run rest out.2

/-- The two stores after a run. -/
def after (attempts : List (Attempt storage Failure)) (s : Pair σ τ) : Pair σ τ :=
  attempts.foldl (fun s a => (attempt primary fallback a s).2) s

lemma attempt_eq (a : Attempt storage Failure) (s : Pair σ τ) :
    attempt primary fallback a s = Failover.serve primary fallback a s :=
  serve_eq _ _ _ _ _

lemma run_eq (attempts : List (Attempt storage Failure)) (s : Pair σ τ) :
    run primary fallback attempts s = Failover.records primary fallback attempts s := by
  induction attempts generalizing s with
  | nil => rfl
  | cons a rest ih => simp only [run, records, attempt_eq, ih]

lemma after_eq (attempts : List (Attempt storage Failure)) (s : Pair σ τ) :
    after primary fallback attempts s = Failover.final primary fallback attempts s := by
  simp only [after, final, attempt_eq]

/-- What the wrapper makes of one call: it is in the replay of one store if it is
acknowledged and in none otherwise, and the exception that leaves the wrapper is that of the
fallback, with both stores as they were. -/
structure Routed (r : Record storage Failure σ τ) : Prop where
  once : (byPrimary primary [r]).length + (byFallback primary fallback [r]).length =
    if r.result.isOk then 1 else 0
  flag : r.after.lastUsedFallback = !(r.onPrimary primary).isOk
  raised : ∀ e, r.result = .error e →
    (r.onPrimary primary).isOk = false ∧ r.onFallback fallback = .error e ∧
      r.after.primary = r.before.primary ∧ r.after.fallback = r.before.fallback

lemma served_routed (a : Attempt storage Failure) (s : Pair σ τ)
    (result : Except Failure (storage.Reply a.op)) (s' : Pair σ τ)
    (h : Served primary fallback a s result s') : Routed primary fallback ⟨a, s, result, s'⟩ := by
  cases h with
  | primary answered =>
    have hprimary : (primary.under a.primaryFault).handle a.op s.primary = _ := answered
    refine ⟨?_, ?_, fun e h => by cases h⟩
    · simp [byPrimary, byFallback, Record.onPrimary, hprimary, Except.isOk, Except.toBool]
    · simp [Record.onPrimary, hprimary, Except.isOk, Except.toBool]
  | fallback refused answered =>
    have hfallback : (fallback.under a.fallbackFault).handle a.op s.fallback = _ := answered
    refine ⟨?_, ?_, fun e h => by cases h⟩
    · simp [byPrimary, byFallback, Record.onPrimary, Record.onFallback, refused, hfallback,
        Except.isOk, Except.toBool]
    · simp [Record.onPrimary, refused, Except.isOk, Except.toBool]
  | neither refused raised =>
    refine ⟨?_, ?_, fun e h => ?_⟩
    · simp [byPrimary, byFallback, Record.onPrimary, Record.onFallback, refused, raised,
        Except.isOk, Except.toBool]
    · simp [Record.onPrimary, refused, Except.isOk, Except.toBool]
    · cases h
      exact ⟨by simp [Record.onPrimary, refused, Except.isOk, Except.toBool], raised, rfl, rfl⟩

/-- Nothing is lost or duplicated when failures are atomic: each store is the replay of
exactly the calls it answered, with the results that the callers got. -/
theorem run_replays (attempts : List (Attempt storage Failure)) (s : Pair σ τ) :
    let calls := run primary fallback attempts s
    replay primary.toHandler ((byPrimary primary calls).map fun r => r.attempt.op) s.primary =
        .ok ((byPrimary primary calls).filterMap Record.answer,
          (after primary fallback attempts s).primary) ∧
      replay fallback.toHandler ((byFallback primary fallback calls).map fun r => r.attempt.op)
          s.fallback =
        .ok ((byFallback primary fallback calls).filterMap Record.answer,
          (after primary fallback attempts s).fallback) ∧
      ∀ r ∈ calls, Routed primary fallback r := by
  intro calls
  have hcalls : calls = records primary fallback attempts s := run_eq primary fallback attempts s
  rw [hcalls, after_eq]
  refine ⟨replay_primary primary fallback attempts s, replay_fallback primary fallback attempts s, ?_⟩
  exact records_forall primary fallback (served_routed primary fallback) attempts s

end runs

/-- The in-memory store as a backend; it never raises. -/
def inMemory : AtomicStore storage Failure InMemoryStorage where
  handle c store :=
    let out := InMemoryStorage.serve c.op store
    (.ok out.1, out.2)
  unchanged c store e h := by cases h

end LlmMax.FallbackStorage
