import LlmMax.AutotuneState
import LlmMax.Storage

/-! Everything the engine and the launcher call: the runtime adapter, the hardware
scan, the clock, the storage, and the consumer of the autopilot generator. The
environment behind these calls is arbitrary; only the store is the repository's. -/
namespace LlmMax.Services
open Domain BenchMetrics AutotuneState Storage EffectProgram

/-- What a runtime returns for one prompt. -/
structure RunResult where
  response : String
  totalDurationS : ℚ
  tokensGenerated : ℤ
  tokensPerSec : Option ℚ
  raw : String
  deriving DecidableEq

inductive Call
  | adapterName
  | isAvailable
  | adapterRun (modelId prompt : String) (options : Option Config)
  | scanHardware
  | now
  | sleep (seconds : ℚ)
  | storage (op : StorageCall)
  /-- A note in the trace that a benchmark has been completed. -/
  | measured (benchmark : BenchmarkResult)
  /-- The generator hands a session to its consumer. -/
  | yielded (session : TuningSession)
  deriving DecidableEq

abbrev Call.Reply : Call → Type
  | .adapterName => String
  | .isAvailable => Bool
  | .adapterRun _ _ _ => RunResult
  | .scanHardware => HardwareProfile
  | .now => ℚ
  | .sleep _ => Unit
  | .storage op => op.Reply
  | .measured _ => Unit
  | .yielded _ => Unit

abbrev services : Interface := ⟨Call, Call.Reply⟩

abbrev Engine := Program services Exn

/-- The world outside the repository: a runtime, a machine and a clock, with any
behaviour over any state, including raising. -/
structure Environment (W : Type) where
  name : String
  isAvailable : W → Except Exn Bool × W
  run : String → String → Option Config → W → Except Exn RunResult × W
  scanHardware : W → Except Exn HardwareProfile × W
  now : W → Except Exn ℚ × W
  sleep : ℚ → W → Except Exn Unit × W

/-- A machine of which only the clock moves, and only by sleeping: the runtime answers
every prompt at the rate, or with the error, that it has at that time for the options. -/
def clocked (gpus : List GpuInfo) (available : ℚ → Bool)
    (respond : ℚ → Option Config → Except String ℚ) : Environment ℚ where
  name := "ollama"
  isAvailable time := (.ok (available time), time)
  run _ _ options time :=
    match respond time options with
    | .ok rate => (.ok ⟨"", 1, 1, some rate, ""⟩, time)
    | .error message => (.error (.exception message), time)
  scanHardware time := (.ok ⟨gpus, 0⟩, time)
  now time := (.ok time, time)
  sleep seconds time := (.ok (), time + seconds)

/-- A runtime that is faster the larger the context, up to a context that stops working
after the first hour. -/
def growing (broken : Config) : Environment ℚ :=
  clocked [] (fun _ => true) fun time options =>
    if 3600 ≤ time ∧ options = some broken then .error "failed to allocate memory"
    else match options.bind (Finmap.lookup "num_ctx") with
      | some (.number ctx) => .ok ctx
      | _ => .ok 2048

structure System (W : Type) where
  world : W
  store : InMemoryStorage

variable {W : Type}

/-- Every call served: the environment answers for the outside, the store for itself. -/
def serving (env : Environment W) : Handler services Exn (System W) where
  handle c s :=
    match c with
    | .adapterName => (.ok env.name, s)
    | .isAvailable =>
      let out := env.isAvailable s.world
      (out.1, { s with world := out.2 })
    | .adapterRun modelId prompt options =>
      let out := env.run modelId prompt options s.world
      (out.1, { s with world := out.2 })
    | .scanHardware =>
      let out := env.scanHardware s.world
      (out.1, { s with world := out.2 })
    | .now =>
      let out := env.now s.world
      (out.1, { s with world := out.2 })
    | .sleep seconds =>
      let out := env.sleep seconds s.world
      (out.1, { s with world := out.2 })
    | .storage op =>
      let out := InMemoryStorage.serve op s.store
      (.ok out.1, { s with store := out.2 })
    | .measured _ => (.ok (), s)
    | .yielded _ => (.ok (), s)

abbrev Trace (W : Type) := List (Step services Exn (System W))

def isAvailable : Engine Bool := Program.perform (I := services) .isAvailable
def adapterName : Engine String := Program.perform (I := services) .adapterName
def scanHardware : Engine HardwareProfile := Program.perform (I := services) .scanHardware
def now : Engine ℚ := Program.perform (I := services) .now
def sleep (seconds : ℚ) : Engine Unit := Program.perform (I := services) (.sleep seconds)

def adapterRun (modelId prompt : String) (options : Option Config) : Engine RunResult :=
  Program.perform (I := services) (.adapterRun modelId prompt options)

def saveRun (record : RunRecord) : Engine RunRecord :=
  Program.perform (I := services) (.storage (.saveRun record))

def saveTunedConfig (config : TunedConfig) : Engine TunedConfig :=
  Program.perform (I := services) (.storage (.saveTunedConfig config))

def getTunedConfig (modelId : String) : Engine (Option TunedConfig) :=
  Program.perform (I := services) (.storage (.getTunedConfig modelId))

def lockConfig (modelId : String) : Engine Unit :=
  Program.perform (I := services) (.storage (.lockConfig modelId))

def yieldSession (session : TuningSession) : Engine Unit :=
  Program.perform (I := services) (.yielded session)

/-- Raise unless the runtime answers; the launcher and the engine both begin with it. -/
def requireRuntime : Engine Unit := do
  if ← isAvailable then pure ()
  else
    let name ← adapterName
    Program.raise (.runtimeUnavailable (name ++ " runtime is not available"))

/-- The calls before the runtime has been found to be there. -/
def AsksOnly (c : Call) : Prop := c = .isAvailable ∨ c = .adapterName

lemma requireRuntime_only : Only AsksOnly requireRuntime := by
  have havailable : Only AsksOnly isAvailable := only_perform (I := services) (.inl rfl)
  have hname : Only AsksOnly adapterName := only_perform (I := services) (.inr rfl)
  apply havailable.bind
  intro available
  cases available with
  | true => exact only_pure _
  | false => exact hname.bind fun _ => only_raise _

/-- Calls that never reach the storage. -/
def Call.OffStore (c : Call) : Prop := ∀ op, c ≠ .storage op

/-- Calls that leave the table of tuned configs alone. -/
def Call.KeepsConfigs (c : Call) : Prop :=
  (∀ config, c ≠ .storage (.saveTunedConfig config)) ∧ ∀ m, c ≠ .storage (.lockConfig m)

lemma serving_offStore (env : Environment W) (c : Call) (s : System W) (h : c.OffStore) :
    ((serving env).handle c s).2.store = s.store := by
  cases c with
  | storage op => exact absurd rfl (h op)
  | _ => rfl

lemma serving_keepsConfigs (env : Environment W) (c : Call) (s : System W) (h : c.KeepsConfigs) :
    ((serving env).handle c s).2.store.tunedConfigs = s.store.tunedConfigs := by
  cases c with
  | storage op =>
    cases op with
    | saveTunedConfig config => exact absurd rfl (h.1 config)
    | lockConfig m => exact absurd rfl (h.2 m)
    | _ => rfl
  | _ => rfl

/-- The runs of the adapter in a trace: the model, the prompt and the options of each. -/
def adapterRuns (t : Trace W) : List (String × String × Option Config) :=
  t.filterMap fun x => match x.call with
    | .adapterRun modelId prompt options => some (modelId, prompt, options)
    | _ => none

/-- The benchmarks completed in a trace, oldest first. -/
def measurements (t : Trace W) : List BenchmarkResult :=
  t.filterMap fun x => match x.call with
    | .measured b => some b
    | _ => none

/-- The readings of the clock, oldest first. -/
def clockReads (t : Trace W) : List ℚ :=
  t.filterMap fun
    | ⟨_, .now, .ok time⟩ => some time
    | _ => none

/-- The hardware profiles scanned, oldest first. -/
def scans (t : Trace W) : List HardwareProfile :=
  t.filterMap fun
    | ⟨_, .scanHardware, .ok hw⟩ => some hw
    | _ => none

/-- The tuned configs saved in a trace, oldest first. -/
def savedConfigs (t : Trace W) : List TunedConfig :=
  t.filterMap fun x => match x.call with
    | .storage (.saveTunedConfig config) => some config
    | _ => none

@[simp] lemma adapterRuns_append (t u : Trace W) :
    adapterRuns (t ++ u) = adapterRuns t ++ adapterRuns u := List.filterMap_append

@[simp] lemma measurements_append (t u : Trace W) :
    measurements (t ++ u) = measurements t ++ measurements u := List.filterMap_append

@[simp] lemma clockReads_append (t u : Trace W) :
    clockReads (t ++ u) = clockReads t ++ clockReads u := List.filterMap_append

@[simp] lemma scans_append (t u : Trace W) : scans (t ++ u) = scans t ++ scans u :=
  List.filterMap_append

@[simp] lemma savedConfigs_append (t u : Trace W) :
    savedConfigs (t ++ u) = savedConfigs t ++ savedConfigs u := List.filterMap_append

@[simp] lemma clockReads_storage (s : System W) (op : StorageCall) (reply : Except Exn op.Reply)
    (t : Trace W) : clockReads (⟨s, .storage op, reply⟩ :: t) = clockReads t := rfl

section silent
variable {allowed : Call → Prop} {t : Trace W} (h : ∀ x ∈ t, allowed x.call)
include h

lemma adapterRuns_eq_nil
    (hallowed : ∀ modelId prompt options, ¬ allowed (.adapterRun modelId prompt options)) :
    adapterRuns t = [] := by
  apply List.filterMap_eq_nil_iff.mpr
  intro x hx
  have hc := h x hx
  split
  · rename_i hcall
    rw [hcall] at hc
    exact absurd hc (hallowed _ _ _)
  · rfl

lemma measurements_eq_nil (hallowed : ∀ b, ¬ allowed (.measured b)) : measurements t = [] := by
  apply List.filterMap_eq_nil_iff.mpr
  intro x hx
  have hc := h x hx
  split
  · rename_i hcall
    rw [hcall] at hc
    exact absurd hc (hallowed _)
  · rfl

lemma clockReads_eq_nil (hallowed : ¬ allowed .now) : clockReads t = [] := by
  apply List.filterMap_eq_nil_iff.mpr
  intro x hx
  have hc := h x hx
  split
  · exact absurd hc hallowed
  · rfl

lemma scans_eq_nil (hallowed : ¬ allowed .scanHardware) : scans t = [] := by
  apply List.filterMap_eq_nil_iff.mpr
  intro x hx
  have hc := h x hx
  split
  · exact absurd hc hallowed
  · rfl

lemma savedConfigs_eq_nil
    (hallowed : ∀ config, ¬ allowed (.storage (.saveTunedConfig config))) :
    savedConfigs t = [] := by
  apply List.filterMap_eq_nil_iff.mpr
  intro x hx
  have hc := h x hx
  split
  · rename_i hcall
    rw [hcall] at hc
    exact absurd hc (hallowed _)
  · rfl

end silent

end LlmMax.Services
