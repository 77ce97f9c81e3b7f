import LlmMax.CacheAside
import LlmMax.Profiler

/-! The hardware status, which the command line and the daemon read through a cache on a Redis
server when that is enabled. -/
namespace LlmMax.StatusCache
open BenchMetrics Config EffectProgram CacheAside Profiler

def scanCacheKey : String := "llm-max:last-scan"

/-- Five minutes. -/
def defaultTtlSeconds : ℚ := 300

/-- The calls of a status request; what is produced is a scan, what is served the status. -/
abbrev statusCalls : Interface := cache String String HardwareProfile

abbrev Status := Program statusCalls Exn

/-- `model_dump_json` and `model_validate_json` of a profile. -/
structure ProfileCodec where
  dump : HardwareProfile → String
  validate : String → Except Exn HardwareProfile

def ProfileCodec.decode (codec : ProfileCodec) (raw : String) : Option HardwareProfile :=
  (codec.validate raw).toOption

lemma ProfileCodec.validate_of_decode (codec : ProfileCodec) {raw : String}
    {profile : HardwareProfile} (h : codec.decode raw = some profile) :
    codec.validate raw = .ok profile := by
  unfold ProfileCodec.decode at h
  cases hvalidate : codec.validate raw with
  | ok found => simpa [hvalidate, Except.toOption] using h
  | error e => simp [hvalidate, Except.toOption] at h

def scan : Status HardwareProfile := Program.perform (I := statusCalls) .produce

section cache
variable (codec : ProfileCodec)

def setLastScan (profile : HardwareProfile) : Status Bool := do
  match ← Program.attempt (I := statusCalls)
      (.set scanCacheKey (codec.dump profile) defaultTtlSeconds) with
  | .ok _ => return true
  | .error e => if isException e then return false else Program.raise e

def getLastScan : Status (Option HardwareProfile) := do
  match ← Program.attempt (I := statusCalls) (.get scanCacheKey) with
  | .ok raw => return raw.bind codec.decode
  | .error e => if isException e then return none else Program.raise e

variable (environ : Environ)

/-- The constructor of the cache, which reads the settings. -/
def statusCache : Status RedisConfig := Program.lift (redisConfig environ)

/-- `GET /status` of the daemon. -/
def statusRoute : Status HardwareProfile := do
  if redisEnabled environ then
    let _ ← statusCache environ
    match ← getLastScan codec with
    | some cached => return cached
    | none =>
      let fresh ← scan
      let _ ← setLastScan codec fresh
      return fresh
  else scan

/-- What the `status` command prints, and whether it says that it is from the cache. -/
def statusCommand : Status (HardwareProfile × Bool) := do
  let cached ← if redisEnabled environ then do
      let _ ← statusCache environ
      getLastScan codec
    else pure none
  match cached with
  | some profile => return (profile, true)
  | none =>
    let profile ← scan
    if redisEnabled environ then
      let _ ← setLastScan codec profile
    return (profile, false)

end cache

/-- Who asks for the status, with the environment of its process. -/
inductive FrontEnd
  | command (environ : Environ)
  | route (environ : Environ)

def FrontEnd.environ : FrontEnd → Environ
  | .command environ | .route environ => environ

/-- The status is computed, and then printed or sent. -/
def FrontEnd.process (codec : ProfileCodec) : FrontEnd → Status Unit
  | .command environ => do
    let out ← statusCommand codec environ
    Program.perform (I := statusCalls) (.serve out.1)
  | .route environ => do
    let profile ← statusRoute codec environ
    Program.perform (I := statusCalls) (.serve profile)

/-- A machine whose scans are run on a host: only a scan changes it. -/
def machine {σ : Type} (H : Handler host Exn σ) (elapse : σ → ℚ) (helapse : ∀ s, 0 ≤ elapse s)
    (connection : σ → Connection Exn) :
    Surroundings String String HardwareProfile Exn σ where
  elapse := elapse
  elapse_nonneg := helapse
  evicts _ := false
  connection := connection
  produce s := (exec H (scanHardware defaultGpuProviders) s).result
  next c s := match c with
    | .produce => (exec H (scanHardware defaultGpuProviders) s).state
    | _ => s

end LlmMax.StatusCache
