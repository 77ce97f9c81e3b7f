import LlmMax.Config
import LlmMax.EffectBlocks
import LlmMax.Generator

/-! The hardware scan: the vendors' GPU providers, of which there is one, and what the
operating system tells about the processor and the memory. -/
namespace LlmMax.Profiler
open BenchMetrics Config EffectProgram EffectBlocks Generators

/-- A GPU as a scan reports it. -/
structure GpuInfo where
  index : ℕ
  name : String
  totalVramMb : ℕ
  freeVramMb : ℕ
  usedVramMb : ℕ
  computeCapability : Option String := none
  utilizationPct : Option ℕ := none
  temperatureC : Option ℕ := none
  deriving DecidableEq

structure HardwareProfile where
  gpus : List GpuInfo := []
  cpuCoresPhysical : ℕ
  cpuCoresLogical : ℕ
  cpuModel : Option String := none
  totalRamMb : ℕ
  availableRamMb : ℕ
  deriving DecidableEq

def HardwareProfile.withGpus (hw : HardwareProfile) (gpus : List GpuInfo) : HardwareProfile :=
  { hw with gpus := gpus }

/-- What the classification and the launcher read of a profile. -/
def HardwareProfile.core (hw : HardwareProfile) : Domain.HardwareProfile where
  gpus := hw.gpus.map fun gpu => ⟨gpu.name, gpu.freeVramMb⟩
  availableRamMb := hw.availableRamMb

inductive DeviceName
  | str (s : String)
  | bytes (b : ByteArray)

structure MemoryInfo where
  total : ℕ
  free : ℕ
  used : ℕ

/-- The calls to the NVIDIA bindings and to the operating system. The import replies whether
the module was found. -/
inductive HostCall
  | importPynvml
  | nvmlInit
  | nvmlShutdown
  | deviceGetCount
  | deviceGetHandleByIndex (index : ℕ)
  | deviceGetName (handle : ℕ)
  | deviceGetMemoryInfo (handle : ℕ)
  | deviceGetCudaComputeCapability (handle : ℕ)
  | deviceGetUtilizationRates (handle : ℕ)
  | deviceGetTemperature (handle : ℕ)
  | cpuCount (logical : Bool)
  | virtualMemory
  | platformSystem
  | openCpuinfo
  | platformProcessor

abbrev HostCall.Reply : HostCall → Type
  | .importPynvml => Bool
  | .nvmlInit | .nvmlShutdown => Unit
  | .deviceGetCount | .deviceGetHandleByIndex _ => ℕ
  | .deviceGetName _ => DeviceName
  | .deviceGetMemoryInfo _ => MemoryInfo
  | .deviceGetCudaComputeCapability _ => ℕ × ℕ
  | .deviceGetUtilizationRates _ | .deviceGetTemperature _ => ℕ
  | .cpuCount _ => Option ℕ
  | .virtualMemory => ℕ × ℕ
  | .platformSystem => String
  | .openCpuinfo => Generator Exn String
  | .platformProcessor => String

abbrev host : Interface := ⟨HostCall, HostCall.Reply⟩

abbrev Scan := Program host Exn

def ask (c : HostCall) : Scan c.Reply := Program.perform (I := host) c

/-- `except Exception`. -/
def isException (e : Exn) : Bool := e.caught.isSome

/-- `try: value = … except Exception: pass`. -/
def optional {α : Type} (p : Scan α) : Scan (Option α) :=
  catching isException (fun _ => pure none) (some <$> p)

def mb : ℕ := 1024 * 1024

structure GpuProvider where
  vendor : String
  isAvailable : Scan Bool
  detect : Scan (List GpuInfo)

namespace Nvidia

def isAvailable : Scan Bool :=
  catching isException (fun _ => pure false) do
    if ← ask .importPynvml then
      ask .nvmlInit
      ask .nvmlShutdown
      return true
    else return false

def decodeName : DeviceName → Except Exn String
  | .str s => .ok s
  | .bytes b =>
    match String.fromUTF8? b with
    | some s => .ok s
    | none => .error (.exception "'utf-8' codec can't decode the device name")

def readDevice (index : ℕ) : Scan GpuInfo := do
  let handle ← ask (.deviceGetHandleByIndex index)
  let name ← Program.lift (decodeName (← ask (.deviceGetName handle)))
  let mem ← ask (.deviceGetMemoryInfo handle)
  let computeCap ← optional (ask (.deviceGetCudaComputeCapability handle))
  let utilPct ← optional (ask (.deviceGetUtilizationRates handle))
  let tempC ← optional (ask (.deviceGetTemperature handle))
  return {
    index := index
    name := name
    totalVramMb := mem.total / mb
    freeVramMb := mem.free / mb
    usedVramMb := mem.used / mb
    computeCapability := computeCap.map fun cap => toString cap.1 ++ "." ++ toString cap.2
    utilizationPct := utilPct
    temperatureC := tempC }

/-- The body of the `try`: every device of the driver, or an exception. -/
def readDevices : Scan (List GpuInfo) := do
  ask .nvmlInit
  let deviceCount ← ask .deviceGetCount
  let gpus ← mapList readDevice (List.range deviceCount)
  ask .nvmlShutdown
  return gpus

def detect : Scan (List GpuInfo) := do
  if ← ask .importPynvml then catching isException (fun _ => pure []) readDevices
  else return []

def provider : GpuProvider := ⟨"nvidia", isAvailable, detect⟩

end Nvidia

def defaultGpuProviders : List GpuProvider := [Nvidia.provider]

/-- One turn of the scan's loop: what the provider adds. -/
def providerGpus (provider : GpuProvider) : Scan (List GpuInfo) :=
  catching isException (fun _ => pure []) do
    if ← provider.isAvailable then provider.detect else return []

/-- `count or 1`. -/
def orOne : Option ℕ → ℕ
  | none | some 0 => 1
  | some n => n

def cpuCounts : Scan (ℕ × ℕ) := do
  let physical ← ask (.cpuCount false)
  let logical ← ask (.cpuCount true)
  return (orOne physical, orOne logical)

def ramMb : Scan (ℕ × ℕ) := do
  let vmem ← ask .virtualMemory
  return (vmem.1 / mb, vmem.2 / mb)

/-- What follows the first colon, without surrounding whitespace. -/
def afterColon (line : List Char) : Except Exn String :=
  match line.dropWhile fun c => c != ':' with
  | _ :: rest => .ok (String.ofList (strip rest))
  | [] => .error (.exception "list index out of range")

/-- The first line of the file that names a model; lines are read only up to it. -/
def modelLine : Generator Exn String → Except Exn (Option String)
  | .done => .ok none
  | .raise e => .error e
  | .yield line rest =>
    if "model name".toList.isPrefixOf (lower line).toList then some <$> afterColon line.toList
    else modelLine rest

def processorOrNone : Scan (Option String) := do
  let processor ← ask .platformProcessor
  return if processor = "" then none else some processor

def cpuModelName : Scan (Option String) :=
  catching isException (fun _ => pure none) do
    if (← ask .platformSystem) = "Linux" then
      match ← Program.lift (modelLine (← ask .openCpuinfo)) with
      | some model => return some model
      | none => processorOrNone
    else processorOrNone

def scanHardware (providers : List GpuProvider) : Scan HardwareProfile := do
  let gpus ← mapList providerGpus providers
  let cores ← cpuCounts
  let ram ← ramMb
  let cpuModel ← cpuModelName
  return {
    gpus := gpus.flatten
    cpuCoresPhysical := cores.1
    cpuCoresLogical := cores.2
    cpuModel := cpuModel
    totalRamMb := ram.1
    availableRamMb := ram.2 }

/-- A host without the NVIDIA bindings. -/
def cpuOnlyHost : Handler host Exn Unit where
  handle c _ :=
    match c with
    | .importPynvml => (.ok false, ())
    | .cpuCount _ => (.ok (some 8), ())
    | .virtualMemory => (.ok (17179869184, 8589934592), ())
    | .platformSystem => (.ok "Linux", ())
    | .openCpuinfo => (.ok (.yield "model name\t: AMD Ryzen 7\n" .done), ())
    | _ => (.error (.exception "not supported"), ())

def cpuOnlyProfile : HardwareProfile where
  cpuCoresPhysical := 8
  cpuCoresLogical := 8
  cpuModel := some "AMD Ryzen 7"
  totalRamMb := 16384
  availableRamMb := 8192

example : (exec cpuOnlyHost (scanHardware defaultGpuProviders) ()).result = .ok cpuOnlyProfile := by
  decide +kernel

end LlmMax.Profiler
