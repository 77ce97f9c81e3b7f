import Mathlib.Data.Finmap
import Mathlib.Data.Rat.Defs
import Mathlib.Tactic

/-! The shared data model: runtime configs, hardware and model descriptions, and
the records the storage keeps. Floating-point quantities are exact rationals. -/
namespace LlmMax.Domain

/-- A JSON value inside a runtime config. Only numbers have arithmetic; any other
value is kept by its canonical text. -/
inductive Value
  | number (q : ℚ)
  | other (json : String)
  deriving DecidableEq

/-- A runtime config such as num_ctx ↦ 4096, num_batch ↦ 512. Equality is that of
dictionaries: the order of insertion does not matter. -/
abbrev Config := Finmap (fun _ : String => Value)

namespace Config

/-- The dictionary whose only key is num_ctx. -/
def ofCtx (ctx : ℚ) : Config := Finmap.singleton "num_ctx" (.number ctx)

@[simp] lemma lookup_ofCtx (ctx : ℚ) : (ofCtx ctx).lookup "num_ctx" = some (.number ctx) :=
  Finmap.lookup_singleton_eq

lemma ofCtx_injective : Function.Injective ofCtx := by
  intro a b h
  simpa using congrArg (Finmap.lookup "num_ctx") h

lemma ofCtx_ne_empty (ctx : ℚ) : ofCtx ctx ≠ ∅ := by
  intro h
  simpa using congrArg (Finmap.lookup "num_ctx") h

/-- `config or None`: the empty dictionary is falsy. -/
def orNone (config : Config) : Option Config := if config = ∅ then none else some config

@[simp] lemma orNone_getD (config : Config) : config.orNone.getD ∅ = config := by
  unfold orNone
  split_ifs with h
  · exact h.symm
  · rfl

lemma orNone_injective : Function.Injective orNone := by
  intro a b h
  rw [← orNone_getD a, ← orNone_getD b, h]

end Config

structure GpuInfo where
  name : String
  freeVramMb : ℤ
  deriving DecidableEq

structure HardwareProfile where
  gpus : List GpuInfo
  availableRamMb : ℤ
  deriving DecidableEq

/-- One entry of the curated catalog. -/
structure ModelSpec where
  id : String
  paramSizeB : ℚ
  minVramMb : ℤ
  recommendedVramMb : ℤ
  minRamMb : ℤ
  deriving DecidableEq

structure RunRecord where
  id : Option ℕ := none
  modelId : String
  runtime : String := "ollama"
  prompt : String
  tokensGenerated : ℤ
  totalDurationS : ℚ
  tokensPerSec : Option ℚ := none
  createdAt : Option String := none
  deriving DecidableEq

/-- A saved runtime config of a model on this host. -/
structure TunedConfig where
  id : Option ℕ := none
  modelId : String
  runtime : String := "ollama"
  config : Config
  isLocked : Bool := false
  createdAt : Option String := none
  deriving DecidableEq

/-- A piece of an f-string: literal text, or a value still to be formatted. -/
inductive Fragment
  | text (s : String)
  | config (c : Config)
  | fixed1 (q : ℚ)
  | number (n : Option ℤ)
  deriving DecidableEq

abbrev Message := List Fragment

inductive Detail
  | config (c : Config)
  | message (m : Message)
  deriving DecidableEq

/-- An audit-trail entry for an autotune decision. -/
structure AutopilotEvent where
  id : Option ℕ := none
  modelId : String
  eventType : String
  details : List (String × Detail) := []
  createdAt : Option String := none
  deriving DecidableEq

end LlmMax.Domain
