import LlmMax.Domain
import LlmMax.EffectProgram

/-! The storage interface and the append-only tables of its in-memory
implementation. The current tuned config of a model is its newest row. -/
namespace LlmMax.Storage
open Domain EffectProgram

/-- The seven operations every storage backend implements. -/
inductive StorageCall
  | saveRun (record : RunRecord)
  | listRuns (modelId : Option String) (limit : ℤ)
  | saveTunedConfig (config : TunedConfig)
  | getTunedConfig (modelId : String)
  | lockConfig (modelId : String)
  | saveAutopilotEvent (event : AutopilotEvent)
  | listAutopilotEvents (modelId : Option String) (limit : ℤ)
  deriving DecidableEq

abbrev StorageCall.Reply : StorageCall → Type
  | .saveRun _ => RunRecord
  | .listRuns _ _ => List RunRecord
  | .saveTunedConfig _ => TunedConfig
  | .getTunedConfig _ => Option TunedConfig
  | .lockConfig _ => Unit
  | .saveAutopilotEvent _ => AutopilotEvent
  | .listAutopilotEvents _ _ => List AutopilotEvent

/-- An operation, with the time on the clock of the database that serves it. -/
structure TimedCall where
  time : String
  op : StorageCall
  deriving DecidableEq

abbrev storage : Interface := ⟨TimedCall, fun c => c.op.Reply⟩

structure InMemoryStorage where
  savedRuns : List RunRecord := []
  tunedConfigs : List TunedConfig := []
  autopilotEvents : List AutopilotEvent := []
  deriving DecidableEq

/-- The slice `xs[:limit]`; a negative limit counts from the end. -/
def upTo {α : Type} (limit : ℤ) (xs : List α) : List α :=
  if 0 ≤ limit then xs.take limit.toNat else xs.take (xs.length - limit.natAbs)

/-- The current tuned config of a model among rows in insertion order. -/
def current (modelId : String) (rows : List TunedConfig) : Option TunedConfig :=
  (rows.filter fun c => c.modelId = modelId).getLast?

/-- Lock the first row of the model, the rows being newest first. -/
def lockNewest (modelId : String) : List TunedConfig → List TunedConfig
  | [] => []
  | c :: rows =>
    if c.modelId = modelId then { c with isLocked := true } :: rows
    else c :: lockNewest modelId rows

namespace InMemoryStorage

def saveRun (record : RunRecord) (store : InMemoryStorage) : RunRecord × InMemoryStorage :=
  let saved := { record with id := some (store.savedRuns.length + 1) }
  (saved, { store with savedRuns := store.savedRuns ++ [saved] })

def listRuns (modelId : Option String) (limit : ℤ) (store : InMemoryStorage) : List RunRecord :=
  upTo limit (store.savedRuns.filter fun r => modelId = none ∨ modelId = some r.modelId).reverse

def saveTunedConfig (config : TunedConfig) (store : InMemoryStorage) :
    TunedConfig × InMemoryStorage :=
  let saved := { config with id := some (store.tunedConfigs.length + 1) }
  (saved, { store with tunedConfigs := store.tunedConfigs ++ [saved] })

def getTunedConfig (modelId : String) (store : InMemoryStorage) : Option TunedConfig :=
  current modelId store.tunedConfigs

def lockConfig (modelId : String) (store : InMemoryStorage) : InMemoryStorage :=
  { store with tunedConfigs := (lockNewest modelId store.tunedConfigs.reverse).reverse }

def saveAutopilotEvent (event : AutopilotEvent) (store : InMemoryStorage) :
    AutopilotEvent × InMemoryStorage :=
  let saved := { event with id := some (store.autopilotEvents.length + 1) }
  (saved, { store with autopilotEvents := store.autopilotEvents ++ [saved] })

def listAutopilotEvents (modelId : Option String) (limit : ℤ) (store : InMemoryStorage) :
    List AutopilotEvent :=
  upTo limit
    (store.autopilotEvents.filter fun e => modelId = none ∨ modelId = some e.modelId).reverse

/-- One storage operation; the in-memory store never raises. -/
def serve : (c : StorageCall) → InMemoryStorage → c.Reply × InMemoryStorage
  | .saveRun record, store => store.saveRun record
  | .listRuns modelId limit, store => (store.listRuns modelId limit, store)
  | .saveTunedConfig config, store => store.saveTunedConfig config
  | .getTunedConfig modelId, store => (store.getTunedConfig modelId, store)
  | .lockConfig modelId, store => ((), store.lockConfig modelId)
  | .saveAutopilotEvent event, store => store.saveAutopilotEvent event
  | .listAutopilotEvents modelId limit, store => (store.listAutopilotEvents modelId limit, store)

/-- The rows of one model, oldest first. -/
def rowsOf (store : InMemoryStorage) (modelId : String) : List TunedConfig :=
  store.tunedConfigs.filter fun c => c.modelId = modelId

/-- The current tuned config of the model exists and is locked. -/
def Locked (store : InMemoryStorage) (modelId : String) : Prop :=
  ∃ c, store.getTunedConfig modelId = some c ∧ c.isLocked = true

instance (store : InMemoryStorage) (modelId : String) : Decidable (store.Locked modelId) :=
  match h : store.getTunedConfig modelId with
  | none => isFalse fun ⟨_, hc, _⟩ => by simp [h] at hc
  | some c =>
    if hl : c.isLocked then isTrue ⟨c, h, hl⟩
    else isFalse fun ⟨d, hd, hl'⟩ => by
      rw [h, Option.some.injEq] at hd
      exact hl (hd ▸ hl')

end InMemoryStorage

lemma current_append (modelId : String) (rows : List TunedConfig) (c : TunedConfig) :
    current modelId (rows ++ [c]) = if c.modelId = modelId then some c else current modelId rows := by
  unfold current
  split_ifs with h <;> simp [List.filter_append, h]

lemma current_eq_find (modelId : String) (rows : List TunedConfig) :
    current modelId rows = rows.reverse.find? fun c => c.modelId = modelId := by
  simp [current, List.getLast?_eq_head?_reverse, ← List.filter_reverse]

lemma find_lockNewest (m modelId : String) (rows : List TunedConfig) :
    (lockNewest modelId rows).find? (fun c => c.modelId = m) =
      if m = modelId then (rows.find? fun c => c.modelId = m).map fun c => { c with isLocked := true }
      else rows.find? fun c => c.modelId = m := by
  induction rows with
  | nil => simp [lockNewest]
  | cons c rows ih =>
    by_cases hc : c.modelId = modelId
    · by_cases hm : m = modelId
      · simp [lockNewest, hc, hm]
      · simp [lockNewest, hc, hm, Ne.symm hm]
    · by_cases hm : c.modelId = m
      · have hne : m ≠ modelId := fun h => hc (hm.trans h)
        simp [lockNewest, hm, hne]
      · simp [lockNewest, hc, hm, ih]

lemma filter_lockNewest_of_ne {m modelId : String} (h : m ≠ modelId) (rows : List TunedConfig) :
    (lockNewest modelId rows).filter (fun c => c.modelId = m) =
      rows.filter fun c => c.modelId = m := by
  induction rows with
  | nil => rfl
  | cons c rows ih =>
    by_cases hc : c.modelId = modelId
    · simp [lockNewest, hc, Ne.symm h]
    · simp [lockNewest, hc, List.filter_cons, ih]

/-- Locking a row that is locked already changes nothing. -/
lemma lockNewest_of_locked {modelId : String} {rows : List TunedConfig} {c : TunedConfig}
    (h : rows.find? (fun c => c.modelId = modelId) = some c) (hc : c.isLocked = true) :
    lockNewest modelId rows = rows := by
  induction rows with
  | nil => rfl
  | cons d rows ih =>
    by_cases hd : d.modelId = modelId
    · obtain rfl : d = c := by simpa [hd] using h
      have hsame : { d with isLocked := true } = d := by cases d; simp_all
      rw [lockNewest, if_pos hd, hsame]
    · simp only [lockNewest, hd, ↓reduceIte, List.cons.injEq, true_and]
      exact ih (by simpa [hd] using h)

lemma lockNewest_of_none {modelId : String} {rows : List TunedConfig}
    (h : ∀ c ∈ rows, c.modelId ≠ modelId) : lockNewest modelId rows = rows := by
  induction rows with
  | nil => rfl
  | cons c rows ih =>
    obtain ⟨hc, hrows⟩ := List.forall_mem_cons.mp h
    rw [lockNewest, if_neg hc, ih hrows]

/-- The row that is locked is the last one of the model. -/
lemma lockNewest_split {modelId : String} {front back : List TunedConfig} {c : TunedConfig}
    (hc : c.modelId = modelId) (hback : ∀ d ∈ back, d.modelId ≠ modelId) :
    (lockNewest modelId (front ++ c :: back).reverse).reverse =
      front ++ { c with isLocked := true } :: back := by
  induction back using List.reverseRecOn with
  | nil => simp [lockNewest, hc]
  | append_singleton back d ih =>
    have hd : d.modelId ≠ modelId := hback d (by simp)
    have hrest : ∀ d ∈ back, d.modelId ≠ modelId := fun e he => hback e (by simp [he])
    have hlast : (front ++ c :: (back ++ [d])).reverse = d :: (front ++ c :: back).reverse := by
      simp
    rw [hlast, lockNewest, if_neg hd, List.reverse_cons, ih hrest]
    simp

namespace InMemoryStorage
variable (store : InMemoryStorage) (m modelId : String)

lemma getTunedConfig_eq_getLast : store.getTunedConfig m = (store.rowsOf m).getLast? := rfl

lemma getTunedConfig_save (config : TunedConfig) :
    (store.saveTunedConfig config).2.getTunedConfig m =
      if config.modelId = m then some (store.saveTunedConfig config).1
      else store.getTunedConfig m :=
  current_append m store.tunedConfigs _

lemma getTunedConfig_lock : (store.lockConfig modelId).getTunedConfig m =
    if m = modelId then (store.getTunedConfig m).map fun c => { c with isLocked := true }
    else store.getTunedConfig m := by
  simp only [getTunedConfig, lockConfig, current_eq_find, List.reverse_reverse]
  exact find_lockNewest m modelId _

lemma rowsOf_save (config : TunedConfig) :
    (store.saveTunedConfig config).2.rowsOf m =
      if config.modelId = m then store.rowsOf m ++ [(store.saveTunedConfig config).1]
      else store.rowsOf m := by
  simp only [rowsOf, saveTunedConfig, List.filter_append]
  split_ifs with h <;> simp [h]

lemma rowsOf_lock_of_ne (h : m ≠ modelId) : (store.lockConfig modelId).rowsOf m = store.rowsOf m := by
  simp [rowsOf, lockConfig, filter_lockNewest_of_ne h]

lemma lockConfig_of_locked (h : store.Locked modelId) : store.lockConfig modelId = store := by
  obtain ⟨c, hc, hl⟩ := h
  rw [getTunedConfig, current_eq_find] at hc
  rw [lockConfig, lockNewest_of_locked hc hl, List.reverse_reverse]

lemma locked_lock_iff : (store.lockConfig modelId).Locked modelId ↔
    (store.getTunedConfig modelId).isSome := by
  rw [Locked, getTunedConfig_lock, if_pos rfl]
  cases store.getTunedConfig modelId <;> simp

lemma rowsOf_eq_nil_iff : store.rowsOf m = [] ↔ store.getTunedConfig m = none := by
  rw [getTunedConfig_eq_getLast, List.getLast?_eq_none_iff]

variable {store m} in
lemma lockConfig_of_none (h : store.getTunedConfig m = none) : store.lockConfig m = store := by
  have hrows : ∀ c ∈ store.tunedConfigs.reverse, c.modelId ≠ m := by
    intro c hc hmodel
    rw [← rowsOf_eq_nil_iff, rowsOf, List.filter_eq_nil_iff] at h
    exact h c (List.mem_reverse.mp hc) (decide_eq_true hmodel)
  rw [lockConfig, lockNewest_of_none hrows, List.reverse_reverse]

lemma locked_of_rowsOf_eq {s t : InMemoryStorage} {m : String} (h : t.rowsOf m = s.rowsOf m) :
    t.Locked m ↔ s.Locked m := by
  simp only [Locked, getTunedConfig_eq_getLast, h]

end InMemoryStorage

/-- What a save puts down. -/
def savedAs (c : TunedConfig) : String × String × Config := (c.modelId, c.runtime, c.config)

/-- The configs of a model saved in a sequence of calls, oldest first. -/
def savesOf (modelId : String) (calls : List TimedCall) : List TunedConfig :=
  calls.filterMap fun c => match c.op with
    | .saveTunedConfig config => if config.modelId = modelId then some config else none
    | _ => none

lemma serve_current (modelId : String) (op : StorageCall) (memory : InMemoryStorage) (time : String) :
    ((InMemoryStorage.serve op memory).2.getTunedConfig modelId).map savedAs =
      (((savesOf modelId [⟨time, op⟩]).getLast?).map savedAs).or
        ((memory.getTunedConfig modelId).map savedAs) := by
  cases op with
  | saveTunedConfig config =>
    simp only [InMemoryStorage.serve, InMemoryStorage.getTunedConfig_save, savesOf,
      List.filterMap_cons, List.filterMap_nil]
    split_ifs with hm
    · rfl
    · rfl
  | lockConfig m =>
    simp only [InMemoryStorage.serve, InMemoryStorage.getTunedConfig_lock, savesOf,
      List.filterMap_cons, List.filterMap_nil, List.getLast?_nil, Option.map_none, Option.none_or]
    split_ifs with hm
    · rw [Option.map_map]
      rfl
    · rfl
  | _ => rfl

/-- The in-memory store after a sequence of calls. -/
def held (calls : List TimedCall) (store : InMemoryStorage) : InMemoryStorage :=
  calls.foldl (fun store c => (InMemoryStorage.serve c.op store).2) store

/-- The current config of a model is the last one that was saved for it. -/
lemma held_current (modelId : String) (calls : List TimedCall) (store : InMemoryStorage) :
    ((held calls store).getTunedConfig modelId).map savedAs =
      (((savesOf modelId calls).getLast?).map savedAs).or
        ((store.getTunedConfig modelId).map savedAs) := by
  induction calls generalizing store with
  | nil => rfl
  | cons c calls ih =>
    have hsaves : savesOf modelId (c :: calls) = savesOf modelId [c] ++ savesOf modelId calls :=
      List.filterMap_append (l := [c])
    rw [held, List.foldl_cons, ← held, ih, serve_current modelId c.op store c.time, hsaves,
      List.getLast?_append, Option.map_or, Option.or_assoc]

end LlmMax.Storage
