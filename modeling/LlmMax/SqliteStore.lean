import LlmMax.Failover
import LlmMax.SqlStorage

/-! The SQLite store. Every operation is one transaction, which commits after the row has
been read back, and texts are equal when they are the same. -/
namespace LlmMax.SqliteStore
open Domain BenchMetrics Storage EffectProgram Failover SqlTable SqlStorage

/-- Integers are bound as signed 64-bit values. -/
def FitsInteger (n : ℤ) : Prop := -2 ^ 63 ≤ n ∧ n < 2 ^ 63

instance (n : ℤ) : Decidable (FitsInteger n) := inferInstanceAs (Decidable (_ ∧ _))

def bindInteger (n : ℤ) : Except Failure ℤ :=
  if FitsInteger n then .ok n
  else .error (Failure.ofMessage "Python int too large to convert to SQLite INTEGER")

section save
variable {α ρ : Type} (faults : Faults) (time : String)

/-- The body of a save, up to the commit at the end of its `with` block. -/
def transaction (bind : Except Failure α) (decode : Row String α → ρ) (t : Table String α) :
    Except Failure (ρ × Table String α) := do
  faults.take .connect
  let columns ← bind
  faults.take .insert
  let t' := t.insert time columns
  faults.take .select
  let row := t'.byId t.nextId
  faults.take .fetch
  faults.take .decode
  let record ← decodeRow "'NoneType' object is not subscriptable" decode row
  faults.take .commit
  return (record, t')

/-- A transaction that raises is rolled back. -/
def saveRow (bind : Except Failure α) (decode : Row String α → ρ) (t : Table String α) :
    Except Failure ρ × Table String α :=
  match transaction faults time bind decode t with
  | .ok (record, t') => (.ok record, t')
  | .error e => (.error e, t)

end save

def saveRun (faults : Faults) (time : String) (record : RunRecord) (db : Database) :
    Except Failure RunRecord × Database :=
  let bind := do
    let tokensGenerated ← bindInteger record.tokensGenerated
    return { runColumns record with tokensGenerated := tokensGenerated }
  let out := saveRow faults time bind rowToRunRecord db.runRecords
  (out.1, { db with runRecords := out.2 })

def saveTunedConfig (faults : Faults) (time : String) (config : TunedConfig) (db : Database) :
    Except Failure TunedConfig × Database :=
  let out := saveRow faults time (.ok (tunedColumns config)) rowToTunedConfig db.tunedConfigs
  (out.1, { db with tunedConfigs := out.2 })

def saveAutopilotEvent (faults : Faults) (time : String) (event : AutopilotEvent) (db : Database) :
    Except Failure AutopilotEvent × Database :=
  let out := saveRow faults time (.ok (eventColumns event)) rowToAutopilotEvent db.autopilotEvents
  (out.1, { db with autopilotEvents := out.2 })

/-- `LIMIT ?`: a negative limit is none. -/
def limited {α : Type} (limit : ℤ) (rows : List α) : List α :=
  if 0 ≤ limit then rows.take limit.toNat else rows

/-- The rows of one model if a model is named; the empty text names none. -/
def matching {α : Type} (modelOf : α → String) (modelId : Option String) (t : Table String α) :
    List (Row String α) :=
  match modelId with
  | none => t.rows
  | some m => if m = "" then t.rows else t.rows.filter fun row => modelOf row.columns = m

def listNewest {α : Type} (modelOf : α → String) (modelId : Option String) (limit : ℤ)
    (t : Table String α) : List (Row String α) :=
  limited limit (newestFirst (matching modelOf modelId t))

def listRuns (modelId : Option String) (limit : ℤ) (db : Database) :
    Except Failure (List RunRecord) := do
  let limit ← bindInteger limit
  return (listNewest RunColumns.modelId modelId limit db.runRecords).map rowToRunRecord

def listAutopilotEvents (modelId : Option String) (limit : ℤ) (db : Database) :
    Except Failure (List AutopilotEvent) := do
  let limit ← bindInteger limit
  return (listNewest EventColumns.modelId modelId limit db.autopilotEvents).map rowToAutopilotEvent

def getTunedConfig (modelId : String) (db : Database) : Option TunedConfig :=
  SqlStorage.getTunedConfig id modelId db

def lockConfig (modelId : String) (db : Database) : Database := SqlStorage.lockConfig id modelId db

/-- One operation at a time of the clock. -/
def serve (faults : Faults) (time : String) :
    (op : StorageCall) → Database → Except Failure op.Reply × Database
  | .saveRun record, db => saveRun faults time record db
  | .listRuns modelId limit, db => (listRuns modelId limit db, db)
  | .saveTunedConfig config, db => saveTunedConfig faults time config db
  | .getTunedConfig modelId, db => (.ok (getTunedConfig modelId db), db)
  | .lockConfig modelId, db => (.ok (), lockConfig modelId db)
  | .saveAutopilotEvent event, db => saveAutopilotEvent faults time event db
  | .listAutopilotEvents modelId limit, db => (listAutopilotEvents modelId limit db, db)

lemma bindInteger_ok {n : ℤ} (h : FitsInteger n) : bindInteger n = .ok n := if_pos h

/-- A save in which nothing goes wrong returns the row it inserts. -/
lemma saveRow_ok {α ρ : Type} (time : String) (columns : α) (decode : Row String α → ρ)
    (t : Table String α) :
    saveRow noFaults time (.ok columns) decode t =
      (.ok (decode ⟨t.nextId, time, columns⟩), t.insert time columns) := by
  simp [saveRow, transaction, noFaults, Faults.take, Table.byId_insert, decodeRow, bind, Except.bind,
    pure, Except.pure]

lemma saveRun_ok {record : RunRecord} (h : FitsInteger record.tokensGenerated) (time : String)
    (db : Database) : saveRun noFaults time record db =
      (.ok (rowToRunRecord ⟨db.runRecords.nextId, time, runColumns record⟩),
        { db with runRecords := db.runRecords.insert time (runColumns record) }) := by
  have hbind : (do
      let tokensGenerated ← bindInteger record.tokensGenerated
      return { runColumns record with tokensGenerated := tokensGenerated } :
        Except Failure RunColumns) = .ok (runColumns record) := by
    rw [bindInteger_ok h]
    rfl
  rw [saveRun, hbind, saveRow_ok]

lemma saveTunedConfig_ok (config : TunedConfig) (time : String) (db : Database) :
    saveTunedConfig noFaults time config db =
      (.ok (rowToTunedConfig ⟨db.tunedConfigs.nextId, time, tunedColumns config⟩),
        { db with tunedConfigs := db.tunedConfigs.insert time (tunedColumns config) }) := by
  rw [saveTunedConfig, saveRow_ok]

lemma saveAutopilotEvent_ok (event : AutopilotEvent) (time : String) (db : Database) :
    saveAutopilotEvent noFaults time event db =
      (.ok (rowToAutopilotEvent ⟨db.autopilotEvents.nextId, time, eventColumns event⟩),
        { db with autopilotEvents := db.autopilotEvents.insert time (eventColumns event) }) := by
  rw [saveAutopilotEvent, saveRow_ok]

/-- A value that cannot be bound leaves the table as it was. -/
lemma saveRow_refused {α ρ : Type} (time : String) (e : Failure) (decode : Row String α → ρ)
    (t : Table String α) : saveRow noFaults time (.error e) decode t = (.error e, t) := rfl

/-- A save that raises leaves its table as it was. -/
lemma saveRow_error {α ρ : Type} {faults : Faults} {time : String} {bind : Except Failure α}
    {decode : Row String α → ρ} {t : Table String α} {e : Failure}
    (h : (saveRow faults time bind decode t).1 = .error e) :
    (saveRow faults time bind decode t).2 = t := by
  unfold saveRow at h ⊢
  cases hbody : transaction faults time bind decode t with
  | ok out => simp [hbody] at h
  | error e => rfl

/-- Every operation of the store is all or nothing, wherever its saves raise. -/
def store (faults : Faults) : AtomicStore storage Failure Database where
  handle c db := serve faults c.time c.op db
  unchanged c db e h := by
    obtain ⟨time, op⟩ := c
    cases op with
    | saveRun record =>
      exact congrArg (fun t => { db with runRecords := t }) (saveRow_error h)
    | saveTunedConfig config =>
      exact congrArg (fun t => { db with tunedConfigs := t }) (saveRow_error h)
    | saveAutopilotEvent event =>
      exact congrArg (fun t => { db with autopilotEvents := t }) (saveRow_error h)
    | lockConfig modelId => cases h
    | _ => rfl

end LlmMax.SqliteStore
