import LlmMax.Failover
import LlmMax.SqlStorage

/-! The MySQL store. A save commits its row before it reads it back, texts are equal when
their collations are, and values that do not fit their columns are refused. -/
namespace LlmMax.MySqlStore
open Domain BenchMetrics Storage EffectProgram Failover SqlTable SqlStorage

def refuse {α : Type} (message : String) : Except Failure α := .error (Failure.ofMessage message)

/-- A text column of at most so many characters. -/
def varchar (size : ℕ) (text : String) : Except Failure String :=
  if text.length ≤ size then .ok text else refuse "Data too long for column"

/-- A column of type `TEXT`, whose size is counted in bytes. -/
def longText (text : String) : Except Failure String :=
  if text.utf8ByteSize < 2 ^ 16 then .ok text else refuse "Data too long for column"

def int (n : ℤ) : Except Failure ℤ :=
  if -2 ^ 31 ≤ n ∧ n < 2 ^ 31 then .ok n else refuse "Out of range value for column"

/-- To the nearest integer, halves away from zero. -/
def roundAway (q : ℚ) : ℤ := if 0 ≤ q then ⌊q + 1 / 2⌋ else -⌊-q + 1 / 2⌋

/-- A column of type `DECIMAL(10, scale)`. -/
def decimal (scale : ℕ) (q : ℚ) : Except Failure ℚ :=
  let digits := roundAway (q * 10 ^ scale)
  if |digits| < 10 ^ 10 then .ok (digits / 10 ^ scale) else refuse "Out of range value for column"

def bindRun (record : RunRecord) : Except Failure RunColumns := do
  let modelId ← varchar 255 record.modelId
  let runtime ← varchar 64 record.runtime
  let prompt ← longText record.prompt
  let tokensGenerated ← int record.tokensGenerated
  let totalDurationS ← decimal 3 record.totalDurationS
  let tokensPerSec ← record.tokensPerSec.mapM (decimal 2)
  return ⟨modelId, runtime, prompt, tokensGenerated, totalDurationS, tokensPerSec⟩

def bindConfig (config : TunedConfig) : Except Failure ConfigColumns := do
  let modelId ← varchar 255 config.modelId
  let runtime ← varchar 64 config.runtime
  return ⟨modelId, runtime, config.config, config.isLocked⟩

def bindEvent (event : AutopilotEvent) : Except Failure EventColumns := do
  let modelId ← varchar 255 event.modelId
  let eventType ← varchar 32 event.eventType
  return ⟨modelId, eventType, event.details⟩

section save
variable {α ρ : Type} (faults : Faults) (time : String)

/-- The steps before the commit; closing the connection rolls them back. -/
def insertRow (bind : Except Failure α) : Except Failure α := do
  faults.take .connect
  let columns ← bind
  faults.take .insert
  return columns

/-- The steps after the commit. -/
def readBack (decode : Row String α → ρ) (id : ℕ) (t : Table String α) : Except Failure ρ := do
  faults.take .select
  let row := t.byId id
  faults.take .fetch
  faults.take .decode
  decodeRow "'NoneType' object is not iterable" decode row

/-- A save whose commit raises has not committed, but its key is used up. -/
def saveRow (bind : Except Failure α) (decode : Row String α → ρ) (t : Table String α) :
    Except Failure ρ × Table String α :=
  match insertRow faults bind with
  | .error e => (.error e, t)
  | .ok columns =>
    match faults.take .commit with
    | .error e => (.error e, t.skipId)
    | .ok () =>
      let t' := t.insert time columns
      (readBack faults decode t.nextId t', t')

end save

def saveRun (faults : Faults) (time : String) (record : RunRecord) (db : Database) :
    Except Failure RunRecord × Database :=
  let out := saveRow faults time (bindRun record) rowToRunRecord db.runRecords
  (out.1, { db with runRecords := out.2 })

def saveTunedConfig (faults : Faults) (time : String) (config : TunedConfig) (db : Database) :
    Except Failure TunedConfig × Database :=
  let out := saveRow faults time (bindConfig config) rowToTunedConfig db.tunedConfigs
  (out.1, { db with tunedConfigs := out.2 })

def saveAutopilotEvent (faults : Faults) (time : String) (event : AutopilotEvent) (db : Database) :
    Except Failure AutopilotEvent × Database :=
  let out := saveRow faults time (bindEvent event) rowToAutopilotEvent db.autopilotEvents
  (out.1, { db with autopilotEvents := out.2 })

section queries
variable (collate : String → String)

/-- The rows of one model if a model is named; the empty text names none. -/
def matching {α : Type} (modelOf : α → String) (modelId : Option String) (t : Table String α) :
    List (Row String α) :=
  match modelId with
  | none => t.rows
  | some m =>
    if m = "" then t.rows else t.rows.filter fun row => collate (modelOf row.columns) = collate m

/-- `LIMIT %s` is an error for a negative number and for one beyond 64 bits. -/
def listNewest {α : Type} (modelOf : α → String) (modelId : Option String) (limit : ℤ)
    (t : Table String α) : Except Failure (List (Row String α)) :=
  if 0 ≤ limit ∧ limit < 2 ^ 64 then
    .ok ((newestFirst (matching collate modelOf modelId t)).take limit.toNat)
  else refuse "You have an error in your SQL syntax"

def listRuns (modelId : Option String) (limit : ℤ) (db : Database) :
    Except Failure (List RunRecord) :=
  (listNewest collate RunColumns.modelId modelId limit db.runRecords).map (List.map rowToRunRecord)

def listAutopilotEvents (modelId : Option String) (limit : ℤ) (db : Database) :
    Except Failure (List AutopilotEvent) :=
  (listNewest collate EventColumns.modelId modelId limit db.autopilotEvents).map
    (List.map rowToAutopilotEvent)

def getTunedConfig (modelId : String) (db : Database) : Option TunedConfig :=
  SqlStorage.getTunedConfig collate modelId db

def lockConfig (modelId : String) (db : Database) : Database :=
  SqlStorage.lockConfig collate modelId db

/-- One operation at a time of the clock. -/
def serve (faults : Faults) (time : String) :
    (op : StorageCall) → Database → Except Failure op.Reply × Database
  | .saveRun record, db => saveRun faults time record db
  | .listRuns modelId limit, db => (listRuns collate modelId limit db, db)
  | .saveTunedConfig config, db => saveTunedConfig faults time config db
  | .getTunedConfig modelId, db => (.ok (getTunedConfig collate modelId db), db)
  | .lockConfig modelId, db => (.ok (), lockConfig collate modelId db)
  | .saveAutopilotEvent event, db => saveAutopilotEvent faults time event db
  | .listAutopilotEvents modelId limit, db => (listAutopilotEvents collate modelId limit db, db)

/-- The store as a backend. It is not atomic: see the order of the steps of a save. -/
def handler (faults : Faults) : Handler storage Failure Database where
  handle c db := serve collate faults c.time c.op db

end queries

/-- The number has so many digits after the point. -/
def HasDecimals (scale : ℕ) (q : ℚ) : Prop := ∃ n : ℤ, q = n / 10 ^ scale

lemma roundAway_intCast (n : ℤ) : roundAway n = n := by
  unfold roundAway
  split_ifs with hn
  · rw [Int.floor_eq_iff]
    constructor <;> linarith
  · rw [neg_eq_iff_eq_neg, Int.floor_eq_iff]
    push_cast
    constructor <;> linarith

/-- A number keeps its value in a column exactly if the column has enough digits for it. -/
lemma decimal_eq_iff {scale : ℕ} {q stored : ℚ} (h : decimal scale q = .ok stored) :
    stored = q ↔ HasDecimals scale q := by
  have hstored : stored = roundAway (q * 10 ^ scale) / 10 ^ scale := by
    unfold decimal at h
    dsimp only at h
    split_ifs at h
    · cases h
      rfl
    · cases h
  rw [hstored]
  constructor
  · intro heq
    exact ⟨_, heq.symm⟩
  · intro hdecimals
    obtain ⟨n, rfl⟩ := hdecimals
    rw [div_mul_cancel₀ _ (by positivity), roundAway_intCast]

lemma varchar_ok {size : ℕ} {text stored : String} (h : varchar size text = .ok stored) :
    stored = text := by
  unfold varchar at h
  split_ifs at h
  · cases h
    rfl
  · cases h

lemma longText_ok {text stored : String} (h : longText text = .ok stored) : stored = text := by
  unfold longText at h
  split_ifs at h
  · cases h
    rfl
  · cases h

lemma int_ok {n stored : ℤ} (h : int n = .ok stored) :
    stored = n ∧ -2 ^ 31 ≤ n ∧ n < 2 ^ 31 := by
  unfold int at h
  split_ifs at h with hfits
  · cases h
    exact ⟨rfl, hfits⟩
  · cases h

lemma exists_ok {α : Type} {x : Except Failure α} (h : x.isOk) : ∃ a, x = .ok a := by
  cases x with
  | ok a => exact ⟨a, rfl⟩
  | error e => cases h

/-- A rate is stored as it is exactly if it has two digits after the point at most. -/
lemma rate_eq_iff {rate stored : Option ℚ} (h : rate.mapM (decimal 2) = .ok stored) :
    stored = rate ↔ ∀ q, rate = some q → HasDecimals 2 q := by
  cases rate with
  | none =>
    cases h
    simp
  | some q =>
    obtain ⟨q', hq', hstored⟩ := bind_eq_ok h
    cases hstored
    simp [← decimal_eq_iff hq']

/-- A run is stored as it is exactly if its durations and rates have few enough digits. -/
lemma bindRun_ok {record : RunRecord} {columns : RunColumns} (h : bindRun record = .ok columns) :
    columns.modelId = record.modelId ∧
      (-2 ^ 31 ≤ record.tokensGenerated ∧ record.tokensGenerated < 2 ^ 31) ∧
      (columns = runColumns record ↔ HasDecimals 3 record.totalDurationS ∧
        ∀ rate, record.tokensPerSec = some rate → HasDecimals 2 rate) := by
  unfold bindRun at h
  obtain ⟨modelId, hmodel, h⟩ := bind_eq_ok h
  obtain ⟨runtime, hruntime, h⟩ := bind_eq_ok h
  obtain ⟨prompt, hprompt, h⟩ := bind_eq_ok h
  obtain ⟨tokens, htokens, h⟩ := bind_eq_ok h
  obtain ⟨duration, hduration, h⟩ := bind_eq_ok h
  obtain ⟨rate, hrate, h⟩ := bind_eq_ok h
  cases h
  obtain ⟨rfl, hfits⟩ := int_ok htokens
  refine ⟨varchar_ok hmodel, hfits, ?_⟩
  rw [← decimal_eq_iff hduration, ← rate_eq_iff hrate, varchar_ok hmodel, varchar_ok hruntime,
    longText_ok hprompt]
  simp [runColumns]

lemma bindConfig_ok {config : TunedConfig} {columns : ConfigColumns}
    (h : bindConfig config = .ok columns) : columns = tunedColumns config := by
  obtain ⟨modelId, hmodel, h⟩ := bind_eq_ok h
  obtain ⟨runtime, hruntime, h⟩ := bind_eq_ok h
  cases h
  rw [varchar_ok hmodel, varchar_ok hruntime]
  rfl

lemma bindEvent_ok {event : AutopilotEvent} {columns : EventColumns}
    (h : bindEvent event = .ok columns) : columns = eventColumns event := by
  obtain ⟨modelId, hmodel, h⟩ := bind_eq_ok h
  obtain ⟨eventType, htype, h⟩ := bind_eq_ok h
  cases h
  rw [varchar_ok hmodel, varchar_ok htype]
  rfl

section refusals
variable {α β : Type} {x : Except Failure α}

/-- What is raised, if anything, is an exception with a message. -/
def Refuses (x : Except Failure α) : Prop :=
  ∀ e, x = .error e → ∃ message, e = Failure.ofMessage message

lemma refuses_ok (a : α) : Refuses (.ok a) := fun e h => by cases h

lemma refuses_refuse (message : String) : Refuses (refuse message : Except Failure α) := by
  intro e h
  cases h
  exact ⟨message, rfl⟩

lemma Refuses.bind {f : α → Except Failure β} (hx : Refuses x) (hf : ∀ a, Refuses (f a)) :
    Refuses (x >>= f) := by
  cases x with
  | ok a => exact hf a
  | error e => exact fun e' h => hx e' (by cases h; rfl)

lemma refuses_ite {p : Prop} [Decidable p] (a : α) (message : String) :
    Refuses (if p then .ok a else refuse message) := by
  split_ifs
  · exact refuses_ok a
  · exact refuses_refuse message

lemma refuses_varchar (size : ℕ) (text : String) : Refuses (varchar size text) := refuses_ite _ _

lemma refuses_decimal (scale : ℕ) (q : ℚ) : Refuses (decimal scale q) := refuses_ite _ _

lemma bindRun_refuses (record : RunRecord) : Refuses (bindRun record) := by
  have hrate : Refuses (record.tokensPerSec.mapM (decimal 2)) := by
    cases record.tokensPerSec with
    | none => exact refuses_ok none
    | some q => exact (refuses_decimal 2 q).bind fun stored => refuses_ok (some stored)
  refine (refuses_varchar 255 record.modelId).bind fun modelId => ?_
  refine (refuses_varchar 64 record.runtime).bind fun runtime => ?_
  refine Refuses.bind (refuses_ite _ _) fun prompt => ?_
  refine Refuses.bind (refuses_ite _ _) fun tokensGenerated => ?_
  refine (refuses_decimal 3 record.totalDurationS).bind fun totalDurationS => ?_
  exact hrate.bind fun tokensPerSec => refuses_ok _

lemma bindConfig_refuses (config : TunedConfig) : Refuses (bindConfig config) := by
  refine (refuses_varchar 255 config.modelId).bind fun modelId => ?_
  exact (refuses_varchar 64 config.runtime).bind fun runtime => refuses_ok _

lemma bindEvent_refuses (event : AutopilotEvent) : Refuses (bindEvent event) := by
  refine (refuses_varchar 255 event.modelId).bind fun modelId => ?_
  exact (refuses_varchar 32 event.eventType).bind fun eventType => refuses_ok _

end refusals

/-- A save in which nothing goes wrong returns the row it inserts. -/
lemma saveRow_ok {α ρ : Type} (time : String) {bind : Except Failure α} {columns : α}
    (h : bind = .ok columns) (decode : Row String α → ρ) (t : Table String α) :
    saveRow noFaults time bind decode t =
      (.ok (decode ⟨t.nextId, time, columns⟩), t.insert time columns) := by
  subst h
  simp [saveRow, insertRow, readBack, noFaults, Faults.take, Table.byId_insert, decodeRow, Bind.bind,
    Except.bind, pure, Except.pure]

lemma saveRun_ok {record : RunRecord} {columns : RunColumns} (h : bindRun record = .ok columns)
    (time : String) (db : Database) : saveRun noFaults time record db =
      (.ok (rowToRunRecord ⟨db.runRecords.nextId, time, columns⟩),
        { db with runRecords := db.runRecords.insert time columns }) := by
  rw [saveRun, saveRow_ok time h]

lemma saveTunedConfig_ok {config : TunedConfig} (h : (bindConfig config).isOk) (time : String)
    (db : Database) : saveTunedConfig noFaults time config db =
      (.ok (rowToTunedConfig ⟨db.tunedConfigs.nextId, time, tunedColumns config⟩),
        { db with tunedConfigs := db.tunedConfigs.insert time (tunedColumns config) }) := by
  obtain ⟨columns, hbind⟩ := exists_ok h
  rw [bindConfig_ok hbind] at hbind
  rw [saveTunedConfig, saveRow_ok time hbind]

lemma saveAutopilotEvent_ok {event : AutopilotEvent} (h : (bindEvent event).isOk) (time : String)
    (db : Database) : saveAutopilotEvent noFaults time event db =
      (.ok (rowToAutopilotEvent ⟨db.autopilotEvents.nextId, time, eventColumns event⟩),
        { db with autopilotEvents := db.autopilotEvents.insert time (eventColumns event) }) := by
  obtain ⟨columns, hbind⟩ := exists_ok h
  rw [bindEvent_ok hbind] at hbind
  rw [saveAutopilotEvent, saveRow_ok time hbind]

/-- A value that does not fit its columns leaves the table as it was. -/
lemma saveRow_refused {α ρ : Type} (time : String) (e : Failure) (decode : Row String α → ρ)
    (t : Table String α) : saveRow noFaults time (.error e) decode t = (.error e, t) := rfl

/-- As long as no step of a save raises, every operation of the store is all or nothing. -/
def store (collate : String → String) : AtomicStore storage Failure Database where
  toHandler := handler collate noFaults
  unchanged c db e h := by
    have hrow {α ρ : Type} (bind : Except Failure α) (decode : Row String α → ρ)
        (t : Table String α) (hraised : (saveRow noFaults c.time bind decode t).1 = .error e) :
        (saveRow noFaults c.time bind decode t).2 = t := by
      cases hbind : bind with
      | error e' => rw [saveRow_refused]
      | ok columns =>
        rw [hbind, saveRow_ok c.time rfl] at hraised
        cases hraised
    obtain ⟨time, op⟩ := c
    cases op with
    | saveRun record => exact congrArg (fun t => { db with runRecords := t }) (hrow _ _ _ h)
    | saveTunedConfig config =>
      exact congrArg (fun t => { db with tunedConfigs := t }) (hrow _ _ _ h)
    | saveAutopilotEvent event =>
      exact congrArg (fun t => { db with autopilotEvents := t }) (hrow _ _ _ h)
    | lockConfig modelId => cases h
    | _ => rfl

end LlmMax.MySqlStore
