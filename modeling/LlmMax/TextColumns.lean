import LlmMax.JsonSound
import LlmMax.ServiceRefinement
import LlmMax.SqliteStore

/-! The SQLite store as it is on disk, where a JSON column holds text that every read parses
again. It refines the store whose columns hold the documents themselves. -/
namespace LlmMax.TextColumns
open Domain BenchMetrics Storage JsonText JsonParser JsonRoundTrip JsonSound History
open ServiceRefinement SqlTable SqlStorage

/-- How documents are read: what values are read as, what a text that is no object raises, what
numbers are worth, a string for a text, and one that is the same for equal values. -/
structure Codec where
  reading : Reading
  unreadable : List Char → Failure
  number : Numeral → ℚ
  word : Text → String
  word_text : ∀ s, word (text s) = s
  canonical : Json → String

/-- A dictionary that can be written and read: its keys are distinct, its numbers as they are read,
its strings without pairs in halves, and it nests no deeper than reading goes. -/
structure Dictionary (reading : Reading) where
  fields : List (Text × Json)
  wellFormed : WellFormed reading 0 (.obj fields)

/-- `json.dumps` of the dictionary. -/
def Dictionary.text {reading : Reading} (d : Dictionary reading) : List Char :=
  dumps (.obj d.fields)

structure ConfigText where
  modelId : String
  runtime : String
  configJson : List Char
  isLocked : Bool

structure EventText where
  modelId : String
  eventType : String
  detailsJson : List Char

structure TextDatabase where
  runRecords : Table String RunColumns := .empty
  tunedConfigs : Table String ConfigText := .empty
  autopilotEvents : Table String EventText := .empty

variable (codec : Codec)

/-- A tuned config with the dictionary itself. -/
structure TunedDocument where
  id : Option ℕ := none
  modelId : String
  runtime : String := "ollama"
  config : Dictionary codec.reading
  isLocked : Bool := false
  createdAt : Option String := none

structure EventDocument where
  id : Option ℕ := none
  modelId : String
  eventType : String
  details : Dictionary codec.reading
  createdAt : Option String := none

inductive TextCall
  | saveRun (record : RunRecord)
  | listRuns (modelId : Option String) (limit : ℤ)
  | saveTunedConfig (config : TunedDocument codec)
  | getTunedConfig (modelId : String)
  | lockConfig (modelId : String)
  | saveAutopilotEvent (event : EventDocument codec)
  | listAutopilotEvents (modelId : Option String) (limit : ℤ)

variable {codec}

def TextCall.Reply : TextCall codec → Type
  | .saveRun _ => RunRecord
  | .listRuns _ _ => List RunRecord
  | .saveTunedConfig _ => TunedDocument codec
  | .getTunedConfig _ => Option (TunedDocument codec)
  | .lockConfig _ => Unit
  | .saveAutopilotEvent _ => EventDocument codec
  | .listAutopilotEvents _ _ => List (EventDocument codec)

variable (codec)

section store

/-- `json.loads` of a column, for a field that takes a dictionary. -/
def parse (text : List Char) : Except Failure (Dictionary codec.reading) :=
  match h : loads codec.reading text with
  | some (.obj fields) => .ok ⟨fields, loads_wellFormed h⟩
  | _ => .error (codec.unreadable text)

def rowToTunedConfig (row : Row String ConfigText) : Except Failure (TunedDocument codec) := do
  let config ← parse codec row.columns.configJson
  return {
    id := some row.id
    modelId := row.columns.modelId
    runtime := row.columns.runtime
    config := config
    isLocked := row.columns.isLocked
    createdAt := some row.createdAt }

def rowToAutopilotEvent (row : Row String EventText) : Except Failure (EventDocument codec) := do
  let details ← parse codec row.columns.detailsJson
  return {
    id := some row.id
    modelId := row.columns.modelId
    eventType := row.columns.eventType
    details := details
    createdAt := some row.createdAt }

/-- `json.dumps` in the place of the dictionary. -/
def tunedText (config : TunedDocument codec) : ConfigText :=
  ⟨config.modelId, config.runtime, config.config.text, config.isLocked⟩

def eventText (event : EventDocument codec) : EventText :=
  ⟨event.modelId, event.eventType, event.details.text⟩

section save
variable {α ρ : Type} (faults : Faults) (time : String)

/-- The body of a save, up to the commit at the end of its `with` block. -/
def transaction (columns : α) (decode : Row String α → Except Failure ρ) (t : Table String α) :
    Except Failure (ρ × Table String α) := do
  faults.take .connect
  faults.take .insert
  let t' := t.insert time columns
  faults.take .select
  let row := t'.byId t.nextId
  faults.take .fetch
  faults.take .decode
  let record ← match row with
    | none => .error (Failure.ofMessage "'NoneType' object is not subscriptable")
    | some row => decode row
  faults.take .commit
  return (record, t')

/-- A transaction that raises is rolled back. -/
def saveRow (columns : α) (decode : Row String α → Except Failure ρ) (t : Table String α) :
    Except Failure ρ × Table String α :=
  match transaction faults time columns decode t with
  | .ok (record, t') => (.ok record, t')
  | .error e => (.error e, t)

end save

def saveRun (faults : Faults) (time : String) (record : RunRecord) (db : TextDatabase) :
    Except Failure RunRecord × TextDatabase :=
  let bind := do
    let tokensGenerated ← SqliteStore.bindInteger record.tokensGenerated
    return { runColumns record with tokensGenerated := tokensGenerated }
  let out := SqliteStore.saveRow faults time bind rowToRunRecord db.runRecords
  (out.1, { db with runRecords := out.2 })

def saveTunedConfig (faults : Faults) (time : String) (config : TunedDocument codec)
    (db : TextDatabase) : Except Failure (TunedDocument codec) × TextDatabase :=
  let out := saveRow faults time (tunedText codec config) (rowToTunedConfig codec) db.tunedConfigs
  (out.1, { db with tunedConfigs := out.2 })

def saveAutopilotEvent (faults : Faults) (time : String) (event : EventDocument codec)
    (db : TextDatabase) : Except Failure (EventDocument codec) × TextDatabase :=
  let out :=
    saveRow faults time (eventText codec event) (rowToAutopilotEvent codec) db.autopilotEvents
  (out.1, { db with autopilotEvents := out.2 })

def listRuns (modelId : Option String) (limit : ℤ) (db : TextDatabase) :
    Except Failure (List RunRecord) := do
  let limit ← SqliteStore.bindInteger limit
  return (SqliteStore.listNewest RunColumns.modelId modelId limit db.runRecords).map rowToRunRecord

def listAutopilotEvents (modelId : Option String) (limit : ℤ) (db : TextDatabase) :
    Except Failure (List (EventDocument codec)) := do
  let limit ← SqliteStore.bindInteger limit
  (SqliteStore.listNewest EventText.modelId modelId limit db.autopilotEvents).mapM
    (rowToAutopilotEvent codec)

def newestOf (modelId : String) (t : Table String ConfigText) : Option (Row String ConfigText) :=
  t.newest fun columns => columns.modelId = modelId

def getTunedConfig (modelId : String) (db : TextDatabase) :
    Except Failure (Option (TunedDocument codec)) :=
  match newestOf modelId db.tunedConfigs with
  | none => .ok none
  | some row => (rowToTunedConfig codec row).map some

def lockConfig (modelId : String) (db : TextDatabase) : TextDatabase :=
  let latest := (newestOf modelId db.tunedConfigs).map Row.id
  let current (row : Row String ConfigText) : Bool :=
    row.columns.modelId = modelId && some row.id = latest
  let locked (columns : ConfigText) : ConfigText := { columns with isLocked := true }
  { db with tunedConfigs := db.tunedConfigs.update current locked }

/-- One operation at a time of the clock. -/
def serve (faults : Faults) (time : String) :
    (op : TextCall codec) → TextDatabase → Except Failure op.Reply × TextDatabase
  | .saveRun record, db => saveRun faults time record db
  | .listRuns modelId limit, db => (listRuns modelId limit db, db)
  | .saveTunedConfig config, db => saveTunedConfig codec faults time config db
  | .getTunedConfig modelId, db => (getTunedConfig codec modelId db, db)
  | .lockConfig modelId, db => (.ok (), lockConfig modelId db)
  | .saveAutopilotEvent event, db => saveAutopilotEvent codec faults time event db
  | .listAutopilotEvents modelId limit, db => (listAutopilotEvents codec modelId limit db, db)

end store

section meaning

def valueOf : Json → Value
  | .number n => .number (codec.number n)
  | json => .other (codec.canonical json)

def configOf (fields : List (Text × Json)) : Config :=
  (fields.map fun field =>
    (⟨codec.word field.1, valueOf codec field.2⟩ : Σ _ : String, Value)).toFinmap

/-- A text is a message that is formatted already. -/
def detailOf : Json → Detail
  | .obj fields => .config (configOf codec fields)
  | .str s => .message [.text (codec.word s)]
  | json => .message [.text (codec.canonical json)]

def detailsOf (fields : List (Text × Json)) : List (String × Detail) :=
  fields.map fun field => (codec.word field.1, detailOf codec field.2)

def TunedDocument.meaning (config : TunedDocument codec) : TunedConfig where
  id := config.id
  modelId := config.modelId
  runtime := config.runtime
  config := configOf codec config.config.fields
  isLocked := config.isLocked
  createdAt := config.createdAt

def EventDocument.meaning (event : EventDocument codec) : AutopilotEvent where
  id := event.id
  modelId := event.modelId
  eventType := event.eventType
  details := detailsOf codec event.details.fields
  createdAt := event.createdAt

/-- The fields that a column is read as. -/
def fieldsOf (text : List Char) : List (Text × Json) :=
  match parse codec text with
  | .ok dictionary => dictionary.fields
  | .error _ => []

def ConfigText.meaning (columns : ConfigText) : ConfigColumns :=
  ⟨columns.modelId, columns.runtime, configOf codec (fieldsOf codec columns.configJson),
    columns.isLocked⟩

def EventText.meaning (columns : EventText) : EventColumns :=
  ⟨columns.modelId, columns.eventType, detailsOf codec (fieldsOf codec columns.detailsJson)⟩

def TextDatabase.meaning (db : TextDatabase) : Database where
  runRecords := db.runRecords
  tunedConfigs := db.tunedConfigs.map (ConfigText.meaning codec)
  autopilotEvents := db.autopilotEvents.map (EventText.meaning codec)

def TextCall.meaning : TextCall codec → StorageCall
  | .saveRun record => .saveRun record
  | .listRuns modelId limit => .listRuns modelId limit
  | .saveTunedConfig config => .saveTunedConfig (config.meaning codec)
  | .getTunedConfig modelId => .getTunedConfig modelId
  | .lockConfig modelId => .lockConfig modelId
  | .saveAutopilotEvent event => .saveAutopilotEvent (event.meaning codec)
  | .listAutopilotEvents modelId limit => .listAutopilotEvents modelId limit

def replyMeaning : (op : TextCall codec) → op.Reply → (op.meaning codec).Reply
  | .saveRun _, record => record
  | .listRuns _ _, runs => runs
  | .saveTunedConfig _, config => config.meaning codec
  | .getTunedConfig _, found => found.map (TunedDocument.meaning codec)
  | .lockConfig _, _ => ()
  | .saveAutopilotEvent _, event => event.meaning codec
  | .listAutopilotEvents _ _, events => events.map (EventDocument.meaning codec)

/-- The column holds the text of an object. -/
def ReadableText (text : List Char) : Prop := (parse codec text).isOk

instance (text : List Char) : Decidable (ReadableText codec text) :=
  inferInstanceAs (Decidable (_ = true))

structure Readable (db : TextDatabase) : Prop where
  configs : ∀ row ∈ db.tunedConfigs.rows, ReadableText codec row.columns.configJson
  events : ∀ row ∈ db.autopilotEvents.rows, ReadableText codec row.columns.detailsJson

end meaning

section codec
variable {codec}

/-- What is written of a dictionary is read as the same dictionary, in the same order. -/
lemma parse_text (d : Dictionary codec.reading) : parse codec d.text = .ok d := by
  have hloads : loads codec.reading d.text = some (.obj d.fields) := loads_dumps d.wellFormed
  unfold parse
  split
  · rename_i fields h
    have hfields : fields = d.fields := by
      rw [hloads] at h
      cases h
      rfl
    subst hfields
    rfl
  · rename_i h
    exact absurd hloads (h d.fields)

lemma readableText_text (d : Dictionary codec.reading) : ReadableText codec d.text := by
  rw [ReadableText, parse_text]
  rfl

lemma ReadableText.exists_ok {text : List Char} (h : ReadableText codec text) :
    ∃ d, parse codec text = .ok d ∧ fieldsOf codec text = d.fields := by
  unfold ReadableText at h
  unfold fieldsOf
  cases hparse : parse codec text with
  | error e =>
    rw [hparse] at h
    cases h
  | ok d => exact ⟨d, rfl, rfl⟩

lemma rowToTunedConfig_meaning {row : Row String ConfigText}
    (h : ReadableText codec row.columns.configJson) :
    (rowToTunedConfig codec row).map (TunedDocument.meaning codec) =
      .ok (SqlStorage.rowToTunedConfig (row.map (ConfigText.meaning codec))) := by
  obtain ⟨d, hparse, hfields⟩ := h.exists_ok
  simp only [rowToTunedConfig, hparse]
  simp [TunedDocument.meaning, SqlStorage.rowToTunedConfig, Row.map, ConfigText.meaning, hfields,
    bind, Except.bind, pure, Except.pure, Except.map]

lemma rowToAutopilotEvent_meaning {row : Row String EventText}
    (h : ReadableText codec row.columns.detailsJson) :
    (rowToAutopilotEvent codec row).map (EventDocument.meaning codec) =
      .ok (SqlStorage.rowToAutopilotEvent (row.map (EventText.meaning codec))) := by
  obtain ⟨d, hparse, hfields⟩ := h.exists_ok
  simp only [rowToAutopilotEvent, hparse]
  simp [EventDocument.meaning, SqlStorage.rowToAutopilotEvent, Row.map, EventText.meaning, hfields,
    bind, Except.bind, pure, Except.pure, Except.map]

end codec

section save
variable {α β ρ ρ' : Type} {f : ρ → ρ'} {g : α → β} {decode : Row String α → Except Failure ρ}
  {decode' : Row String β → ρ'}

/-- A save of columns that can be read back means the same save of what they mean. -/
lemma saveRow_meaning (faults : Faults) (time : String) (columns : α) (t : Table String α)
    (h : ∀ row, row.columns = columns → (decode row).map f = .ok (decode' (row.map g))) :
    (saveRow faults time columns decode t).1.map f =
        (SqliteStore.saveRow faults time (.ok (g columns)) decode' (t.map g)).1 ∧
      (saveRow faults time columns decode t).2.map g =
        (SqliteStore.saveRow faults time (.ok (g columns)) decode' (t.map g)).2 := by
  have hread := h ⟨t.nextId, time, columns⟩ rfl
  obtain ⟨record, hdecode, hrecord⟩ : ∃ record, decode ⟨t.nextId, time, columns⟩ = .ok record ∧
      f record = decode' ⟨t.nextId, time, g columns⟩ := by
    cases hdecode : decode ⟨t.nextId, time, columns⟩ with
    | error e =>
      rw [hdecode] at hread
      cases hread
    | ok record =>
      rw [hdecode] at hread
      exact ⟨record, rfl, Except.ok.inj hread⟩
  have hinserted (columns : β) : ((t.map g).insert time columns).byId (t.map g).nextId =
      some ⟨t.nextId, time, columns⟩ := (t.map g).byId_insert time columns
  simp only [saveRow, transaction, SqliteStore.saveRow, SqliteStore.transaction,
    Table.byId_insert, hinserted, decodeRow, hdecode]
  rcases faults.take .connect with _ | _
  · exact ⟨rfl, rfl⟩
  rcases faults.take .insert with _ | _
  · exact ⟨rfl, rfl⟩
  rcases faults.take .select with _ | _
  · exact ⟨rfl, rfl⟩
  rcases faults.take .fetch with _ | _
  · exact ⟨rfl, rfl⟩
  rcases faults.take .decode with _ | _
  · exact ⟨rfl, rfl⟩
  rcases faults.take .commit with _ | _
  · exact ⟨rfl, rfl⟩
  · exact ⟨congrArg Except.ok hrecord, t.map_insert time columns⟩

lemma transaction_ok {faults : Faults} {time : String} {columns : α} {t t' : Table String α}
    {record : ρ} (h : transaction faults time columns decode t = .ok (record, t')) :
    decode ⟨t.nextId, time, columns⟩ = .ok record ∧ t' = t.insert time columns := by
  unfold transaction at h
  simp only [Table.byId_insert] at h
  obtain ⟨_, -, h⟩ := bind_eq_ok h
  obtain ⟨_, -, h⟩ := bind_eq_ok h
  obtain ⟨_, -, h⟩ := bind_eq_ok h
  obtain ⟨_, -, h⟩ := bind_eq_ok h
  obtain ⟨_, -, h⟩ := bind_eq_ok h
  obtain ⟨read, hread, h⟩ := bind_eq_ok h
  obtain ⟨_, -, h⟩ := bind_eq_ok h
  cases h
  exact ⟨hread, rfl⟩

/-- A save returns the row that it has inserted, or raises and has changed nothing. -/
lemma saveRow_cases (faults : Faults) (time : String) (columns : α)
    (decode : Row String α → Except Failure ρ) (t : Table String α) :
    (∃ record, decode ⟨t.nextId, time, columns⟩ = .ok record ∧
      saveRow faults time columns decode t = (.ok record, t.insert time columns)) ∨
    ∃ e, saveRow faults time columns decode t = (.error e, t) := by
  unfold saveRow
  cases hbody : transaction faults time columns decode t with
  | error e => exact .inr ⟨e, rfl⟩
  | ok out =>
    obtain ⟨record, t'⟩ := out
    obtain ⟨hread, rfl⟩ := transaction_ok hbody
    exact .inl ⟨record, hread, rfl⟩

end save

section refinement

/-- A call with the faults of its save and the time of the clock. -/
structure Timed (Op : Type) where
  faults : Faults
  time : String
  op : Op

def Timed.map {Op Op' : Type} (f : Op → Op') (c : Timed Op) : Timed Op' :=
  ⟨c.faults, c.time, f c.op⟩

def serving (c : Timed (TextCall codec)) (db : TextDatabase) :
    Except Failure c.op.Reply × TextDatabase :=
  serve codec c.faults c.time c.op db

def documentServing (c : Timed StorageCall) (db : Database) :
    Except Failure c.op.Reply × Database :=
  SqliteStore.serve c.faults c.time c.op db

variable {codec} {db : TextDatabase}

lemma tunedText_meaning (config : TunedDocument codec) :
    (tunedText codec config).meaning codec = tunedColumns (config.meaning codec) := by
  simp only [tunedText, ConfigText.meaning, fieldsOf, parse_text]
  rfl

lemma eventText_meaning (event : EventDocument codec) :
    (eventText codec event).meaning codec = eventColumns (event.meaning codec) := by
  simp only [eventText, EventText.meaning, fieldsOf, parse_text]
  rfl

lemma saveTunedConfig_meaning (faults : Faults) (time : String) (config : TunedDocument codec) :
    (saveTunedConfig codec faults time config db).1.map (TunedDocument.meaning codec) =
        (SqliteStore.saveTunedConfig faults time (config.meaning codec) (db.meaning codec)).1 ∧
      (saveTunedConfig codec faults time config db).2.meaning codec =
        (SqliteStore.saveTunedConfig faults time (config.meaning codec) (db.meaning codec)).2 := by
  have hread (row : Row String ConfigText) (hrow : row.columns = tunedText codec config) :
      ReadableText codec row.columns.configJson := by
    rw [hrow]
    exact readableText_text config.config
  have hsave := saveRow_meaning faults time (tunedText codec config) db.tunedConfigs
    fun row hrow => rowToTunedConfig_meaning (hread row hrow)
  rw [tunedText_meaning] at hsave
  exact ⟨hsave.1, congrArg (fun t => { db.meaning codec with tunedConfigs := t }) hsave.2⟩

lemma saveAutopilotEvent_meaning (faults : Faults) (time : String) (event : EventDocument codec) :
    (saveAutopilotEvent codec faults time event db).1.map (EventDocument.meaning codec) =
        (SqliteStore.saveAutopilotEvent faults time (event.meaning codec) (db.meaning codec)).1 ∧
      (saveAutopilotEvent codec faults time event db).2.meaning codec =
        (SqliteStore.saveAutopilotEvent faults time (event.meaning codec) (db.meaning codec)).2 := by
  have hread (row : Row String EventText) (hrow : row.columns = eventText codec event) :
      ReadableText codec row.columns.detailsJson := by
    rw [hrow]
    exact readableText_text event.details
  have hsave := saveRow_meaning faults time (eventText codec event) db.autopilotEvents
    fun row hrow => rowToAutopilotEvent_meaning (hread row hrow)
  rw [eventText_meaning] at hsave
  exact ⟨hsave.1, congrArg (fun t => { db.meaning codec with autopilotEvents := t }) hsave.2⟩

/-- Reading rows that can all be read is reading what they mean. -/
lemma mapM_meaning {α β ρ : Type} {decode : α → Except Failure ρ} {f : ρ → β} {g : α → β}
    {rows : List α} (h : ∀ row ∈ rows, (decode row).map f = .ok (g row)) :
    (rows.mapM decode).map (List.map f) = .ok (rows.map g) := by
  induction rows with
  | nil => rfl
  | cons row rows ih =>
    obtain ⟨hrow, hrows⟩ := List.forall_mem_cons.mp h
    have hlater := ih hrows
    rw [List.mapM_cons]
    cases hdecode : decode row with
    | error e =>
      rw [hdecode] at hrow
      cases hrow
    | ok record =>
      rw [hdecode] at hrow
      cases hmapM : rows.mapM decode with
      | error e =>
        rw [hmapM] at hlater
        cases hlater
      | ok records =>
        rw [hmapM] at hlater
        have hfirst : f record = g row := Except.ok.inj hrow
        have hnext : records.map f = rows.map g := Except.ok.inj hlater
        simp [bind, Except.bind, pure, Except.pure, Except.map, hfirst, hnext]

section queries
variable {α β : Type} {modelOf : α → String} {modelOf' : β → String} {g : α → β}

lemma matching_map (h : ∀ columns, modelOf' (g columns) = modelOf columns)
    (modelId : Option String) (t : Table String α) :
    SqliteStore.matching modelOf' modelId (t.map g) =
      (SqliteStore.matching modelOf modelId t).map (Row.map g) := by
  cases modelId with
  | none => rfl
  | some m =>
    simp only [SqliteStore.matching, Table.map]
    split_ifs
    · rfl
    · rw [List.filter_map]
      congr 2
      funext row
      simp [h]

lemma listNewest_map (h : ∀ columns, modelOf' (g columns) = modelOf columns)
    (modelId : Option String) (limit : ℤ) (t : Table String α) :
    SqliteStore.listNewest modelOf' modelId limit (t.map g) =
      (SqliteStore.listNewest modelOf modelId limit t).map (Row.map g) := by
  unfold SqliteStore.listNewest SqliteStore.limited
  rw [matching_map h, newestFirst_map]
  split_ifs
  · exact List.map_take.symm
  · rfl

lemma mem_of_matching {modelId : Option String} {t : Table String α} {row : Row String α}
    (h : row ∈ SqliteStore.matching modelOf modelId t) : row ∈ t.rows := by
  cases modelId with
  | none => exact h
  | some m =>
    simp only [SqliteStore.matching] at h
    split_ifs at h
    · exact h
    · exact (List.mem_filter.mp h).1

lemma mem_of_listNewest {modelId : Option String} {limit : ℤ} {t : Table String α}
    {row : Row String α} (h : row ∈ SqliteStore.listNewest modelOf modelId limit t) :
    row ∈ t.rows := by
  have hsorted : row ∈ newestFirst (SqliteStore.matching modelOf modelId t) := by
    unfold SqliteStore.listNewest SqliteStore.limited at h
    split_ifs at h
    · exact List.mem_of_mem_take h
    · exact h
  exact mem_of_matching ((newestFirst_perm _).mem_iff.mp hsorted)

end queries

lemma listAutopilotEvents_meaning (hdb : Readable codec db) (modelId : Option String) (limit : ℤ) :
    (listAutopilotEvents codec modelId limit db).map (List.map (EventDocument.meaning codec)) =
      SqliteStore.listAutopilotEvents modelId limit (db.meaning codec) := by
  unfold listAutopilotEvents SqliteStore.listAutopilotEvents
  cases SqliteStore.bindInteger limit with
  | error e => rfl
  | ok limit' =>
    have hlisted : SqliteStore.listNewest EventColumns.modelId modelId limit'
        (db.meaning codec).autopilotEvents =
          (SqliteStore.listNewest EventText.modelId modelId limit' db.autopilotEvents).map
            (Row.map (EventText.meaning codec)) := listNewest_map (fun _ => rfl) modelId limit' _
    have hread (row : Row String EventText)
        (hrow : row ∈ SqliteStore.listNewest EventText.modelId modelId limit' db.autopilotEvents) :
        ReadableText codec row.columns.detailsJson := hdb.events row (mem_of_listNewest hrow)
    refine (mapM_meaning fun row hrow => rowToAutopilotEvent_meaning (hread row hrow)).trans ?_
    simp only [bind, Except.bind, hlisted, List.map_map]
    rfl

lemma newestOf_meaning (modelId : String) (db : TextDatabase) :
    SqlStorage.newestOf id modelId (db.meaning codec).tunedConfigs =
      (newestOf modelId db.tunedConfigs).map (Row.map (ConfigText.meaning codec)) :=
  db.tunedConfigs.newest_map fun _ => rfl

lemma getTunedConfig_meaning (hdb : Readable codec db) (modelId : String) :
    (getTunedConfig codec modelId db).map (Option.map (TunedDocument.meaning codec)) =
      .ok (SqliteStore.getTunedConfig modelId (db.meaning codec)) := by
  unfold getTunedConfig SqliteStore.getTunedConfig SqlStorage.getTunedConfig
  rw [newestOf_meaning]
  cases hfound : newestOf modelId db.tunedConfigs with
  | none => rfl
  | some row =>
    have hrow := rowToTunedConfig_meaning (hdb.configs row (db.tunedConfigs.newest_mem hfound).1)
    dsimp only
    cases hdecode : rowToTunedConfig codec row with
    | error e =>
      rw [hdecode] at hrow
      cases hrow
    | ok config =>
      rw [hdecode] at hrow
      exact congrArg (fun found => Except.ok (some found)) (Except.ok.inj hrow)

lemma lockConfig_meaning (modelId : String) (db : TextDatabase) :
    (lockConfig modelId db).meaning codec = SqliteStore.lockConfig modelId (db.meaning codec) := by
  have hlatest : (SqlStorage.newestOf id modelId (db.meaning codec).tunedConfigs).map Row.id =
      (newestOf modelId db.tunedConfigs).map Row.id := by
    rw [newestOf_meaning, Option.map_map]
    rfl
  refine congrArg (fun t => { db.meaning codec with tunedConfigs := t }) ?_
  apply Table.map_update
  · intro row
    rw [hlatest]
    rfl
  · exact fun _ => rfl

section readable

lemma saveTunedConfig_readable (hdb : Readable codec db) (faults : Faults) (time : String)
    (config : TunedDocument codec) :
    Readable codec (saveTunedConfig codec faults time config db).2 := by
  unfold saveTunedConfig
  rcases saveRow_cases faults time (tunedText codec config) (rowToTunedConfig codec)
    db.tunedConfigs with ⟨_, -, hsaved⟩ | ⟨_, hraised⟩
  · rw [hsaved]
    refine ⟨fun row hrow => ?_, hdb.events⟩
    rcases List.mem_append.mp hrow with hrow | hrow
    · exact hdb.configs row hrow
    · obtain rfl := List.mem_singleton.mp hrow
      exact readableText_text config.config
  · rw [hraised]
    exact hdb

lemma saveAutopilotEvent_readable (hdb : Readable codec db) (faults : Faults) (time : String)
    (event : EventDocument codec) :
    Readable codec (saveAutopilotEvent codec faults time event db).2 := by
  unfold saveAutopilotEvent
  rcases saveRow_cases faults time (eventText codec event) (rowToAutopilotEvent codec)
    db.autopilotEvents with ⟨_, -, hsaved⟩ | ⟨_, hraised⟩
  · rw [hsaved]
    refine ⟨hdb.configs, fun row hrow => ?_⟩
    rcases List.mem_append.mp hrow with hrow | hrow
    · exact hdb.events row hrow
    · obtain rfl := List.mem_singleton.mp hrow
      exact readableText_text event.details
  · rw [hraised]
    exact hdb

/-- Locking changes no text. -/
lemma lockConfig_mem {modelId : String} {row : Row String ConfigText}
    (h : row ∈ (lockConfig modelId db).tunedConfigs.rows) :
    ∃ old ∈ db.tunedConfigs.rows, row.columns.configJson = old.columns.configJson := by
  obtain ⟨old, hold, rfl⟩ := List.mem_map.mp h
  refine ⟨old, hold, ?_⟩
  unfold Row.change
  split_ifs <;> rfl

lemma lockConfig_readable (hdb : Readable codec db) (modelId : String) :
    Readable codec (lockConfig modelId db) := by
  refine ⟨fun row hrow => ?_, hdb.events⟩
  obtain ⟨old, hold, htext⟩ := lockConfig_mem hrow
  rw [htext]
  exact hdb.configs old hold

end readable

lemma map_same {α : Type} (r : Except Failure α) : r.map (fun a => a) = r := by cases r <;> rfl

/-- Every operation on texts does what it does on documents. -/
lemma serving_refines : Refines (serving codec) documentServing (Timed.map (TextCall.meaning codec))
    (fun c r => r.map (replyMeaning codec c.op)) (TextDatabase.meaning codec) (Readable codec) where
  keeps := by
    rintro ⟨faults, time, op⟩ db hdb
    cases op with
    | saveTunedConfig config => exact saveTunedConfig_readable hdb faults time config
    | saveAutopilotEvent event => exact saveAutopilotEvent_readable hdb faults time event
    | lockConfig modelId => exact lockConfig_readable hdb modelId
    | _ => exact ⟨hdb.configs, hdb.events⟩
  replies := by
    rintro ⟨faults, time, op⟩ db hdb
    cases op with
    | saveRun record => exact map_same _
    | listRuns modelId limit => exact map_same _
    | saveTunedConfig config => exact (saveTunedConfig_meaning faults time config).1
    | getTunedConfig modelId => exact getTunedConfig_meaning hdb modelId
    | lockConfig modelId => rfl
    | saveAutopilotEvent event => exact (saveAutopilotEvent_meaning faults time event).1
    | listAutopilotEvents modelId limit => exact listAutopilotEvents_meaning hdb modelId limit
  states := by
    rintro ⟨faults, time, op⟩ db hdb
    cases op with
    | saveTunedConfig config => exact (saveTunedConfig_meaning faults time config).2
    | saveAutopilotEvent event => exact (saveAutopilotEvent_meaning faults time event).2
    | lockConfig modelId => exact lockConfig_meaning modelId db
    | _ => rfl

end refinement

section origin
variable {codec}

/-- A column of the database holds the dictionary. -/
def Held (db : TextDatabase) (d : Dictionary codec.reading) : Prop :=
  (∃ row ∈ db.tunedConfigs.rows, parse codec row.columns.configJson = .ok d) ∨
    ∃ row ∈ db.autopilotEvents.rows, parse codec row.columns.detailsJson = .ok d

def Given : TextCall codec → Dictionary codec.reading → Prop
  | .saveTunedConfig config, d => config.config = d
  | .saveAutopilotEvent event, d => event.details = d
  | _, _ => False

def Contains : (op : TextCall codec) → op.Reply → Dictionary codec.reading → Prop
  | .saveTunedConfig _, config, d => config.config = d
  | .getTunedConfig _, found, d => ∃ config, found = some config ∧ config.config = d
  | .saveAutopilotEvent _, event, d => event.details = d
  | .listAutopilotEvents _ _, (events : List (EventDocument codec)), d =>
    ∃ event ∈ events, event.details = d
  | _, _, _ => False

def Returns (op : TextCall codec) (r : Except Failure op.Reply) (d : Dictionary codec.reading) :
    Prop :=
  ∃ reply, r = .ok reply ∧ Contains op reply d

variable {db : TextDatabase} {d : Dictionary codec.reading}

lemma rowToTunedConfig_config {row : Row String ConfigText} {config : TunedDocument codec}
    (h : rowToTunedConfig codec row = .ok config) :
    parse codec row.columns.configJson = .ok config.config := by
  obtain ⟨d, hparse, hconfig⟩ := bind_eq_ok h
  cases hconfig
  exact hparse

lemma rowToAutopilotEvent_details {row : Row String EventText} {event : EventDocument codec}
    (h : rowToAutopilotEvent codec row = .ok event) :
    parse codec row.columns.detailsJson = .ok event.details := by
  obtain ⟨d, hparse, hevent⟩ := bind_eq_ok h
  cases hevent
  exact hparse

lemma mem_of_mapM {α ρ : Type} {decode : α → Except Failure ρ} {rows : List α} {records : List ρ}
    (h : rows.mapM decode = .ok records) {record : ρ} (hrecord : record ∈ records) :
    ∃ row ∈ rows, decode row = .ok record := by
  induction rows generalizing records with
  | nil =>
    cases h
    cases hrecord
  | cons row rows ih =>
    rw [List.mapM_cons] at h
    obtain ⟨first, hfirst, h⟩ := bind_eq_ok h
    obtain ⟨later, hlater, h⟩ := bind_eq_ok h
    cases h
    rcases List.mem_cons.mp hrecord with rfl | hrecord
    · exact ⟨row, by simp, hfirst⟩
    · obtain ⟨row', hrow', hdecode⟩ := ih hlater hrecord
      exact ⟨row', List.mem_cons_of_mem _ hrow', hdecode⟩

lemma saveTunedConfig_returns {faults : Faults} {time : String} {config saved : TunedDocument codec}
    (h : (saveTunedConfig codec faults time config db).1 = .ok saved) :
    config.config = saved.config := by
  unfold saveTunedConfig at h
  rcases saveRow_cases faults time (tunedText codec config) (rowToTunedConfig codec)
    db.tunedConfigs with ⟨record, hdecode, hsaved⟩ | ⟨_, hraised⟩
  · rw [hsaved] at h
    cases h
    have hparse := rowToTunedConfig_config hdecode
    exact Except.ok.inj ((parse_text config.config).symm.trans hparse)
  · rw [hraised] at h
    cases h

lemma saveAutopilotEvent_returns {faults : Faults} {time : String}
    {event saved : EventDocument codec}
    (h : (saveAutopilotEvent codec faults time event db).1 = .ok saved) :
    event.details = saved.details := by
  unfold saveAutopilotEvent at h
  rcases saveRow_cases faults time (eventText codec event) (rowToAutopilotEvent codec)
    db.autopilotEvents with ⟨record, hdecode, hsaved⟩ | ⟨_, hraised⟩
  · rw [hsaved] at h
    cases h
    have hparse := rowToAutopilotEvent_details hdecode
    exact Except.ok.inj ((parse_text event.details).symm.trans hparse)
  · rw [hraised] at h
    cases h

lemma getTunedConfig_held {modelId : String} {config : TunedDocument codec}
    (h : getTunedConfig codec modelId db = .ok (some config)) : Held db config.config := by
  unfold getTunedConfig at h
  cases hfound : newestOf modelId db.tunedConfigs with
  | none =>
    rw [hfound] at h
    cases h
  | some row =>
    rw [hfound] at h
    cases hdecode : rowToTunedConfig codec row with
    | error e =>
      simp only [hdecode] at h
      cases h
    | ok read =>
      simp only [hdecode] at h
      cases h
      exact .inl ⟨row, (db.tunedConfigs.newest_mem hfound).1, rowToTunedConfig_config hdecode⟩

lemma listAutopilotEvents_held {modelId : Option String} {limit : ℤ}
    {events : List (EventDocument codec)}
    (h : listAutopilotEvents codec modelId limit db = .ok events) {event : EventDocument codec}
    (hevent : event ∈ events) : Held db event.details := by
  obtain ⟨limit', -, hread⟩ := bind_eq_ok h
  obtain ⟨row, hrow, hdecode⟩ := mem_of_mapM hread hevent
  exact .inr ⟨row, mem_of_listNewest hrow, rowToAutopilotEvent_details hdecode⟩

lemma saveTunedConfig_held {faults : Faults} {time : String} {config : TunedDocument codec}
    (h : Held (saveTunedConfig codec faults time config db).2 d) :
    Held db d ∨ config.config = d := by
  unfold saveTunedConfig at h
  rcases saveRow_cases faults time (tunedText codec config) (rowToTunedConfig codec)
    db.tunedConfigs with ⟨record, -, hsaved⟩ | ⟨_, hraised⟩
  · rw [hsaved] at h
    rcases h with ⟨row, hrow, hparse⟩ | hevents
    · rcases List.mem_append.mp hrow with hrow | hrow
      · exact .inl (.inl ⟨row, hrow, hparse⟩)
      · obtain rfl := List.mem_singleton.mp hrow
        exact .inr (Except.ok.inj ((parse_text config.config).symm.trans hparse))
    · exact .inl (.inr hevents)
  · rw [hraised] at h
    exact .inl h

lemma saveAutopilotEvent_held {faults : Faults} {time : String} {event : EventDocument codec}
    (h : Held (saveAutopilotEvent codec faults time event db).2 d) :
    Held db d ∨ event.details = d := by
  unfold saveAutopilotEvent at h
  rcases saveRow_cases faults time (eventText codec event) (rowToAutopilotEvent codec)
    db.autopilotEvents with ⟨record, -, hsaved⟩ | ⟨_, hraised⟩
  · rw [hsaved] at h
    rcases h with hconfigs | ⟨row, hrow, hparse⟩
    · exact .inl (.inl hconfigs)
    · rcases List.mem_append.mp hrow with hrow | hrow
      · exact .inl (.inr ⟨row, hrow, hparse⟩)
      · obtain rfl := List.mem_singleton.mp hrow
        exact .inr (Except.ok.inj ((parse_text event.details).symm.trans hparse))
  · rw [hraised] at h
    exact .inl h

lemma lockConfig_held {modelId : String} (h : Held (lockConfig modelId db) d) : Held db d := by
  rcases h with ⟨row, hrow, hparse⟩ | hevents
  · obtain ⟨old, hold, htext⟩ := lockConfig_mem hrow
    exact .inl ⟨old, hold, htext ▸ hparse⟩
  · exact .inr hevents

/-- No operation makes up a dictionary. -/
lemma serving_conserves : Conserves (serving codec) Held (fun c => Given c.op)
    (fun c r => Returns c.op r) where
  returns := by
    rintro ⟨faults, time, op⟩ db d ⟨reply, hreply, hcontains⟩
    cases op with
    | saveTunedConfig config => exact .inr ((saveTunedConfig_returns hreply).trans hcontains)
    | saveAutopilotEvent event => exact .inr ((saveAutopilotEvent_returns hreply).trans hcontains)
    | getTunedConfig modelId =>
      obtain ⟨config, rfl, rfl⟩ := hcontains
      exact .inl (getTunedConfig_held hreply)
    | listAutopilotEvents modelId limit =>
      obtain ⟨event, hevent, rfl⟩ := hcontains
      exact .inl (listAutopilotEvents_held hreply hevent)
    | _ => cases hcontains
  keeps := by
    rintro ⟨faults, time, op⟩ db d h
    cases op with
    | saveTunedConfig config => exact saveTunedConfig_held h
    | saveAutopilotEvent event => exact saveAutopilotEvent_held h
    | lockConfig modelId => exact .inl (lockConfig_held h)
    | _ => exact .inl h

end origin

/-- A run on texts is the run on documents, and every dictionary that is read is one that was
there or was saved before, with its keys in the same order. -/
structure KeptAsText (calls : List (Timed (TextCall codec))) (db : TextDatabase) : Prop where
  replies : (answers (serving codec) calls db).1.map
      (fun a => (⟨a.1.map (TextCall.meaning codec), a.2.map (replyMeaning codec a.1.op)⟩ :
        Σ c : Timed StorageCall, Except Failure c.op.Reply)) =
    (answers documentServing (calls.map (Timed.map (TextCall.meaning codec))) (db.meaning codec)).1
  state : (answers (serving codec) calls db).2.meaning codec =
    (answers documentServing (calls.map (Timed.map (TextCall.meaning codec))) (db.meaning codec)).2
  readable : Readable codec (answers (serving codec) calls db).2
  verbatim : Each (fun past a => ∀ d, Returns a.1.op a.2 d →
      Held db d ∨ ∃ b ∈ past ++ [a], Given b.1.op d) [] (answers (serving codec) calls db).1

/-- Whatever is saved through JSON text comes back, in any run and with any faults of the saves. -/
theorem text_kept (calls : List (Timed (TextCall codec))) (db : TextDatabase)
    (h : Readable codec db) : KeptAsText codec calls db := by
  obtain ⟨hreplies, hstate, hreadable⟩ := serving_refines.answers_eq calls db h
  exact ⟨hreplies, hstate, hreadable, serving_conserves.answers_each calls db⟩

/-- Documents whose numbers are natural numbers. -/
def naturals : Codec where
  reading := verbatim 1000
  unreadable _ := Failure.ofMessage "Expecting value: line 1 column 1 (char 0)"
  number n := (String.ofList n.text).toNat?.getD 0
  word s := String.ofList (s.filterMap fun
    | .char c => some c
    | .surrogate _ => none)
  word_text s := by simp [text, List.filterMap_map]
  canonical json := String.ofList (dumps json)

def context2048 : Dictionary naturals.reading where
  fields := [(text "num_ctx", .number ⟨['2', '0', '4', '8'], false, by decide⟩)]
  wellFormed := by
    refine ⟨rfl, by decide, joined_text _, ⟨?_, rfl⟩, trivial⟩
    unfold IsNumber
    decide +kernel

/-- A config of an earlier session is read, and another one is saved, locked and read. -/
theorem text_kept_tuned :
    let columns : ConfigText :=
      ⟨"m", "ollama", "\x7b\x22num_ctx\x22: 4096\x7d".toList, false⟩
    let db : TextDatabase := { tunedConfigs := Table.empty.insert "2024-01-01 00:00:00" columns }
    let tuned : TunedDocument naturals := { modelId := "m", config := context2048 }
    let calls : List (Timed (TextCall naturals)) :=
      [.getTunedConfig "m", .saveTunedConfig tuned, .lockConfig "m", .getTunedConfig "m"].map
        fun op => ⟨noFaults, "2024-01-02 00:00:00", op⟩
    Readable naturals db ∧ KeptAsText naturals calls db := by
  intro columns db tuned calls
  have hdb : Readable naturals db := by
    refine ⟨fun row hrow => ?_, fun row hrow => by cases hrow⟩
    obtain rfl := List.mem_singleton.mp hrow
    decide +kernel
  exact ⟨hdb, text_kept naturals calls db hdb⟩

end LlmMax.TextColumns
