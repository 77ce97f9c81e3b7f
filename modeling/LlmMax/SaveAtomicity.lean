import LlmMax.FallbackStorage
import LlmMax.MySqlStore
import LlmMax.SqliteStore

/-! Saves through the wrapper over the two SQL stores, wherever their steps raise. The
SQLite store reads its row inside the transaction and is all or nothing; the MySQL store
commits first, so that a save can raise and still have left its row. -/
namespace LlmMax.SaveAtomicity
open Domain BenchMetrics Storage EffectProgram Failover SqlTable SqlStorage

section rows
variable {α ρ : Type} {faults : Faults} {time : String} {bind : Except Failure α}
  {decode : Row String α → ρ} {t : Table String α}

/-- The save of a value that fits its columns goes through up to its commit, and raises at
one of the steps behind it. -/
def BreaksAfterCommit (faults : Faults) (fits : Bool) : Prop :=
  fits = true ∧ faults .connect = none ∧ faults .insert = none ∧ faults .commit = none ∧
    (faults .select ≠ none ∨ faults .fetch ≠ none ∨ faults .decode ≠ none)

/-- What a save of one row comes to. A stranded row is in the table although its save raised. -/
inductive RowSaved (decode : Row String α → ρ) (t : Table String α) (stranding : Prop) :
    Except Failure ρ → Table String α → Prop
  | refused {e : Failure} {t' : Table String α} (safe : ¬ stranding) (same : t'.rows = t.rows) :
      RowSaved decode t stranding (.error e) t'
  | stranded {e : Failure} {t' : Table String α} (row : Row String α) (breaks : stranding)
      (appended : t'.rows = t.rows ++ [row]) : RowSaved decode t stranding (.error e) t'
  | saved {t' : Table String α} (row : Row String α) (safe : ¬ stranding)
      (appended : t'.rows = t.rows ++ [row]) : RowSaved decode t stranding (.ok (decode row)) t'

lemma take_ok {faults : Faults} {step : SaveStep} (h : faults step = none) :
    faults.take step = .ok () := by
  rw [Faults.take, h]

lemma take_error {faults : Faults} {step : SaveStep} {e : Failure} (h : faults step = some e) :
    faults.take step = .error e := by
  rw [Faults.take, h]

/-- Nothing is inserted unless the connection, the value and the statement are all right. -/
lemma insertRow_cases (faults : Faults) (bind : Except Failure α) :
    (∃ e, MySqlStore.insertRow faults bind = .error e ∧
      ¬ (bind.isOk ∧ faults .connect = none ∧ faults .insert = none)) ∨
    ∃ columns, MySqlStore.insertRow faults bind = .ok columns ∧
      bind.isOk ∧ faults .connect = none ∧ faults .insert = none := by
  cases hconnect : faults .connect with
  | some e =>
    refine .inl ⟨e, ?_, by simp⟩
    simp [MySqlStore.insertRow, take_error hconnect, Bind.bind, Except.bind]
  | none =>
    cases bind with
    | error e =>
      refine .inl ⟨e, ?_, by simp [Except.isOk, Except.toBool]⟩
      simp [MySqlStore.insertRow, take_ok hconnect, Bind.bind, Except.bind]
    | ok columns =>
      cases hinsert : faults .insert with
      | some e =>
        refine .inl ⟨e, ?_, by simp⟩
        simp [MySqlStore.insertRow, take_ok hconnect, take_error hinsert, Bind.bind, Except.bind]
      | none =>
        refine .inr ⟨columns, ?_, rfl, rfl, rfl⟩
        simp [MySqlStore.insertRow, take_ok hconnect, take_ok hinsert, Bind.bind, Except.bind,
          pure, Except.pure]

lemma readBack_cases (faults : Faults) (decode : Row String α → ρ) (time : String) (columns : α)
    (t : Table String α) :
    (∃ e, MySqlStore.readBack faults decode t.nextId (t.insert time columns) = .error e ∧
      (faults .select ≠ none ∨ faults .fetch ≠ none ∨ faults .decode ≠ none)) ∨
    MySqlStore.readBack faults decode t.nextId (t.insert time columns) =
        .ok (decode ⟨t.nextId, time, columns⟩) ∧
      faults .select = none ∧ faults .fetch = none ∧ faults .decode = none := by
  cases hselect : faults .select with
  | some e =>
    refine .inl ⟨e, ?_, by simp⟩
    simp [MySqlStore.readBack, take_error hselect, Bind.bind, Except.bind]
  | none =>
    cases hfetch : faults .fetch with
    | some e =>
      refine .inl ⟨e, ?_, by simp⟩
      simp [MySqlStore.readBack, take_ok hselect, take_error hfetch, Bind.bind, Except.bind]
    | none =>
      cases hdecode : faults .decode with
      | some e =>
        refine .inl ⟨e, ?_, by simp⟩
        simp [MySqlStore.readBack, take_ok hselect, take_ok hfetch, take_error hdecode, Bind.bind,
          Except.bind]
      | none =>
        refine .inr ⟨?_, rfl, rfl, rfl⟩
        simp [MySqlStore.readBack, take_ok hselect, take_ok hfetch, take_ok hdecode,
          Table.byId_insert, decodeRow, Bind.bind, Except.bind]

lemma mysql_saveRow (faults : Faults) (time : String) (bind : Except Failure α)
    (decode : Row String α → ρ) (t : Table String α) :
    RowSaved decode t (BreaksAfterCommit faults bind.isOk)
      (MySqlStore.saveRow faults time bind decode t).1
      (MySqlStore.saveRow faults time bind decode t).2 := by
  rcases insertRow_cases faults bind with ⟨e, hinsert, hno⟩ | ⟨columns, hinsert, hbind, hconnect, hins⟩
  · simp only [MySqlStore.saveRow, hinsert]
    exact .refused (fun h => hno ⟨h.1, h.2.1, h.2.2.1⟩) rfl
  · cases hcommit : faults .commit with
    | some e =>
      simp only [MySqlStore.saveRow, hinsert, take_error hcommit]
      exact .refused (fun h => by simp [h.2.2.2.1] at hcommit) rfl
    | none =>
      simp only [MySqlStore.saveRow, hinsert, take_ok hcommit]
      rcases readBack_cases faults decode time columns t with
        ⟨e, hread, hbreak⟩ | ⟨hread, hselect, hfetch, hdecode⟩
      · rw [hread]
        exact .stranded _ ⟨hbind, hconnect, hins, hcommit, hbreak⟩ rfl
      · rw [hread]
        refine .saved _ (fun h => ?_) rfl
        obtain ⟨-, -, -, -, hbreak⟩ := h
        simp [hselect, hfetch, hdecode] at hbreak

lemma transaction_ok {record : ρ} {t' : Table String α}
    (h : SqliteStore.transaction faults time bind decode t = .ok (record, t')) :
    ∃ row, t'.rows = t.rows ++ [row] ∧ decode row = record := by
  unfold SqliteStore.transaction at h
  obtain ⟨-, -, h⟩ := bind_eq_ok h
  obtain ⟨columns, -, h⟩ := bind_eq_ok h
  obtain ⟨-, -, h⟩ := bind_eq_ok h
  obtain ⟨-, -, h⟩ := bind_eq_ok h
  obtain ⟨-, -, h⟩ := bind_eq_ok h
  obtain ⟨-, -, h⟩ := bind_eq_ok h
  obtain ⟨record', hdecode, h⟩ := bind_eq_ok h
  obtain ⟨-, -, h⟩ := bind_eq_ok h
  simp only [pure, Except.pure, Except.ok.injEq, Prod.mk.injEq] at h
  obtain ⟨rfl, rfl⟩ := h
  rw [Table.byId_insert] at hdecode
  exact ⟨⟨t.nextId, time, columns⟩, rfl, Except.ok.inj hdecode⟩

/-- A transaction of the SQLite store never strands a row. -/
lemma sqlite_saveRow (faults : Faults) (time : String) (bind : Except Failure α)
    (decode : Row String α → ρ) (t : Table String α) :
    RowSaved decode t False (SqliteStore.saveRow faults time bind decode t).1
      (SqliteStore.saveRow faults time bind decode t).2 := by
  unfold SqliteStore.saveRow
  cases h : SqliteStore.transaction faults time bind decode t with
  | error e => exact .refused id rfl
  | ok out =>
    obtain ⟨record, t'⟩ := out
    obtain ⟨row, happended, rfl⟩ := transaction_ok h
    exact .saved row id happended

end rows

/-- No table of the database has gained or lost a row. -/
structure Unchanged (db db' : Database) : Prop where
  runs : db'.runRecords.rows = db.runRecords.rows
  configs : db'.tunedConfigs.rows = db.tunedConfigs.rows
  events : db'.autopilotEvents.rows = db.autopilotEvents.rows

/-- The database has gained one row, in the table of the save; it is that of the record. -/
def Gains : (op : StorageCall) → op.Reply → Database → Database → Prop
  | .saveRun _, record, db, db' =>
    (∃ row, db'.runRecords.rows = db.runRecords.rows ++ [row] ∧ rowToRunRecord row = record) ∧
      db'.tunedConfigs.rows = db.tunedConfigs.rows ∧ db'.autopilotEvents.rows = db.autopilotEvents.rows
  | .saveTunedConfig _, config, db, db' => db'.runRecords.rows = db.runRecords.rows ∧
      (∃ row, db'.tunedConfigs.rows = db.tunedConfigs.rows ++ [row] ∧ rowToTunedConfig row = config) ∧
      db'.autopilotEvents.rows = db.autopilotEvents.rows
  | .saveAutopilotEvent _, event, db, db' => db'.runRecords.rows = db.runRecords.rows ∧
      db'.tunedConfigs.rows = db.tunedConfigs.rows ∧
      ∃ row, db'.autopilotEvents.rows = db.autopilotEvents.rows ++ [row] ∧
        rowToAutopilotEvent row = event
  | _, _, _, _ => False

lemma Gains.changed {op : StorageCall} {record : op.Reply} {db db' : Database}
    (h : Gains op record db db') : ¬ Unchanged db db' := by
  intro hsame
  cases op with
  | saveRun r =>
    obtain ⟨⟨row, happended, -⟩, -, -⟩ := h
    simpa [hsame.runs] using congrArg List.length happended
  | saveTunedConfig c =>
    obtain ⟨-, ⟨row, happended, -⟩, -⟩ := h
    simpa [hsame.configs] using congrArg List.length happended
  | saveAutopilotEvent e =>
    obtain ⟨-, -, row, happended, -⟩ := h
    simpa [hsame.events] using congrArg List.length happended
  | _ => exact h

/-- What a save comes to in the whole database. -/
inductive Saved (op : StorageCall) (db : Database) (stranding : Prop) :
    Except Failure op.Reply → Database → Prop
  | refused {e : Failure} {db' : Database} (safe : ¬ stranding) (same : Unchanged db db') :
      Saved op db stranding (.error e) db'
  | stranded {e : Failure} {record : op.Reply} {db' : Database} (breaks : stranding)
      (gains : Gains op record db db') : Saved op db stranding (.error e) db'
  | saved {record : op.Reply} {db' : Database} (safe : ¬ stranding)
      (gains : Gains op record db db') : Saved op db stranding (.ok record) db'

lemma saved_of_rowSaved {α : Type} (op : StorageCall) {decode : Row String α → op.Reply}
    {t t' : Table String α} {stranding : Prop} {result : Except Failure op.Reply} {db db' : Database}
    (h : RowSaved decode t stranding result t') (hsame : t'.rows = t.rows → Unchanged db db')
    (hgains : ∀ row, t'.rows = t.rows ++ [row] → Gains op (decode row) db db') :
    Saved op db stranding result db' := by
  cases h with
  | refused safe same => exact .refused safe (hsame same)
  | stranded row breaks appended => exact .stranded breaks (hgains row appended)
  | saved row safe appended => exact .saved safe (hgains row appended)

/-- The values of the save fit the columns of the MySQL tables. -/
def FitsColumns : StorageCall → Bool
  | .saveRun record => (MySqlStore.bindRun record).isOk
  | .saveTunedConfig config => (MySqlStore.bindConfig config).isOk
  | .saveAutopilotEvent event => (MySqlStore.bindEvent event).isOk
  | _ => false

theorem mysql_saved (collate : String → String) (faults : Faults) (time : String) {op : StorageCall}
    (hop : Inserts op) (db : Database) :
    Saved op db (BreaksAfterCommit faults (FitsColumns op))
      (MySqlStore.serve collate faults time op db).1
      (MySqlStore.serve collate faults time op db).2 := by
  cases op with
  | saveRun record =>
    exact saved_of_rowSaved (.saveRun record)
      (mysql_saveRow faults time (MySqlStore.bindRun record) rowToRunRecord db.runRecords)
      (fun h => ⟨h, rfl, rfl⟩) fun row h => ⟨⟨row, h, rfl⟩, rfl, rfl⟩
  | saveTunedConfig config =>
    exact saved_of_rowSaved (.saveTunedConfig config)
      (mysql_saveRow faults time (MySqlStore.bindConfig config) rowToTunedConfig db.tunedConfigs)
      (fun h => ⟨rfl, h, rfl⟩) fun row h => ⟨rfl, ⟨row, h, rfl⟩, rfl⟩
  | saveAutopilotEvent event =>
    exact saved_of_rowSaved (.saveAutopilotEvent event)
      (mysql_saveRow faults time (MySqlStore.bindEvent event) rowToAutopilotEvent db.autopilotEvents)
      (fun h => ⟨rfl, rfl, h⟩) fun row h => ⟨rfl, rfl, row, h, rfl⟩
  | _ => cases hop

theorem sqlite_saved (faults : Faults) (time : String) {op : StorageCall} (hop : Inserts op)
    (db : Database) :
    Saved op db False (SqliteStore.serve faults time op db).1
      (SqliteStore.serve faults time op db).2 := by
  cases op with
  | saveRun record =>
    exact saved_of_rowSaved (.saveRun record) (sqlite_saveRow faults time _ rowToRunRecord _)
      (fun h => ⟨h, rfl, rfl⟩) fun row h => ⟨⟨row, h, rfl⟩, rfl, rfl⟩
  | saveTunedConfig config =>
    exact saved_of_rowSaved (.saveTunedConfig config)
      (sqlite_saveRow faults time _ rowToTunedConfig _)
      (fun h => ⟨rfl, h, rfl⟩) fun row h => ⟨rfl, ⟨row, h, rfl⟩, rfl⟩
  | saveAutopilotEvent event =>
    exact saved_of_rowSaved (.saveAutopilotEvent event)
      (sqlite_saveRow faults time _ rowToAutopilotEvent _)
      (fun h => ⟨rfl, rfl, h⟩) fun row h => ⟨rfl, rfl, row, h, rfl⟩
  | _ => cases hop

/-- A save through the wrapper, with the steps at which it raises in each of the stores. -/
structure SaveAttempt where
  time : String
  op : StorageCall
  isSave : Inserts op = true
  mysqlFaults : Faults := noFaults
  sqliteFaults : Faults := noFaults

section runs
variable (collate : String → String)

def attempt (a : SaveAttempt) (s : Pair Database Database) :
    Except Failure a.op.Reply × Pair Database Database :=
  FallbackStorage.serve (MySqlStore.handler collate a.mysqlFaults)
    (SqliteStore.store a.sqliteFaults).toHandler a.time a.op s

/-- One save as it happened. -/
structure SaveRecord where
  attempt : SaveAttempt
  before : Pair Database Database
  result : Except Failure attempt.op.Reply
  after : Pair Database Database

def saves : List SaveAttempt → Pair Database Database → List SaveRecord
  | [], _ => []
  | a :: rest, s =>
    let out := attempt collate a s
    ⟨a, s, out.1, out.2⟩ :: saves rest out.2

/-- What the save does to the MySQL database. -/
def onMySql (a : SaveAttempt) (db : Database) : Except Failure a.op.Reply × Database :=
  MySqlStore.serve collate a.mysqlFaults a.time a.op db

/-- A save that raises in MySQL leaves its tables alone, and one that is acknowledged is one
row in one of the two databases. -/
structure ExactlyOnce (r : SaveRecord) : Prop where
  whole : ∀ e, (onMySql collate r.attempt r.before.primary).1 = .error e →
    Unchanged r.before.primary (onMySql collate r.attempt r.before.primary).2
  once : ∀ record, r.result = .ok record →
    Gains r.attempt.op record r.before.primary r.after.primary ∧
        Unchanged r.before.fallback r.after.fallback ∨
      Unchanged r.before.primary r.after.primary ∧
        Gains r.attempt.op record r.before.fallback r.after.fallback

/-- The save commits in MySQL and raises afterwards. -/
def SaveAttempt.Strands (a : SaveAttempt) : Prop :=
  BreaksAfterCommit a.mysqlFaults (FitsColumns a.op)

lemma attempt_eq (a : SaveAttempt) (s : Pair Database Database) :
    attempt collate a s = Failover.call (onMySql collate a)
      (SqliteStore.serve a.sqliteFaults a.time a.op) s :=
  FallbackStorage.serve_eq _ _ _ _ _

lemma unchanged_refl (db : Database) : Unchanged db db := ⟨rfl, rfl, rfl⟩

theorem exactlyOnce_iff (a : SaveAttempt) (s : Pair Database Database) :
    ExactlyOnce collate ⟨a, s, (attempt collate a s).1, (attempt collate a s).2⟩ ↔ ¬ a.Strands := by
  have hmysql := mysql_saved collate a.mysqlFaults a.time a.isSave s.primary
  have hsqlite := sqlite_saved a.sqliteFaults a.time a.isSave s.fallback
  rw [attempt_eq, call]
  change Saved a.op s.primary a.Strands (onMySql collate a s.primary).1
    (onMySql collate a s.primary).2 at hmysql
  constructor
  · intro h hstrands
    have hwhole := h.whole
    simp only at hwhole
    generalize onMySql collate a s.primary = out at hmysql hwhole
    obtain ⟨result, db⟩ := out
    cases hmysql with
    | refused safe same => exact safe hstrands
    | stranded breaks gains => exact gains.changed (hwhole _ rfl)
    | saved safe gains => exact safe hstrands
  · intro hsafe
    cases hout : onMySql collate a s.primary with
    | mk result db =>
      rw [hout] at hmysql
      cases hmysql with
      | refused safe same =>
        refine ⟨fun e _ => by rw [hout]; exact same, fun record h => .inr ⟨same, ?_⟩⟩
        simp only at h ⊢
        generalize SqliteStore.serve a.sqliteFaults a.time a.op s.fallback = out at hsqlite h ⊢
        obtain ⟨result, db'⟩ := out
        cases hsqlite with
        | refused safe same => cases h
        | stranded breaks gains => exact breaks.elim
        | saved safe gains =>
          cases h
          exact gains
      | stranded breaks gains => exact absurd breaks hsafe
      | saved safe gains =>
        refine ⟨fun e h => ?_, fun record h => .inl ?_⟩
        · rw [hout] at h
          cases h
        · cases h
          exact ⟨gains, unchanged_refl _⟩

/-- Every save is all or nothing, and recorded once, exactly when no save is stranded. -/
theorem saves_exactlyOnce_iff (attempts : List SaveAttempt) (s : Pair Database Database) :
    (∀ r ∈ saves collate attempts s, ExactlyOnce collate r) ↔ ∀ a ∈ attempts, ¬ a.Strands := by
  induction attempts generalizing s with
  | nil => simp [saves]
  | cons a rest ih =>
    rw [saves, List.forall_mem_cons, List.forall_mem_cons, exactlyOnce_iff, ih]

end runs

/-- The connection is lost between the commit and the read: the save is acknowledged by the
other store, and both hold it. -/
theorem saves_exactlyOnce_fails :
    ¬ ∀ r ∈ saves id [⟨"2024-01-01 00:00:00",
        .saveRun ⟨none, "m", "ollama", "hello", 42, 2, some 21, none⟩, rfl,
        fun step => if step = .select then some (Failure.ofMessage "Lost connection to MySQL server")
          else none, noFaults⟩] ⟨{}, {}, false⟩, ExactlyOnce id r := by
  intro h
  have honce := (List.forall_mem_cons.mp h).1
  exact (exactlyOnce_iff _ _ _).mp honce ⟨by decide +kernel, rfl, rfl, rfl, .inl (by simp)⟩

end LlmMax.SaveAtomicity
