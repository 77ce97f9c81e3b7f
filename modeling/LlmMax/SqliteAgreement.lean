import LlmMax.FallbackStorage
import LlmMax.SqliteStore

/-! The SQLite store against the in-memory store: as long as the clock never goes back and
integers fit their columns, they give the same answers up to the creation times. -/
namespace LlmMax.SqliteAgreement
open Domain BenchMetrics Storage EffectProgram Failover FallbackStorage SqlTable SqlStorage SqliteStore

section undated

def undatedRun (r : RunRecord) : RunRecord := { r with createdAt := none }
def undatedConfig (c : TunedConfig) : TunedConfig := { c with createdAt := none }
def undatedEvent (e : AutopilotEvent) : AutopilotEvent := { e with createdAt := none }

/-- A reply without the creation times in it. -/
def undatedReply : (op : StorageCall) → op.Reply → op.Reply
  | .saveRun _ => undatedRun
  | .listRuns _ _ => List.map undatedRun
  | .saveTunedConfig _ => undatedConfig
  | .getTunedConfig _ => Option.map undatedConfig
  | .lockConfig _ => id
  | .saveAutopilotEvent _ => undatedEvent
  | .listAutopilotEvents _ _ => List.map undatedEvent

def undated (answer : Answer storage) : Answer storage :=
  ⟨answer.1, undatedReply answer.1.op answer.2⟩

end undated

/-- A list names a model or none, and its limit is not negative. -/
def Named : StorageCall → Prop
  | .listRuns modelId limit | .listAutopilotEvents modelId limit => modelId ≠ some "" ∧ 0 ≤ limit
  | _ => True

/-- The integers of the call fit an integer of the database. -/
def Fits : StorageCall → Prop
  | .saveRun record => FitsInteger record.tokensGenerated
  | .listRuns _ limit | .listAutopilotEvents _ limit => FitsInteger limit
  | _ => True

/-- No insertion is stamped with an earlier time than the one before. -/
def ClockSteady (calls : List TimedCall) : Prop :=
  (calls.filter fun c => Inserts c.op).Pairwise fun a b => a.time ≤ b.time

/-- A table holds the records of an in-memory list, in the same order and under the same keys. -/
structure Mirrors {α ρ : Type} (decode : Row String α → ρ) (undate : ρ → ρ)
    (t : Table String α) (saved : List ρ) : Prop where
  same : t.rows.map (fun row => undate (decode row)) = saved.map undate
  next : t.nextId = saved.length + 1
  steady : t.rows.Pairwise fun a b => a.createdAt ≤ b.createdAt

lemma Mirrors.insert {α ρ : Type} {decode : Row String α → ρ} {undate : ρ → ρ}
    {t : Table String α} {saved : List ρ} (h : Mirrors decode undate t saved)
    {time : String} {columns : α} {record : ρ} (htime : ∀ row ∈ t.rows, row.createdAt ≤ time)
    (hrecord : undate (decode ⟨saved.length + 1, time, columns⟩) = undate record) :
    Mirrors decode undate (t.insert time columns) (saved ++ [record]) where
  same := by simp [h.same, h.next, hrecord]
  next := by simp [Table.insert, h.next]
  steady := by
    refine List.pairwise_append.mpr ⟨h.steady, List.pairwise_singleton _ _, ?_⟩
    simpa using htime

/-- Whether a list asks for the records of a model. -/
def Asked (modelId : Option String) (m : String) : Bool := modelId = none ∨ modelId = some m

lemma matching_eq {α : Type} (modelOf : α → String) {modelId : Option String}
    (t : Table String α) (hmodel : modelId ≠ some "") :
    matching modelOf modelId t = t.rows.filter fun row => Asked modelId (modelOf row.columns) := by
  cases modelId with
  | none => simp [matching, Asked]
  | some m =>
    have hm : m ≠ "" := fun h => hmodel (congrArg some h)
    simp [matching, Asked, hm, eq_comm]

lemma listNewest_eq {α : Type} (modelOf : α → String) {modelId : Option String} {limit : ℤ}
    {t : Table String α} (hmodel : modelId ≠ some "") (hlimit : 0 ≤ limit)
    (hsteady : t.rows.Pairwise fun a b => a.createdAt ≤ b.createdAt) :
    listNewest modelOf modelId limit t =
      ((t.rows.filter fun row => Asked modelId (modelOf row.columns)).reverse).take limit.toNat := by
  rw [listNewest, limited, if_pos hlimit, matching_eq modelOf t hmodel,
    newestFirst_of_steady (t.ascending.filter _) (hsteady.filter _)]

/-- The newest rows of the table are the last records of the list. -/
lemma Mirrors.listed {α ρ : Type} {decode : Row String α → ρ} {undate : ρ → ρ}
    {t : Table String α} {saved : List ρ} (h : Mirrors decode undate t saved)
    {columnModel : α → String} (recordModel : ρ → String)
    (hcolumn : ∀ row : Row String α, recordModel (undate (decode row)) = columnModel row.columns)
    (hrecord : ∀ r, recordModel (undate r) = recordModel r)
    {modelId : Option String} {limit : ℤ} (hmodel : modelId ≠ some "") (hlimit : 0 ≤ limit) :
    ((listNewest columnModel modelId limit t).map decode).map undate =
      (upTo limit (saved.filter fun r => Asked modelId (recordModel r)).reverse).map undate := by
  have hrows : (t.rows.filter fun row => Asked modelId (columnModel row.columns)).map
      (fun row => undate (decode row)) =
        (saved.map undate).filter fun r => Asked modelId (recordModel r) := by
    rw [← h.same, List.filter_map]
    simp only [Function.comp_def, hcolumn]
  have hsaved : (saved.filter fun r => Asked modelId (recordModel r)).map undate =
      (saved.map undate).filter fun r => Asked modelId (recordModel r) := by
    rw [List.filter_map]
    simp only [Function.comp_def, hrecord]
  rw [listNewest_eq columnModel hmodel hlimit h.steady, upTo, if_pos hlimit, List.map_map, Function.comp_def,
    List.map_take, List.map_take, List.map_reverse, List.map_reverse, hrows, hsaved]

/-- The database holds what the in-memory store holds. -/
structure Represents (db : Database) (store : InMemoryStorage) : Prop where
  runs : Mirrors rowToRunRecord undatedRun db.runRecords store.savedRuns
  configs : Mirrors rowToTunedConfig undatedConfig db.tunedConfigs store.tunedConfigs
  events : Mirrors rowToAutopilotEvent undatedEvent db.autopilotEvents store.autopilotEvents

/-- No row is stamped with a later time. -/
def StampedBy (time : String) (db : Database) : Prop :=
  (∀ row ∈ db.runRecords.rows, row.createdAt ≤ time) ∧
    (∀ row ∈ db.tunedConfigs.rows, row.createdAt ≤ time) ∧
    ∀ row ∈ db.autopilotEvents.rows, row.createdAt ≤ time

section configs
variable {t : Table String ConfigColumns} {saved : List TunedConfig}

lemma newestOf_eq_last (h : Mirrors rowToTunedConfig undatedConfig t saved) (modelId : String) :
    newestOf id modelId t = t.lastInserted (ofModel id modelId) :=
  t.newest_eq_last_of_steady h.steady

lemma Mirrors.tuned (h : Mirrors rowToTunedConfig undatedConfig t saved) (modelId : String) :
    ((newestOf id modelId t).map rowToTunedConfig).map undatedConfig =
      (current modelId saved).map undatedConfig := by
  have hrows : (t.rows.filter fun row => ofModel id modelId row.columns).map
      (fun row => undatedConfig (rowToTunedConfig row)) =
        (saved.filter fun c => c.modelId = modelId).map undatedConfig := by
    have hfilter : (saved.filter fun c => c.modelId = modelId).map undatedConfig =
        (saved.map undatedConfig).filter fun c => c.modelId = modelId := by
      rw [List.filter_map]
      rfl
    rw [hfilter, ← h.same, List.filter_map]
    rfl
  rw [newestOf_eq_last h, Option.map_map, Table.lastInserted, ← List.getLast?_map, Function.comp_def,
    hrows, List.getLast?_map, current]

/-- Around the row of a model that was inserted last, the list splits as the table does. -/
lemma Mirrors.split (h : Mirrors rowToTunedConfig undatedConfig t saved) {modelId : String}
    {r : Row String ConfigColumns} (hlast : t.lastInserted (ofModel id modelId) = some r) :
    ∃ front back older c later, t.rows = front ++ r :: back ∧ saved = older ++ c :: later ∧
      older.map undatedConfig = front.map (fun row => undatedConfig (rowToTunedConfig row)) ∧
      undatedConfig c = undatedConfig (rowToTunedConfig r) ∧
      later.map undatedConfig = back.map (fun row => undatedConfig (rowToTunedConfig row)) ∧
      c.modelId = modelId ∧ ∀ d ∈ later, d.modelId ≠ modelId := by
  obtain ⟨front, back, hsplit, hmodel, hback⟩ := t.lastInserted_split hlast
  have hsame := h.same.symm
  rw [hsplit, List.map_append, List.map_cons] at hsame
  obtain ⟨older, newer, hsaved, holder, hnewer⟩ := List.map_eq_append_iff.mp hsame
  obtain ⟨c, later, rfl, hc, hlater⟩ := List.map_eq_cons_iff.mp hnewer
  refine ⟨front, back, older, c, later, hsplit, hsaved, holder, hc, hlater, ?_, ?_⟩
  · have hm : c.modelId = r.columns.modelId := congrArg TunedConfig.modelId hc
    rw [hm]
    simpa [ofModel] using hmodel
  · intro d hd
    have hmem : undatedConfig d ∈ back.map fun row => undatedConfig (rowToTunedConfig row) := by
      rw [← hlater]
      exact List.mem_map_of_mem hd
    obtain ⟨row, hrow, he⟩ := List.mem_map.mp hmem
    have hm : row.columns.modelId = d.modelId := congrArg TunedConfig.modelId he
    have hno := hback row hrow
    rw [← hm]
    simpa [ofModel] using hno

lemma Mirrors.lock (h : Mirrors rowToTunedConfig undatedConfig t saved) (modelId : String) :
    Mirrors rowToTunedConfig undatedConfig (lockNewestOf id modelId t)
      (lockNewest modelId saved.reverse).reverse := by
  have hnewest := newestOf_eq_last h modelId
  cases hlast : t.lastInserted (ofModel id modelId) with
  | none =>
    have hcurrent : current modelId saved = none := by
      have htuned := h.tuned modelId
      simpa [hnewest, hlast] using htuned.symm
    have hnone : ∀ c ∈ saved, c.modelId ≠ modelId := by
      simpa [current, List.filter_eq_nil_iff] using hcurrent
    rw [lockNewestOf_none id (hnewest.trans hlast), lockNewest_of_none (by simpa using hnone),
      List.reverse_reverse]
    exact h
  | some r =>
    obtain ⟨front, back, older, c, later, hsplit, hsaved, holder, hc, hlater, hcmodel, hlatermodel⟩ :=
      h.split hlast
    have hlocked : undatedConfig (rowToTunedConfig (lockRow r)) =
        undatedConfig { c with isLocked := true } :=
      congrArg (fun d : TunedConfig => { d with isLocked := true }) hc.symm
    rw [hsaved, lockNewest_split hcmodel hlatermodel]
    refine ⟨?_, ?_, ?_⟩
    · rw [rows_lockNewestOf_split id (hnewest.trans hlast) hsplit]
      simp [holder, hlater, hlocked]
    · have hnext := h.next
      rw [hsaved] at hnext
      simpa [lockNewestOf, Table.update] using hnext
    · simpa [lockNewestOf, List.pairwise_map] using h.steady

end configs

/-- Operations of the two stores agree, and keep the one a representation of the other. -/
theorem serve_agrees {db : Database} {memory : InMemoryStorage} (h : Represents db memory)
    {c : TimedCall} (hnamed : Named c.op) (hfits : Fits c.op)
    (htime : Inserts c.op → StampedBy c.time db) :
    ∃ reply db', SqliteStore.serve noFaults c.time c.op db = (.ok reply, db') ∧
      undatedReply c.op reply = undatedReply c.op (InMemoryStorage.serve c.op memory).1 ∧
      Represents db' (InMemoryStorage.serve c.op memory).2 := by
  obtain ⟨time, op⟩ := c
  cases op with
  | saveRun record =>
    have hstamp := (htime rfl).1
    have hrecord : undatedRun (rowToRunRecord ⟨memory.savedRuns.length + 1, time, runColumns record⟩) =
        undatedRun (memory.saveRun record).1 := rfl
    refine ⟨_, _, saveRun_ok hfits time db, ?_, h.runs.insert hstamp hrecord, h.configs, h.events⟩
    rw [h.runs.next]
    exact hrecord
  | listRuns modelId limit =>
    have hlist : SqliteStore.listRuns modelId limit db =
        .ok ((listNewest RunColumns.modelId modelId limit db.runRecords).map rowToRunRecord) := by
      rw [SqliteStore.listRuns, bindInteger_ok hfits]
      rfl
    refine ⟨_, db, congrArg (Prod.mk · db) hlist, ?_, h⟩
    exact h.runs.listed RunRecord.modelId (fun _ => rfl) (fun _ => rfl)
      hnamed.1 hnamed.2
  | saveTunedConfig config =>
    have hstamp := (htime rfl).2.1
    have hrecord : undatedConfig
        (rowToTunedConfig ⟨memory.tunedConfigs.length + 1, time, tunedColumns config⟩) =
        undatedConfig (memory.saveTunedConfig config).1 := rfl
    refine ⟨_, _, saveTunedConfig_ok config time db, ?_, h.runs,
      h.configs.insert hstamp hrecord, h.events⟩
    rw [h.configs.next]
    exact hrecord
  | getTunedConfig modelId => exact ⟨_, db, rfl, h.configs.tuned modelId, h⟩
  | lockConfig modelId =>
    exact ⟨(), SqliteStore.lockConfig modelId db, rfl, rfl, h.runs, h.configs.lock modelId, h.events⟩
  | saveAutopilotEvent event =>
    have hstamp := (htime rfl).2.2
    have hrecord : undatedEvent
        (rowToAutopilotEvent ⟨memory.autopilotEvents.length + 1, time, eventColumns event⟩) =
        undatedEvent (memory.saveAutopilotEvent event).1 := rfl
    refine ⟨_, _, saveAutopilotEvent_ok event time db, ?_, h.runs, h.configs,
      h.events.insert hstamp hrecord⟩
    rw [h.events.next]
    exact hrecord
  | listAutopilotEvents modelId limit =>
    have hlist : SqliteStore.listAutopilotEvents modelId limit db = .ok
        ((listNewest EventColumns.modelId modelId limit db.autopilotEvents).map rowToAutopilotEvent) := by
      rw [SqliteStore.listAutopilotEvents, bindInteger_ok hfits]
      rfl
    refine ⟨_, db, congrArg (Prod.mk · db) hlist, ?_, h⟩
    exact h.events.listed AutopilotEvent.modelId (fun _ => rfl) (fun _ => rfl)
      hnamed.1 hnamed.2

lemma stamped_insert {α : Type} {t : Table String α} {time later : String} {columns : α}
    (h : ∀ row ∈ t.rows, row.createdAt ≤ later) (htime : time ≤ later) :
    ∀ row ∈ (t.insert time columns).rows, row.createdAt ≤ later := by
  intro row hrow
  rcases List.mem_append.mp hrow with hrow | hrow
  · exact h row hrow
  · rw [List.mem_singleton.mp hrow]
    exact htime

lemma stamped_serve {db : Database} {later : String} (h : StampedBy later db) {c : TimedCall}
    (hfits : Inserts c.op → Fits c.op) (htime : Inserts c.op → c.time ≤ later) :
    StampedBy later (SqliteStore.serve noFaults c.time c.op db).2 := by
  obtain ⟨hruns, hconfigs, hevents⟩ := h
  obtain ⟨time, op⟩ := c
  cases op with
  | saveRun record =>
    simp only [SqliteStore.serve, saveRun_ok (hfits rfl)]
    exact ⟨stamped_insert hruns (htime rfl), hconfigs, hevents⟩
  | saveTunedConfig config =>
    simp only [SqliteStore.serve, saveTunedConfig_ok]
    exact ⟨hruns, stamped_insert hconfigs (htime rfl), hevents⟩
  | saveAutopilotEvent event =>
    simp only [SqliteStore.serve, saveAutopilotEvent_ok]
    exact ⟨hruns, hconfigs, stamped_insert hevents (htime rfl)⟩
  | lockConfig modelId =>
    refine ⟨hruns, ?_, hevents⟩
    simpa [SqliteStore.serve, SqliteStore.lockConfig, SqlStorage.lockConfig, lockNewestOf] using hconfigs
  | _ => exact ⟨hruns, hconfigs, hevents⟩

/-- Replaying the same calls on the two stores gives the same answers. -/
theorem replay_agrees {calls : List TimedCall} {db : Database} {memory : InMemoryStorage}
    (h : Represents db memory) (hnamed : ∀ c ∈ calls, Named c.op) (hfits : ∀ c ∈ calls, Fits c.op)
    (hsteady : ClockSteady calls)
    (hstamp : ∀ c ∈ calls, Inserts c.op → StampedBy c.time db) :
    ∃ answers db' answers' memory', replay (store noFaults).toHandler calls db = .ok (answers, db') ∧
      replay inMemory.toHandler calls memory = .ok (answers', memory') ∧
      answers.map undated = answers'.map undated ∧ Represents db' memory' := by
  induction calls generalizing db memory with
  | nil => exact ⟨[], db, [], memory, rfl, rfl, rfl, h⟩
  | cons c calls ih =>
    obtain ⟨hnamed₀, hnamed⟩ := List.forall_mem_cons.mp hnamed
    obtain ⟨hfits₀, hfits⟩ := List.forall_mem_cons.mp hfits
    obtain ⟨hstamp₀, hstamp⟩ := List.forall_mem_cons.mp hstamp
    obtain ⟨reply, db', hserve, hreply, hrep⟩ := serve_agrees h hnamed₀ hfits₀ hstamp₀
    have hlater : ∀ d ∈ calls, Inserts c.op → Inserts d.op → c.time ≤ d.time := by
      intro d hd hc hin
      rw [ClockSteady, List.filter_cons, if_pos hc] at hsteady
      exact (List.pairwise_cons.mp hsteady).1 d (List.mem_filter.mpr ⟨hd, hin⟩)
    have hrest : ClockSteady calls := List.Pairwise.sublist ((List.sublist_cons_self _ _).filter _) hsteady
    have hstamp' : ∀ d ∈ calls, Inserts d.op → StampedBy d.time db' := by
      intro d hd hin
      have hstamped := stamped_serve (hstamp d hd hin) (fun _ => hfits₀) fun hc => hlater d hd hc hin
      rwa [hserve] at hstamped
    obtain ⟨answers, db'', answers', memory', hsql, hmem, heq, hrep'⟩ :=
      ih hrep hnamed hfits hrest hstamp'
    refine ⟨_, db'', _, memory', replay_cons hserve hsql, replay_cons rfl hmem, ?_, hrep'⟩
    rw [List.map_cons, List.map_cons, heq]
    exact congrArg (· :: _) (congrArg (Sigma.mk c) hreply)

/-- The in-memory store ends as the calls leave it. -/
lemma replay_held {calls : List TimedCall} {memory memory' : InMemoryStorage}
    {answers : List (Answer storage)}
    (h : replay inMemory.toHandler calls memory = .ok (answers, memory')) :
    memory' = held calls memory := by
  induction calls generalizing memory answers with
  | nil =>
    obtain ⟨-, rfl⟩ : [] = answers ∧ memory = memory' := by simpa [replay] using h
    rfl
  | cons c calls ih =>
    obtain ⟨reply, middle, rest, hserve, hrest, -⟩ := replay_cons_inv h
    obtain rfl : (InMemoryStorage.serve c.op memory).2 = middle := congrArg Prod.snd hserve
    exact ih hrest

/-- What the storage interface promises about the tuned configs of a model. -/
structure Promises (calls : List TimedCall) (db : Database) (modelId : String) : Prop where
  get_last : (SqliteStore.getTunedConfig modelId db).map savedAs =
    ((savesOf modelId calls).getLast?).map savedAs
  lock_last : (SqliteStore.lockConfig modelId db).tunedConfigs.rows = db.tunedConfigs.rows.map
    fun row => if db.tunedConfigs.lastInserted (ofModel id modelId) = some row then lockRow row else row
  lock_others : (SqliteStore.lockConfig modelId db).runRecords = db.runRecords ∧
    (SqliteStore.lockConfig modelId db).autopilotEvents = db.autopilotEvents
  lock_again : SqliteStore.lockConfig modelId (SqliteStore.lockConfig modelId db) =
    SqliteStore.lockConfig modelId db
  lock_absent : (∀ row ∈ db.tunedConfigs.rows, row.columns.modelId ≠ modelId) →
    SqliteStore.lockConfig modelId db = db

lemma promises_of_represents {calls : List TimedCall} {db : Database} {memory : InMemoryStorage}
    {answers : List (Answer storage)} (h : Represents db memory)
    (hmem : replay inMemory.toHandler calls {} = .ok (answers, memory)) (modelId : String) :
    Promises calls db modelId where
  get_last := by
    have hcurrent := held_current modelId calls {}
    rw [← replay_held hmem] at hcurrent
    have htuned := congrArg (Option.map savedAs) (h.configs.tuned modelId)
    have hempty : ((({} : InMemoryStorage).getTunedConfig modelId).map savedAs) = none := rfl
    simp only [Option.map_map] at htuned
    rw [hempty, Option.or_none] at hcurrent
    rw [← hcurrent]
    simp only [SqliteStore.getTunedConfig, SqlStorage.getTunedConfig, Option.map_map]
    exact htuned
  lock_last := by
    have hnewest := newestOf_eq_last h.configs modelId
    simp only [SqliteStore.lockConfig, SqlStorage.lockConfig]
    cases hlast : db.tunedConfigs.lastInserted (ofModel id modelId) with
    | none =>
      rw [lockNewestOf_none id (hnewest.trans hlast)]
      simp
    | some r =>
      rw [rows_lockNewestOf id (hnewest.trans hlast)]
      simp [eq_comm]
  lock_others := ⟨rfl, rfl⟩
  lock_again := congrArg (fun t => { db with tunedConfigs := t }) (lockNewestOf_lockNewestOf id modelId _)
  lock_absent hnone := by
    have hnewest : newestOf id modelId db.tunedConfigs = none := by
      rw [newestOf, Table.newest_eq_none_iff]
      simpa [ofModel] using hnone
    exact congrArg (fun t => { db with tunedConfigs := t }) (lockNewestOf_none id hnewest)

/-- From empty stores, the calls get the same answers up to the creation times, and the
promises of the interface hold at the end. -/
def Agree (calls : List TimedCall) : Prop :=
  ∃ answers db answers' memory, replay (store noFaults).toHandler calls {} = .ok (answers, db) ∧
    replay inMemory.toHandler calls {} = .ok (answers', memory) ∧
    answers.map undated = answers'.map undated ∧ ∀ modelId, Promises calls db modelId

/-- The two stores implement the same storage on every sequence of calls whose integers fit. -/
theorem sqlite_agrees (calls : List TimedCall) (hnamed : ∀ c ∈ calls, Named c.op)
    (hfits : ∀ c ∈ calls, Fits c.op) (hsteady : ClockSteady calls) : Agree calls := by
  have hempty : Represents {} {} := ⟨⟨rfl, rfl, .nil⟩, ⟨rfl, rfl, .nil⟩, ⟨rfl, rfl, .nil⟩⟩
  have hstamp : ∀ c ∈ calls, Inserts c.op → StampedBy c.time {} :=
    fun c _ _ => ⟨by simp, by simp, by simp⟩
  obtain ⟨answers, db, answers', memory, hsql, hmem, heq, hrep⟩ :=
    replay_agrees hempty hnamed hfits hsteady hstamp
  exact ⟨answers, db, answers', memory, hsql, hmem, heq, promises_of_represents hrep hmem⟩

theorem sqlite_agrees_ties : Agree [
    ⟨"2024-01-01 00:00:00", .saveTunedConfig { modelId := "m", config := Config.ofCtx 2048 }⟩,
    ⟨"2024-01-01 00:00:00", .saveTunedConfig { modelId := "other", config := ∅ }⟩,
    ⟨"2024-01-01 00:00:00", .saveTunedConfig { modelId := "m", config := Config.ofCtx 4096 }⟩,
    ⟨"2023-12-31 23:59:59", .lockConfig "m"⟩,
    ⟨"2024-01-01 00:00:01", .saveRun ⟨none, "m", "ollama", "hello", 42, 2, some 21, none⟩⟩,
    ⟨"2024-01-01 00:00:01", .listRuns (some "m") 20⟩] :=
  sqlite_agrees _ (by simp [Named]) (by simp [Fits, FitsInteger])
    (by unfold ClockSteady; decide +kernel)

/-- A limit beyond 64 bits is an error of the database and none of the in-memory store. -/
theorem sqlite_agrees_fails :
    let calls : List TimedCall := [⟨"2024-01-01 00:00:00", .listRuns none (2 ^ 63)⟩]
    (∀ c ∈ calls, Named c.op) ∧ ClockSteady calls ∧ ¬ Agree calls := by
  refine ⟨by simp [Named], by simp [ClockSteady, Inserts], ?_⟩
  intro hagree
  obtain ⟨answers, db, -, -, hsql, -⟩ := hagree
  have hraise : ∃ e, replay (store noFaults).toHandler
      [⟨"2024-01-01 00:00:00", .listRuns none (2 ^ 63)⟩] {} = .error e := ⟨_, rfl⟩
  obtain ⟨e, he⟩ := hraise
  rw [he] at hsql
  cases hsql

end LlmMax.SqliteAgreement
