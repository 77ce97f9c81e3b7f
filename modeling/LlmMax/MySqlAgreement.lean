import LlmMax.History
import LlmMax.SaveAtomicity
import LlmMax.SqliteAgreement

/-! The MySQL store against the SQLite store, call by call on databases that were empty at first.
The one compares model ids by their collation and rounds durations and rates; the other does
neither. -/
namespace LlmMax.MySqlAgreement
open Domain BenchMetrics Storage EffectProgram History SqlTable SqlStorage SqliteAgreement
open SqliteStore (FitsInteger)
open MySqlStore (HasDecimals)
open SaveAtomicity (FitsColumns)

/-- An operation, with the times on the clocks of the two databases. -/
structure TwinCall where
  op : StorageCall
  sqliteTime : String
  mysqlTime : String

section stores

def onSqlite (c : TwinCall) (db : Database) : Except Failure c.op.Reply × Database :=
  SqliteStore.serve noFaults c.sqliteTime c.op db

def onMySql (collate : String → String) (c : TwinCall) (db : Database) :
    Except Failure c.op.Reply × Database :=
  MySqlStore.serve collate noFaults c.mysqlTime c.op db

def sqliteAfter (past : List TwinCall) : Database := past.foldl (fun db c => (onSqlite c db).2) {}

def mysqlAfter (collate : String → String) (past : List TwinCall) : Database :=
  past.foldl (fun db c => (onMySql collate c db).2) {}

/-- Both raise, or both return, and then related values. -/
def Alike {β : Type} (R : β → β → Prop) : Except Failure β → Except Failure β → Prop
  | .ok value, .ok value' => R value value'
  | .error _, .error _ => True
  | _, _ => False

/-- The replies are the same up to the creation times, if there are any. -/
def SameReply (op : StorageCall) : Except Failure op.Reply → Except Failure op.Reply → Prop :=
  Alike fun reply reply' => undatedReply op reply = undatedReply op reply'

/-- What is returned, and what is locked, was saved under the model id of the call. -/
def OwnOnly : (op : StorageCall) → Except Failure op.Reply → Database → Database → Prop
  | .listRuns modelId _, reply, _, _ => ∀ m, modelId = some m → ∀ runs, reply = .ok runs →
    ∀ run ∈ runs, run.modelId = m
  | .getTunedConfig m, reply, _, _ => ∀ config, reply = .ok (some config) → config.modelId = m
  | .lockConfig m, _, db, db' => ∀ row ∈ db.tunedConfigs.rows, row.columns.modelId ≠ m →
    row ∈ db'.tunedConfigs.rows
  | _, _, _, _ => True

/-- After the past calls, the two stores serve the call alike. -/
def Interchangeable (collate : String → String) (past : List TwinCall) (c : TwinCall) : Prop :=
  let served := onMySql collate c (mysqlAfter collate past)
  SameReply c.op (onSqlite c (sqliteAfter past)).1 served.1 ∧
    OwnOnly c.op served.1 (mysqlAfter collate past) served.2

end stores

section distinct
variable (collate : String → String)

/-- The model ids under which runs were saved. -/
def runIds (past : List TwinCall) : List String :=
  past.filterMap fun c => match c.op with
    | .saveRun record => some record.modelId
    | _ => none

def eventIds (past : List TwinCall) : List String :=
  past.filterMap fun c => match c.op with
    | .saveAutopilotEvent event => some event.modelId
    | _ => none

/-- One register for each collation of model ids: the config saved last, and whether it is
locked. -/
def register (m : String) (past : List TwinCall) : Option TunedConfig :=
  past.foldl (fun current c => match c.op with
    | .saveTunedConfig config => if collate config.modelId = collate m then some config else current
    | .lockConfig modelId =>
      if collate modelId = collate m then current.map fun c => { c with isLocked := true } else current
    | _ => current) none

/-- The records saved last, up to the limit, under ids with the collation of the given id were
saved under that id. -/
def Unmixed (modelId : Option String) (limit : ℤ) (ids : List String) : Prop :=
  ∀ m, modelId = some m → ∀ id ∈ (ids.filter fun id => collate id = collate m).reverse.take
    limit.toNat, id = m

/-- Numbers have few enough digits, limits fit 64 bits with a sign or without one in neither
store, and no other model id of the same collation has got in between. -/
def Distinct (past : List TwinCall) (c : TwinCall) : Prop :=
  match c.op with
  | .saveRun record => HasDecimals 3 record.totalDurationS ∧
    ∀ rate, record.tokensPerSec = some rate → HasDecimals 2 rate
  | .listRuns modelId limit =>
    limit < 2 ^ 63 ∧ Unmixed collate modelId limit (runIds past) ∨ 2 ^ 64 ≤ limit
  | .listAutopilotEvents modelId limit =>
    limit < 2 ^ 63 ∧ Unmixed collate modelId limit (eventIds past) ∨ 2 ^ 64 ≤ limit
  | .getTunedConfig m => ∀ config, register collate m past = some config → config.modelId = m
  | .lockConfig m => ∀ config, register collate m past = some config →
    config.modelId = m ∨ config.isLocked = true
  | .saveTunedConfig _ | .saveAutopilotEvent _ => True

end distinct

/-- No insertion is stamped with an earlier time than the one before. -/
def Steady (clock : TwinCall → String) (calls : List TwinCall) : Prop :=
  (calls.filter fun c => Inserts c.op).Pairwise fun a b => clock a ≤ clock b

/-- A row without its creation time. -/
def entry {α : Type} (row : Row String α) : ℕ × α := (row.id, row.columns)

/-- Two tables with the same rows up to the creation times, under the model ids given. -/
structure SameRows {α : Type} (modelOf : α → String) (t t' : Table String α) (ids : List String) :
    Prop where
  same : t.rows.map entry = t'.rows.map entry
  next : t.nextId = t'.nextId
  steady : t.rows.Pairwise fun a b => a.createdAt ≤ b.createdAt
  steady' : t'.rows.Pairwise fun a b => a.createdAt ≤ b.createdAt
  ids_eq : t'.rows.map (fun row => modelOf row.columns) = ids

section rows
variable {α ρ : Type} {modelOf : α → String} {t t' : Table String α} {ids : List String}

lemma SameRows.insert (h : SameRows modelOf t t' ids) {time time' : String}
    (htime : ∀ row ∈ t.rows, row.createdAt ≤ time) (htime' : ∀ row ∈ t'.rows, row.createdAt ≤ time')
    (columns : α) :
    SameRows modelOf (t.insert time columns) (t'.insert time' columns) (ids ++ [modelOf columns]) where
  same := by simp [h.same, h.next, entry]
  next := by simp [Table.insert, h.next]
  steady := by
    refine List.pairwise_append.mpr ⟨h.steady, List.pairwise_singleton _ _, ?_⟩
    simpa using htime
  steady' := by
    refine List.pairwise_append.mpr ⟨h.steady', List.pairwise_singleton _ _, ?_⟩
    simpa using htime'
  ids_eq := by simp [h.ids_eq]

lemma SameRows.taken (h : SameRows modelOf t t' ids) (p : String → Bool) (n : ℕ) :
    ((t.rows.filter fun row => p (modelOf row.columns)).reverse.take n).map entry =
      ((t'.rows.filter fun row => p (modelOf row.columns)).reverse.take n).map entry := by
  have hfilter (rows : List (Row String α)) :
      (rows.filter fun row => p (modelOf row.columns)).map entry =
        (rows.map entry).filter fun e => p (modelOf e.2) := by
    rw [List.filter_map]
    rfl
  rw [List.map_take, List.map_take, List.map_reverse, List.map_reverse, hfilter, hfilter, h.same]

/-- The rows that MySQL lists, by their model ids. -/
lemma SameRows.listed_mysql (h : SameRows modelOf t t' ids) (collate : String → String) {m : String}
    (hm : m ≠ "") (n : ℕ) :
    (newestFirst (MySqlStore.matching collate modelOf (some m) t')).take n =
        (t'.rows.filter fun row => collate (modelOf row.columns) = collate m).reverse.take n ∧
      ((newestFirst (MySqlStore.matching collate modelOf (some m) t')).take n).map
        (fun row => modelOf row.columns) = (ids.filter fun id => collate id = collate m).reverse.take n := by
  have hmatching : newestFirst (MySqlStore.matching collate modelOf (some m) t') =
      (t'.rows.filter fun row => collate (modelOf row.columns) = collate m).reverse := by
    unfold MySqlStore.matching
    dsimp only
    rw [if_neg hm]
    exact newestFirst_of_steady (t'.ascending.filter _) (h.steady'.filter _)
  rw [hmatching]
  refine ⟨rfl, ?_⟩
  rw [List.map_take, List.map_reverse, ← h.ids_eq, List.filter_map]
  rfl

/-- What is left of a record without its creation time is decided by the entry of its row. -/
lemma undate_congr {decode : Row String α → ρ} {undate : ρ → ρ}
    (hentry : ∀ row row' : Row String α, entry row = entry row' →
      undate (decode row) = undate (decode row')) {rows rows' : List (Row String α)}
    (h : rows.map entry = rows'.map entry) :
    (rows.map decode).map undate = (rows'.map decode).map undate := by
  have hfactor (rows : List (Row String α)) : (rows.map decode).map undate =
      (rows.map entry).map fun e => undate (decode ⟨e.1, "", e.2⟩) := by
    rw [List.map_map, List.map_map]
    exact List.map_congr_left fun row _ => hentry _ _ rfl
  rw [hfactor, hfactor, h]

/-- A list of MySQL is unmixed if its rows are of the model it is asked for. -/
lemma SameRows.unmixed_iff (h : SameRows modelOf t t' ids) (collate : String → String) {m : String}
    (hm : m ≠ "") (limit : ℤ) :
    Unmixed collate (some m) limit ids ↔
      ∀ row ∈ (newestFirst (MySqlStore.matching collate modelOf (some m) t')).take limit.toNat,
        modelOf row.columns = m := by
  unfold Unmixed
  rw [← List.forall_mem_map (P := fun id => id = m), (h.listed_mysql collate hm limit.toNat).2]
  simp

/-- The newest rows that compare as a model are its own when they are its own. -/
lemma take_own (collate : String → String) {m : String} {n : ℕ}
    (h : ∀ row ∈ (t'.rows.filter fun row => collate (modelOf row.columns) = collate m).reverse.take n,
      modelOf row.columns = m) :
    (t'.rows.filter fun row => collate (modelOf row.columns) = collate m).reverse.take n =
      (t'.rows.filter fun row => Asked (some m) (modelOf row.columns)).reverse.take n := by
  rw [← take_filter_of_all (p := fun row => modelOf row.columns = m) (by simpa using h),
    List.filter_reverse, List.filter_filter]
  congr 3
  funext row
  by_cases hrow : modelOf row.columns = m
  · simp [Asked, hrow]
  · simp [Asked, hrow, Ne.symm hrow]

/-- Lists of the two stores agree exactly if the one of MySQL holds the id it asks for only. -/
lemma SameRows.listed_iff (h : SameRows modelOf t t' ids) (collate : String → String)
    {decode : Row String α → ρ} {undate : ρ → ρ} (recordModel : ρ → String)
    (hentry : ∀ row row' : Row String α, entry row = entry row' →
      undate (decode row) = undate (decode row'))
    (hmodel : ∀ row : Row String α, recordModel (undate (decode row)) = modelOf row.columns)
    {modelId : Option String} {limit : ℤ} (hnamed : modelId ≠ some "") (hlimit : 0 ≤ limit) :
    ((SqliteStore.listNewest modelOf modelId limit t).map decode).map undate =
      (((newestFirst (MySqlStore.matching collate modelOf modelId t')).take limit.toNat).map
        decode).map undate ↔ Unmixed collate modelId limit ids := by
  rw [listNewest_eq modelOf hnamed hlimit h.steady]
  cases modelId with
  | none =>
    have hall : newestFirst (MySqlStore.matching collate modelOf none t') = t'.rows.reverse :=
      newestFirst_of_steady t'.ascending h.steady'
    rw [hall]
    refine iff_of_true (undate_congr hentry ?_) fun m hm => by cases hm
    simpa [Asked] using h.taken (fun _ => true) limit.toNat
  | some m =>
    have hm : m ≠ "" := fun hm => hnamed (congrArg some hm)
    rw [h.unmixed_iff collate hm, (h.listed_mysql collate hm limit.toNat).1]
    constructor
    · intro heq row hrow
      have hmem : undate (decode row) ∈ (((t.rows.filter fun row =>
          Asked (some m) (modelOf row.columns)).reverse.take limit.toNat).map decode).map undate := by
        rw [heq]
        exact List.mem_map_of_mem (List.mem_map_of_mem hrow)
      rw [List.map_map] at hmem
      obtain ⟨row', hrow', hsame⟩ := List.mem_map.mp hmem
      have hasked := (List.mem_filter.mp (List.mem_reverse.mp (List.mem_of_mem_take hrow'))).2
      rw [← hmodel, ← hsame, Function.comp_apply, hmodel]
      simpa [Asked, eq_comm] using hasked
    · intro hown
      rw [take_own collate hown]
      exact undate_congr hentry (h.taken (Asked (some m)) limit.toNat)

end rows

/-- For each collation the two tables have the same newest row, and it is in the register. -/
structure SameNewest (collate : String → String) (past : List TwinCall)
    (t t' : Table String ConfigColumns) : Prop where
  next : t.nextId = t'.nextId
  newest : ∀ m, (newestOf collate m t).map entry = (newestOf collate m t').map entry
  registered : ∀ m, (newestOf collate m t').map Row.columns =
    (register collate m past).map tunedColumns

section configs
variable {collate : String → String} {past : List TwinCall} {t t' : Table String ConfigColumns}
  {m : String}

/-- If the newest row of a collation is of the model, it is the newest of the model. -/
lemma newestOf_of_own {r : Row String ConfigColumns} (h : newestOf collate m t = some r)
    (hown : r.columns.modelId = m) : newestOf id m t = some r := by
  obtain ⟨hr, -, hmax⟩ := t.newest_eq_some_iff.mp h
  apply t.newest_eq_some_iff.mpr
  refine ⟨hr, by simpa [ofModel] using hown, ?_⟩
  intro r' hr' hm
  have hsame : r'.columns.modelId = m := by simpa [ofModel] using hm
  exact hmax r' hr' (by simp [ofModel, hsame])

lemma newestOf_of_none (h : newestOf collate m t = none) : newestOf id m t = none := by
  have hnone := t.newest_eq_none_iff.mp h
  apply t.newest_eq_none_iff.mpr
  intro r hr
  have hother := hnone r hr
  simp only [ofModel, decide_eq_false_iff_not, id] at hother ⊢
  intro hsame
  exact hother (congrArg collate hsame)

/-- Either no config of the collation was saved, or the same row is the newest in both tables. -/
lemma SameNewest.cases (h : SameNewest collate past t t') (m : String) :
    (newestOf collate m t = none ∧ newestOf collate m t' = none ∧ register collate m past = none) ∨
    ∃ r r' config, newestOf collate m t = some r ∧ newestOf collate m t' = some r' ∧
      entry r = entry r' ∧ register collate m past = some config ∧ r'.columns = tunedColumns config := by
  have hnewest := h.newest m
  have hregister := h.registered m
  cases hr' : newestOf collate m t' with
  | none =>
    rw [hr'] at hnewest hregister
    exact .inl ⟨Option.map_eq_none_iff.mp hnewest, rfl, Option.map_eq_none_iff.mp hregister.symm⟩
  | some r' =>
    rw [hr'] at hnewest hregister
    obtain ⟨r, hr, hentry⟩ := Option.map_eq_some_iff.mp hnewest
    obtain ⟨config, hconfig, hcolumns⟩ := Option.map_eq_some_iff.mp hregister.symm
    exact .inr ⟨r, r', config, hr, rfl, hentry, hconfig, hcolumns.symm⟩

lemma register_append (m : String) (past : List TwinCall) (c : TwinCall) :
    register collate m (past ++ [c]) = match c.op with
      | .saveTunedConfig config =>
        if collate config.modelId = collate m then some config else register collate m past
      | .lockConfig modelId =>
        if collate modelId = collate m then
          (register collate m past).map fun c => { c with isLocked := true }
        else register collate m past
      | _ => register collate m past := by
  unfold register
  rw [List.foldl_append]
  rfl

lemma SameNewest.save (h : SameNewest collate past t t') {config : TunedConfig} {c : TwinCall}
    (hc : c.op = .saveTunedConfig config) {time time' : String}
    (htime : ∀ row ∈ t.rows, row.createdAt ≤ time) (htime' : ∀ row ∈ t'.rows, row.createdAt ≤ time') :
    SameNewest collate (past ++ [c]) (t.insert time (tunedColumns config))
      (t'.insert time' (tunedColumns config)) := by
  have hmodel (m : String) : ofModel collate m (tunedColumns config) = true ↔
      collate config.modelId = collate m := decide_eq_true_iff
  constructor
  · exact congrArg (· + 1) h.next
  · intro m
    unfold newestOf
    rw [t.newest_insert_latest htime, t'.newest_insert_latest htime', h.next]
    split_ifs
    · rfl
    · exact h.newest m
  · intro m
    unfold newestOf
    rw [t'.newest_insert_latest htime', register_append, hc]
    dsimp only
    simp only [hmodel]
    split_ifs
    · rfl
    · exact h.registered m

/-- The newest config is the same in both stores exactly if that of the collation is the
model's own. -/
lemma SameNewest.get_iff (h : SameNewest collate past t t') (m : String) :
    (((newestOf id m t).map rowToTunedConfig).map undatedConfig =
        ((newestOf collate m t').map rowToTunedConfig).map undatedConfig ∧
      ∀ config, (newestOf collate m t').map rowToTunedConfig = some config → config.modelId = m) ↔
    ∀ config, register collate m past = some config → config.modelId = m := by
  rcases h.cases m with ⟨hnone, hnone', hempty⟩ | ⟨r, r', config, hr, hr', hentry, hconfig, hcolumns⟩
  · rw [newestOf_of_none hnone, hnone', hempty]
    simp
  · have hmodel : r'.columns.modelId = config.modelId := by
      rw [hcolumns]
      rfl
    rw [hr', hconfig]
    constructor
    · intro hserved found hfound
      cases hfound
      rw [← hmodel]
      exact hserved.2 _ rfl
    · intro hown
      have hown' : r'.columns.modelId = m := hmodel.trans (hown config rfl)
      have hsame : r.columns = r'.columns := congrArg Prod.snd hentry
      rw [newestOf_of_own hr (hsame ▸ hown')]
      constructor
      · have hid : r.id = r'.id := congrArg Prod.fst hentry
        simp only [Option.map_some, undatedConfig, rowToTunedConfig, hid, hsame]
      · intro found hfound
        cases hfound
        exact hown'

lemma entry_lockRow {r r' : Row String ConfigColumns} (h : entry r = entry r') :
    entry (lockRow r) = entry (lockRow r') := by
  obtain ⟨hid, hcolumns⟩ := Prod.mk.inj h
  simp only [entry, lockRow, hid, hcolumns]

lemma lockRow_of_locked {r : Row String ConfigColumns} (h : r.columns.isLocked = true) :
    lockRow r = r := by
  obtain ⟨i, time, modelId, runtime, config, locked⟩ := r
  cases h
  rfl

/-- A lock leaves the rows of other models alone exactly if the newest row of the collation is
the model's own or locked already. -/
lemma SameNewest.lock_iff (h : SameNewest collate past t t') (m : String) :
    (∀ row ∈ t'.rows, row.columns.modelId ≠ m → row ∈ (lockNewestOf collate m t').rows) ↔
    ∀ config, register collate m past = some config → config.modelId = m ∨ config.isLocked = true := by
  rcases h.cases m with ⟨-, hnone', hempty⟩ | ⟨r, r', config, -, hr', -, hconfig, hcolumns⟩
  · rw [lockNewestOf_none collate hnone', hempty]
    exact iff_of_true (fun row hrow _ => hrow) fun _ hfound => by cases hfound
  · obtain ⟨hmem, -⟩ := newestOf_mem collate hr'
    rw [rows_lockNewestOf collate hr', hconfig]
    have hfields : r'.columns.modelId = config.modelId ∧ r'.columns.isLocked = config.isLocked := by
      rw [hcolumns]
      exact ⟨rfl, rfl⟩
    constructor
    · intro hkept found hfound
      cases hfound
      rw [← hfields.1, ← hfields.2, or_iff_not_imp_left]
      intro hother
      obtain ⟨row, hrow, heq⟩ := List.mem_map.mp (hkept r' hmem hother)
      split_ifs at heq with he
      · rw [← heq]
        rfl
      · exact absurd heq he
    · intro hown row hrow hother
      refine List.mem_map.mpr ⟨row, hrow, ?_⟩
      split_ifs with he
      · subst he
        apply lockRow_of_locked
        rw [hfields.2]
        exact (hown config rfl).resolve_left fun hm => hother (hfields.1.trans hm)
      · rfl

lemma newestOf_congr {m' : String} (h : collate m' = collate m) :
    newestOf collate m' t = newestOf collate m t := by
  unfold newestOf ofModel
  rw [h]

lemma register_congr {m' : String} (h : collate m' = collate m) :
    register collate m' past = register collate m past := by
  unfold register
  rw [h]

lemma not_newestOf {r : Row String ConfigColumns} {m' : String} (hr : newestOf collate m' t = some r)
    (h : collate m' ≠ collate m) : some r ≠ newestOf id m t ∧ some r ≠ newestOf collate m t := by
  have hclass : collate r.columns.modelId = collate m' := of_decide_eq_true (newestOf_mem collate hr).2
  constructor
  · intro heq
    have hmodel : r.columns.modelId = m := of_decide_eq_true (newestOf_mem id heq.symm).2
    exact h (hclass.symm.trans (congrArg collate hmodel))
  · intro heq
    have hmodel : collate r.columns.modelId = collate m :=
      of_decide_eq_true (newestOf_mem collate heq.symm).2
    exact h (hclass.symm.trans hmodel)

/-- Such a lock has the same effect on the newest rows of both tables. -/
lemma SameNewest.lock (h : SameNewest collate past t t') {c : TwinCall} (hc : c.op = .lockConfig m)
    (hown : ∀ config, register collate m past = some config →
      config.modelId = m ∨ config.isLocked = true) :
    SameNewest collate (past ++ [c]) (lockNewestOf id m t) (lockNewestOf collate m t') := by
  constructor
  · exact h.next
  · intro m'
    rw [newestOf_lockNewestOf, newestOf_lockNewestOf]
    rcases h.cases m' with ⟨hnone, hnone', -⟩ | ⟨r, r', config, hr, hr', hentry, hconfig, hcolumns⟩
    · rw [hnone, hnone']
      rfl
    · rw [hr, hr']
      apply congrArg some
      dsimp only
      by_cases hclass : collate m' = collate m
      · rw [newestOf_congr hclass] at hr'
        rw [if_pos hr'.symm]
        have hcolumns₀ : r.columns = r'.columns := congrArg Prod.snd hentry
        rcases hown config (register_congr hclass ▸ hconfig) with hm | hlocked
        · have hmodel : r.columns.modelId = m := by
            rw [hcolumns₀, hcolumns]
            exact hm
          rw [newestOf_congr hclass] at hr
          rw [if_pos (newestOf_of_own hr hmodel).symm]
          exact entry_lockRow hentry
        · have hlocked' : r'.columns.isLocked = true := by
            rw [hcolumns]
            exact hlocked
          rw [lockRow_of_locked hlocked', lockRow_of_locked (hcolumns₀ ▸ hlocked'), ite_self]
          exact hentry
      · rw [if_neg (not_newestOf hr hclass).1, if_neg (not_newestOf hr' hclass).2]
        exact hentry
  · intro m'
    rw [newestOf_lockNewestOf, register_append, hc]
    dsimp only
    rcases h.cases m' with ⟨-, hnone', hempty⟩ | ⟨-, r', config, -, hr', -, hconfig, hcolumns⟩
    · rw [hnone', hempty]
      simp
    · rw [hr', hconfig]
      split_ifs with hclass
      · rw [← newestOf_congr hclass.symm, hr', Option.map_some, if_pos rfl]
        simp only [Option.map_some, lockRow, hcolumns, tunedColumns]
      · rw [Option.map_some, if_neg (not_newestOf hr' (Ne.symm hclass)).2]
        simp only [Option.map_some, hcolumns]

end configs

/-- The two databases after the same calls. -/
structure Twins (collate : String → String) (past : List TwinCall) (db db' : Database) : Prop where
  runs : SameRows RunColumns.modelId db.runRecords db'.runRecords (runIds past)
  configs : SameNewest collate past db.tunedConfigs db'.tunedConfigs
  events : SameRows EventColumns.modelId db.autopilotEvents db'.autopilotEvents (eventIds past)

section step
variable {collate : String → String} {past : List TwinCall} {c : TwinCall} {db db' : Database}

section lists
variable {α ρ : Type} {modelOf : α → String} {t t' : Table String α} {ids : List String}
  {modelId : Option String} {limit : ℤ}

/-- Lists agree where the limit is one for both stores, and raise where it is one for neither. -/
lemma SameRows.alike_iff (h : SameRows modelOf t t' ids) (collate : String → String)
    {decode : Row String α → ρ} {undate : ρ → ρ} (recordModel : ρ → String)
    (hentry : ∀ row row' : Row String α, entry row = entry row' →
      undate (decode row) = undate (decode row'))
    (hmodel : ∀ row : Row String α, recordModel (undate (decode row)) = modelOf row.columns)
    (hnamed : modelId ≠ some "") (hlimit : 0 ≤ limit) :
    Alike (fun rs rs' => rs.map undate = rs'.map undate)
      ((SqliteStore.bindInteger limit).map fun limit =>
        (SqliteStore.listNewest modelOf modelId limit t).map decode)
      ((MySqlStore.listNewest collate modelOf modelId limit t').map (List.map decode)) ↔
    limit < 2 ^ 63 ∧ Unmixed collate modelId limit ids ∨ 2 ^ 64 ≤ limit := by
  unfold MySqlStore.listNewest
  by_cases hsmall : limit < 2 ^ 63
  · have hfits : FitsInteger limit := ⟨by omega, hsmall⟩
    have hright : ¬ 2 ^ 64 ≤ limit := by omega
    rw [SqliteStore.bindInteger_ok hfits, if_pos ⟨hlimit, by omega⟩]
    simp only [hsmall, hright, true_and, or_false]
    exact h.listed_iff collate recordModel hentry hmodel hnamed hlimit
  · have hraises : SqliteStore.bindInteger limit =
        .error (Failure.ofMessage "Python int too large to convert to SQLite INTEGER") :=
      if_neg fun hfits => hsmall hfits.2
    rw [hraises]
    simp only [hsmall, false_and, false_or]
    split_ifs with hmysql
    · exact iff_of_false id (by omega)
    · exact iff_of_true trivial (by omega)

lemma SameRows.own (h : SameRows modelOf t t' ids) (hnamed : modelId ≠ some "")
    (hcond : limit < 2 ^ 63 ∧ Unmixed collate modelId limit ids ∨ 2 ^ 64 ≤ limit) {m : String}
    (hm : modelId = some m) {rows : List (Row String α)}
    (hrows : MySqlStore.listNewest collate modelOf modelId limit t' = .ok rows) :
    ∀ row ∈ rows, modelOf row.columns = m := by
  subst hm
  unfold MySqlStore.listNewest at hrows
  split_ifs at hrows with hlimit
  · cases hrows
    have hunmixed : Unmixed collate (some m) limit ids := by
      rcases hcond with hsmall | hlarge
      · exact hsmall.2
      · omega
    exact (h.unmixed_iff collate (fun he => hnamed (congrArg some he)) limit).mp hunmixed
  · cases hrows

end lists

lemma undatedRun_eq_iff {row row' : Row String RunColumns} :
    undatedRun (rowToRunRecord row) = undatedRun (rowToRunRecord row') ↔ entry row = entry row' := by
  obtain ⟨i, time, modelId, runtime, prompt, tokens, duration, rate⟩ := row
  obtain ⟨i', time', modelId', runtime', prompt', tokens', duration', rate'⟩ := row'
  simp [undatedRun, rowToRunRecord, entry]

lemma undatedEvent_congr {row row' : Row String EventColumns} (h : entry row = entry row') :
    undatedEvent (rowToAutopilotEvent row) = undatedEvent (rowToAutopilotEvent row') := by
  obtain ⟨hid, hcolumns⟩ := Prod.mk.inj h
  simp only [undatedEvent, rowToAutopilotEvent, hid, hcolumns]

lemma sqlite_listRuns (modelId : Option String) (limit : ℤ) (db : Database) :
    SqliteStore.listRuns modelId limit db = (SqliteStore.bindInteger limit).map fun limit =>
      (SqliteStore.listNewest RunColumns.modelId modelId limit db.runRecords).map rowToRunRecord := by
  unfold SqliteStore.listRuns
  cases SqliteStore.bindInteger limit with
  | ok _ => rfl
  | error _ => rfl

lemma sqlite_listEvents (modelId : Option String) (limit : ℤ) (db : Database) :
    SqliteStore.listAutopilotEvents modelId limit db = (SqliteStore.bindInteger limit).map fun limit =>
      (SqliteStore.listNewest EventColumns.modelId modelId limit db.autopilotEvents).map
        rowToAutopilotEvent := by
  unfold SqliteStore.listAutopilotEvents
  cases SqliteStore.bindInteger limit with
  | ok _ => rfl
  | error _ => rfl

/-- The runs listed are of the model asked for. -/
lemma Twins.runs_own (h : Twins collate past db db') {modelId : Option String} {limit : ℤ}
    (hnamed : modelId ≠ some "")
    (hcond : limit < 2 ^ 63 ∧ Unmixed collate modelId limit (runIds past) ∨ 2 ^ 64 ≤ limit)
    {m : String} (hm : modelId = some m) {runs : List RunRecord}
    (hruns : MySqlStore.listRuns collate modelId limit db' = .ok runs) :
    ∀ run ∈ runs, run.modelId = m := by
  intro run hrun
  unfold MySqlStore.listRuns at hruns
  cases hlist : MySqlStore.listNewest collate RunColumns.modelId modelId limit db'.runRecords with
  | error e => simp [hlist, Except.map] at hruns
  | ok rows =>
    simp only [hlist, Except.map, Except.ok.injEq] at hruns
    subst hruns
    obtain ⟨row, hrow, rfl⟩ := List.mem_map.mp hrun
    exact h.runs.own hnamed hcond hm hlist row hrow

/-- The run is returned as it was sent exactly if its numbers survive the columns' digits. -/
lemma Twins.saveRun_iff (h : Twins collate past db db') {record : RunRecord}
    (hfits : FitsColumns (.saveRun record)) (time time' : String) :
    SameReply (.saveRun record) (onSqlite ⟨.saveRun record, time, time'⟩ db).1
      (onMySql collate ⟨.saveRun record, time, time'⟩ db').1 ↔
      HasDecimals 3 record.totalDurationS ∧
        ∀ rate, record.tokensPerSec = some rate → HasDecimals 2 rate := by
  obtain ⟨columns, hbind⟩ := MySqlStore.exists_ok hfits
  obtain ⟨-, hint, hexact⟩ := MySqlStore.bindRun_ok hbind
  have hinteger : FitsInteger record.tokensGenerated := ⟨by omega, by omega⟩
  have hsqlite := congrArg Prod.fst (SqliteStore.saveRun_ok hinteger time db)
  have hmysql := congrArg Prod.fst (MySqlStore.saveRun_ok hbind time' db')
  unfold SameReply onSqlite onMySql SqliteStore.serve MySqlStore.serve
  dsimp only
  rw [hsqlite, hmysql]
  refine Iff.trans ?_ hexact
  exact undatedRun_eq_iff.trans (by simp [entry, h.runs.next, eq_comm])

/-- On twin databases a call is served alike exactly if it is distinct. -/
lemma Twins.alike_iff (h : Twins collate past db db') (hnamed : Named c.op)
    (hfits : Inserts c.op → FitsColumns c.op) :
    (SameReply c.op (onSqlite c db).1 (onMySql collate c db').1 ∧
      OwnOnly c.op (onMySql collate c db').1 db' (onMySql collate c db').2) ↔ Distinct collate past c := by
  obtain ⟨op, time, time'⟩ := c
  cases op with
  | saveRun record => exact (and_iff_left trivial).trans (h.saveRun_iff (hfits rfl) time time')
  | listRuns modelId limit =>
    have hiff := h.runs.alike_iff collate RunRecord.modelId (fun _ _ => undatedRun_eq_iff.mpr)
      (fun _ => rfl) hnamed.1 hnamed.2
    unfold SameReply onSqlite onMySql SqliteStore.serve MySqlStore.serve
    dsimp only
    rw [sqlite_listRuns]
    constructor
    · intro hserved
      exact hiff.mp hserved.1
    · intro hcond
      exact ⟨hiff.mpr hcond, fun m hm runs hruns => h.runs_own hnamed.1 hcond hm hruns⟩
  | saveTunedConfig config =>
    have hsqlite := congrArg Prod.fst (SqliteStore.saveTunedConfig_ok config time db)
    have hmysql := congrArg Prod.fst (MySqlStore.saveTunedConfig_ok (hfits rfl) time' db')
    unfold SameReply onSqlite onMySql SqliteStore.serve MySqlStore.serve
    dsimp only
    rw [hsqlite, hmysql, h.configs.next]
    exact iff_of_true ⟨rfl, trivial⟩ trivial
  | getTunedConfig m =>
    refine Iff.trans ?_ (h.configs.get_iff m)
    apply and_congr Iff.rfl
    constructor
    · intro hown config hconfig
      exact hown config (congrArg Except.ok hconfig)
    · intro hown config hconfig
      exact hown config (Except.ok.inj hconfig)
  | lockConfig m => exact (and_iff_right rfl).trans (h.configs.lock_iff m)
  | saveAutopilotEvent event =>
    have hsqlite := congrArg Prod.fst (SqliteStore.saveAutopilotEvent_ok event time db)
    have hmysql := congrArg Prod.fst (MySqlStore.saveAutopilotEvent_ok (hfits rfl) time' db')
    unfold SameReply onSqlite onMySql SqliteStore.serve MySqlStore.serve
    dsimp only
    rw [hsqlite, hmysql, h.events.next]
    exact iff_of_true ⟨rfl, trivial⟩ trivial
  | listAutopilotEvents modelId limit =>
    have hiff := h.events.alike_iff collate AutopilotEvent.modelId (fun _ _ => undatedEvent_congr)
      (fun _ => rfl) hnamed.1 hnamed.2
    unfold SameReply onSqlite onMySql SqliteStore.serve MySqlStore.serve
    dsimp only
    rw [sqlite_listEvents]
    exact (and_iff_left trivial).trans hiff

lemma runIds_append : runIds (past ++ [c]) = runIds past ++ runIds [c] := List.filterMap_append ..

lemma eventIds_append : eventIds (past ++ [c]) = eventIds past ++ eventIds [c] :=
  List.filterMap_append ..

/-- A distinct call leaves twin databases. -/
lemma Twins.serve (h : Twins collate past db db') (hfits : Inserts c.op → FitsColumns c.op)
    (htime : Inserts c.op → StampedBy c.sqliteTime db)
    (htime' : Inserts c.op → StampedBy c.mysqlTime db') (hc : Distinct collate past c) :
    Twins collate (past ++ [c]) (onSqlite c db).2 (onMySql collate c db').2 := by
  obtain ⟨op, time, time'⟩ := c
  have hruns (hids : runIds [⟨op, time, time'⟩] = []) : SameRows RunColumns.modelId db.runRecords
      db'.runRecords (runIds (past ++ [⟨op, time, time'⟩])) := by
    rw [runIds_append, hids, List.append_nil]
    exact h.runs
  have hevents (hids : eventIds [⟨op, time, time'⟩] = []) : SameRows EventColumns.modelId
      db.autopilotEvents db'.autopilotEvents (eventIds (past ++ [⟨op, time, time'⟩])) := by
    rw [eventIds_append, hids, List.append_nil]
    exact h.events
  have hconfigs (hregister : ∀ m, register collate m (past ++ [⟨op, time, time'⟩]) =
      register collate m past) : SameNewest collate (past ++ [⟨op, time, time'⟩]) db.tunedConfigs
        db'.tunedConfigs := by
    refine ⟨h.configs.next, h.configs.newest, fun m => ?_⟩
    rw [hregister]
    exact h.configs.registered m
  cases op with
  | saveRun record =>
    obtain ⟨columns, hbind⟩ := MySqlStore.exists_ok (hfits rfl)
    obtain ⟨-, hint, hexact⟩ := MySqlStore.bindRun_ok hbind
    have hinteger : FitsInteger record.tokensGenerated := ⟨by omega, by omega⟩
    rw [hexact.mpr hc] at hbind
    unfold onSqlite onMySql SqliteStore.serve MySqlStore.serve
    dsimp only
    rw [SqliteStore.saveRun_ok hinteger, MySqlStore.saveRun_ok hbind]
    refine ⟨?_, hconfigs fun m => register_append m past _, hevents rfl⟩
    rw [runIds_append]
    exact h.runs.insert (htime rfl).1 (htime' rfl).1 (runColumns record)
  | saveTunedConfig config =>
    unfold onSqlite onMySql SqliteStore.serve MySqlStore.serve
    dsimp only
    rw [SqliteStore.saveTunedConfig_ok, MySqlStore.saveTunedConfig_ok (hfits rfl)]
    exact ⟨hruns rfl, h.configs.save rfl (htime rfl).2.1 (htime' rfl).2.1, hevents rfl⟩
  | lockConfig m => exact ⟨hruns rfl, h.configs.lock rfl hc, hevents rfl⟩
  | saveAutopilotEvent event =>
    unfold onSqlite onMySql SqliteStore.serve MySqlStore.serve
    dsimp only
    rw [SqliteStore.saveAutopilotEvent_ok, MySqlStore.saveAutopilotEvent_ok (hfits rfl)]
    refine ⟨hruns rfl, hconfigs fun m => register_append m past _, ?_⟩
    rw [eventIds_append]
    exact h.events.insert (htime rfl).2.2 (htime' rfl).2.2 (eventColumns event)
  | _ => exact ⟨hruns rfl, hconfigs fun m => register_append m past _, hevents rfl⟩

end step

section run
variable {collate : String → String} {past : List TwinCall} {c : TwinCall}

lemma sqliteAfter_append (past : List TwinCall) (c : TwinCall) :
    sqliteAfter (past ++ [c]) = (onSqlite c (sqliteAfter past)).2 := List.foldl_append ..

lemma mysqlAfter_append (past : List TwinCall) (c : TwinCall) :
    mysqlAfter collate (past ++ [c]) = (onMySql collate c (mysqlAfter collate past)).2 :=
  List.foldl_append ..

lemma fits_of_columns {op : StorageCall} (hop : Inserts op) (h : FitsColumns op) : Fits op := by
  cases op with
  | saveRun record =>
    obtain ⟨columns, hbind⟩ := MySqlStore.exists_ok h
    obtain ⟨-, hint, -⟩ := MySqlStore.bindRun_ok hbind
    exact ⟨by omega, by omega⟩
  | saveTunedConfig _ | saveAutopilotEvent _ => trivial
  | _ => cases hop

lemma stamped_mysql {db : Database} {later : String} (h : StampedBy later db)
    (hfits : Inserts c.op → FitsColumns c.op) (htime : Inserts c.op → c.mysqlTime ≤ later) :
    StampedBy later (onMySql collate c db).2 := by
  obtain ⟨hruns, hconfigs, hevents⟩ := h
  obtain ⟨op, time, time'⟩ := c
  unfold onMySql MySqlStore.serve
  cases op with
  | saveRun record =>
    obtain ⟨columns, hbind⟩ := MySqlStore.exists_ok (hfits rfl)
    dsimp only
    rw [MySqlStore.saveRun_ok hbind]
    exact ⟨stamped_insert hruns (htime rfl), hconfigs, hevents⟩
  | saveTunedConfig config =>
    dsimp only
    rw [MySqlStore.saveTunedConfig_ok (hfits rfl)]
    exact ⟨hruns, stamped_insert hconfigs (htime rfl), hevents⟩
  | saveAutopilotEvent event =>
    dsimp only
    rw [MySqlStore.saveAutopilotEvent_ok (hfits rfl)]
    exact ⟨hruns, hconfigs, stamped_insert hevents (htime rfl)⟩
  | lockConfig m =>
    refine ⟨hruns, ?_, hevents⟩
    simpa [MySqlStore.lockConfig, SqlStorage.lockConfig, lockNewestOf] using hconfigs
  | _ => exact ⟨hruns, hconfigs, hevents⟩

variable (collate) in
/-- No row is stamped with a later time than the insertions were. -/
lemma after_stamped (hfits : ∀ c ∈ past, Inserts c.op → FitsColumns c.op) {time time' : String}
    (htime : ∀ c ∈ past, Inserts c.op → c.sqliteTime ≤ time)
    (htime' : ∀ c ∈ past, Inserts c.op → c.mysqlTime ≤ time') :
    StampedBy time (sqliteAfter past) ∧ StampedBy time' (mysqlAfter collate past) := by
  induction past using List.reverseRecOn with
  | nil => exact ⟨⟨by simp [sqliteAfter], by simp [sqliteAfter], by simp [sqliteAfter]⟩,
      ⟨by simp [mysqlAfter], by simp [mysqlAfter], by simp [mysqlAfter]⟩⟩
  | append_singleton past c ih =>
    simp only [List.forall_mem_append, List.forall_mem_singleton] at hfits htime htime'
    obtain ⟨hsqlite, hmysql⟩ := ih hfits.1 htime.1 htime'.1
    rw [sqliteAfter_append, mysqlAfter_append]
    constructor
    · exact stamped_serve (c := ⟨c.sqliteTime, c.op⟩) hsqlite
        (fun hop => fits_of_columns hop (hfits.2 hop)) htime.2
    · exact stamped_mysql hmysql hfits.2 htime'.2

lemma Steady.le {clock : TwinCall → String} {pre post : List TwinCall} (h : Steady clock (pre ++ c :: post))
    (hc : Inserts c.op) : ∀ d ∈ pre, Inserts d.op → clock d ≤ clock c := by
  intro d hd hin
  rw [Steady, List.filter_append, List.filter_cons, if_pos hc, List.pairwise_append] at h
  exact h.2.2 d (List.mem_filter.mpr ⟨hd, hin⟩) c List.mem_cons_self

/-- From empty databases, every call is served alike exactly if every call is distinct. -/
theorem mysql_agrees_iff (collate : String → String) (calls : List TwinCall)
    (hnamed : ∀ c ∈ calls, Named c.op) (hfits : ∀ c ∈ calls, Inserts c.op → FitsColumns c.op)
    (hsqlite : Steady TwinCall.sqliteTime calls) (hmysql : Steady TwinCall.mysqlTime calls) :
    Each (Interchangeable collate) [] calls ↔ Each (Distinct collate) [] calls := by
  apply each_congr fun past => Twins collate past (sqliteAfter past) (mysqlAfter collate past)
  · exact ⟨⟨rfl, rfl, .nil, .nil, rfl⟩, ⟨rfl, fun _ => rfl, fun _ => rfl⟩, ⟨rfl, rfl, .nil, .nil, rfl⟩⟩
  · intro pre c post hsplit htwins
    rw [List.nil_append] at htwins ⊢
    subst hsplit
    simp only [List.forall_mem_append, List.forall_mem_cons] at hnamed hfits
    have hstamped (hc : Inserts c.op) :=
      after_stamped collate hfits.1 (hsqlite.le hc) (hmysql.le hc)
    refine ⟨htwins.alike_iff hnamed.2.1 hfits.2.1, fun hdistinct => ?_⟩
    rw [sqliteAfter_append, mysqlAfter_append]
    exact htwins.serve hfits.2.1 (fun hc => (hstamped hc).1) (fun hc => (hstamped hc).2) hdistinct

end run

/-- A collation that ignores the case of letters. -/
def ignoringCase (text : String) : String := String.ofList (text.toList.map Char.toLower)

theorem mysql_agrees_iff_shared : let calls : List TwinCall := [
      ⟨.saveTunedConfig { modelId := "llama3", config := Config.ofCtx 2048 },
        "2024-01-01 00:00:00", "2024-01-01 00:00:02"⟩,
      ⟨.saveTunedConfig { modelId := "Llama3", config := Config.ofCtx 4096 },
        "2024-01-01 00:00:00", "2024-01-01 00:00:02"⟩,
      ⟨.lockConfig "llama3", "2024-01-01 00:00:01", "2024-01-01 00:00:01"⟩,
      ⟨.saveRun ⟨none, "llama3", "ollama", "hello", 42, 2, some 21, none⟩,
        "2024-01-01 00:00:03", "2024-01-01 00:00:02"⟩,
      ⟨.listRuns (some "Llama3") 20, "2024-01-01 00:00:03", "2024-01-01 00:00:03"⟩]
    Each (Interchangeable ignoringCase) [] calls ↔ Each (Distinct ignoringCase) [] calls :=
  mysql_agrees_iff ignoringCase _ (by simp [Named]) (by decide +kernel)
    (by unfold Steady; decide +kernel) (by unfold Steady; decide +kernel)

/-- MySQL returns the config of `Llama3` for `llama3`. -/
theorem mysql_returns_other_model : let calls : List TwinCall := [
      ⟨.saveTunedConfig { modelId := "Llama3", config := Config.ofCtx 2048 },
        "2024-01-01 00:00:00", "2024-01-01 00:00:00"⟩,
      ⟨.getTunedConfig "llama3", "2024-01-01 00:00:01", "2024-01-01 00:00:01"⟩]
    (∀ c ∈ calls, Named c.op) ∧ (∀ c ∈ calls, Inserts c.op → FitsColumns c.op) ∧
      Steady TwinCall.sqliteTime calls ∧ Steady TwinCall.mysqlTime calls ∧
      ¬ Each (Interchangeable ignoringCase) [] calls := by
  intro calls
  refine ⟨by simp [calls, Named], by decide +kernel, by unfold Steady; decide +kernel,
    by unfold Steady; decide +kernel, ?_⟩
  intro h
  have hown := h.2.1.2
  have hreturned : ∃ config, (onMySql ignoringCase ⟨.getTunedConfig "llama3", "2024-01-01 00:00:01",
      "2024-01-01 00:00:01"⟩ (mysqlAfter ignoringCase (calls.take 1))).1 = .ok (some config) ∧
      config.modelId = "Llama3" := by
    refine ⟨_, rfl, ?_⟩
    decide +kernel
  obtain ⟨config, hget, hmodel⟩ := hreturned
  have hwrong : config.modelId = "llama3" := hown config hget
  rw [hmodel] at hwrong
  revert hwrong
  decide

end LlmMax.MySqlAgreement
