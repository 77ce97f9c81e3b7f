import LlmMax.MySqlStore
import LlmMax.SqliteStore

/-! Which tuned config the SQL stores take for the current one. Both go by the creation time
and use the key to break ties, so it is the one saved last as long as the clock of the
database has not gone back between two saves for the model. -/
namespace LlmMax.TunedRecency
open Domain BenchMetrics Storage SqlTable SqlStorage

/-- The row of a model that was inserted last. -/
def lastOf (collate : String → String) (modelId : String) (t : Table String ConfigColumns) :
    Option (Row String ConfigColumns) :=
  t.lastInserted (ofModel collate modelId)

/-- How a store serves its calls. -/
abbrev Serve := String → (op : StorageCall) → Database → Except Failure op.Reply × Database

/-- A call with the database that it finds. -/
structure Step where
  before : Database
  call : TimedCall

/-- The calls of a run, one after the other. -/
def steps (serve : Serve) : List TimedCall → Database → List Step
  | [], _ => []
  | c :: calls, db => ⟨db, c⟩ :: steps serve calls (serve c.time c.op db).2

section latest
variable (collate : String → String) (serve : Serve)

/-- Reads return the row of the model that was inserted last, and locks lock that row. -/
def ServesLatest (x : Step) : Prop :=
  match x.call.op with
  | .getTunedConfig modelId =>
    (serve x.call.time (.getTunedConfig modelId) x.before).1 =
      .ok ((lastOf collate modelId x.before.tunedConfigs).map rowToTunedConfig)
  | .lockConfig modelId =>
    (serve x.call.time (.lockConfig modelId) x.before).2.tunedConfigs.rows =
      x.before.tunedConfigs.rows.map fun row =>
        if lastOf collate modelId x.before.tunedConfigs = some row then lockRow row else row
  | _ => True

/-- No row of the model carries a later creation time than the one inserted last. -/
def LastIsLatest (modelId : String) (t : Table String ConfigColumns) : Prop :=
  ∀ r, lastOf collate modelId t = some r →
    ∀ r' ∈ t.rows, ofModel collate modelId r'.columns → r'.createdAt ≤ r.createdAt

/-- The row inserted last and the one that the creation times put first are both locked. -/
def BothLocked (modelId : String) (t : Table String ConfigColumns) : Prop :=
  ∃ r n, lastOf collate modelId t = some r ∧ r.columns.isLocked = true ∧
    n ∈ t.rows ∧ ofModel collate modelId n.columns ∧ n.columns.isLocked = true ∧
    ∀ r' ∈ t.rows, ofModel collate modelId r'.columns → r'.key ≤ n.key

/-- The clock has not put another row of the model before the one inserted last, as far as
the call can tell. -/
def ClockKept (x : Step) : Prop :=
  match x.call.op with
  | .getTunedConfig modelId => LastIsLatest collate modelId x.before.tunedConfigs
  | .lockConfig modelId => LastIsLatest collate modelId x.before.tunedConfigs ∨
      BothLocked collate modelId x.before.tunedConfigs
  | _ => True

end latest

section table
variable {collate : String → String} {modelId : String} {t : Table String ConfigColumns}

lemma lastOf_eq_none_iff : lastOf collate modelId t = none ↔ newestOf collate modelId t = none := by
  rw [newestOf, Table.newest_eq_none_iff, lastOf, Table.lastInserted, List.getLast?_eq_none_iff,
    List.filter_eq_nil_iff]
  simp

lemma newest_eq_lastOf_iff :
    newestOf collate modelId t = lastOf collate modelId t ↔ LastIsLatest collate modelId t := by
  unfold LastIsLatest
  cases h : lastOf collate modelId t with
  | none => simpa using lastOf_eq_none_iff.mp h
  | some r =>
    rw [newestOf, t.newest_eq_last_iff h]
    simp

lemma rowToTunedConfig_injective : Function.Injective rowToTunedConfig := by
  intro a b h
  obtain ⟨id, createdAt, columns⟩ := a
  obtain ⟨id', createdAt', columns'⟩ := b
  simp only [rowToTunedConfig, TunedConfig.mk.injEq, Option.some.injEq] at h
  obtain ⟨rfl, hmodel, hruntime, hconfig, hlocked, rfl⟩ := h
  cases columns
  cases columns'
  simp_all

lemma get_latest_iff :
    (newestOf collate modelId t).map rowToTunedConfig =
      (lastOf collate modelId t).map rowToTunedConfig ↔ LastIsLatest collate modelId t := by
  rw [← newest_eq_lastOf_iff]
  exact (Option.map_injective rowToTunedConfig_injective).eq_iff

lemma lockRow_eq_self_iff (row : Row String ConfigColumns) :
    lockRow row = row ↔ row.columns.isLocked = true := by
  obtain ⟨id, createdAt, columns⟩ := row
  cases columns
  simp [lockRow, eq_comm]

/-- To lock the one row is to lock the other only where both are locked already. -/
lemma lock_same_iff {rows : List (Row String ConfigColumns)} {n r : Row String ConfigColumns}
    (hn : n ∈ rows) (hr : r ∈ rows) :
    ((rows.map fun row => if row = n then lockRow row else row) =
        rows.map fun row => if some r = some row then lockRow row else row) ↔
      n = r ∨ (r.columns.isLocked = true ∧ n.columns.isLocked = true) := by
  rw [List.map_inj_left]
  constructor
  · intro h
    by_cases hnr : n = r
    · exact .inl hnr
    · have hnlocked := h n hn
      have hrlocked := h r hr
      rw [if_pos rfl, if_neg (fun he => hnr (Option.some.inj he).symm), lockRow_eq_self_iff]
        at hnlocked
      rw [if_neg (fun he => hnr he.symm), if_pos rfl, eq_comm, lockRow_eq_self_iff] at hrlocked
      exact .inr ⟨hrlocked, hnlocked⟩
  · intro h row _
    rcases h with rfl | ⟨hrlocked, hnlocked⟩
    · simp [eq_comm]
    · have hsame (q : Row String ConfigColumns) (hq : q.columns.isLocked = true) :
          (if row = q then lockRow row else row) = row := by
        split_ifs with he
        · rw [he, (lockRow_eq_self_iff q).mpr hq]
        · rfl
      have hlastsame : (if some r = some row then lockRow row else row) = row := by
        simpa [eq_comm] using hsame r hrlocked
      rw [hsame n hnlocked, hlastsame]

lemma bothLocked_iff {r n : Row String ConfigColumns} (hlast : lastOf collate modelId t = some r)
    (hnewest : newestOf collate modelId t = some n) :
    BothLocked collate modelId t ↔ r.columns.isLocked = true ∧ n.columns.isLocked = true := by
  constructor
  · intro h
    obtain ⟨r', n', hlast', hrlocked, hn, hmodel, hnlocked, hmax⟩ := h
    have hnewest' : newestOf collate modelId t = some n' :=
      (t.newest_eq_some_iff).mpr ⟨hn, hmodel, hmax⟩
    obtain rfl : r = r' := Option.some.inj (hlast.symm.trans hlast')
    obtain rfl : n = n' := Option.some.inj (hnewest.symm.trans hnewest')
    exact ⟨hrlocked, hnlocked⟩
  · intro h
    obtain ⟨hn, hmodel, hmax⟩ := (t.newest_eq_some_iff).mp hnewest
    exact ⟨r, n, hlast, h.1, hn, hmodel, h.2, hmax⟩

lemma lock_latest_iff :
    (lockNewestOf collate modelId t).rows = (t.rows.map fun row =>
        if lastOf collate modelId t = some row then lockRow row else row) ↔
      LastIsLatest collate modelId t ∨ BothLocked collate modelId t := by
  rw [← newest_eq_lastOf_iff]
  cases hlast : lastOf collate modelId t with
  | none =>
    have hnewest := lastOf_eq_none_iff.mp hlast
    simp [lockNewestOf_none collate hnewest, hnewest]
  | some r =>
    cases hnewest : newestOf collate modelId t with
    | none =>
      have hnone := lastOf_eq_none_iff.mpr hnewest
      rw [hlast] at hnone
      cases hnone
    | some n =>
      obtain ⟨hn, -⟩ := newestOf_mem collate hnewest
      obtain ⟨hr, -⟩ := t.lastInserted_mem hlast
      rw [rows_lockNewestOf collate hnewest, bothLocked_iff hlast hnewest, Option.some.injEq]
      exact lock_same_iff hn hr

end table

/-- A store whose reads and locks are the shared statements. -/
structure SharedStatements (collate : String → String) (serve : Serve) : Prop where
  get : ∀ time modelId db, (serve time (.getTunedConfig modelId) db).1 =
    .ok ((newestOf collate modelId db.tunedConfigs).map rowToTunedConfig)
  lock : ∀ time modelId db, (serve time (.lockConfig modelId) db).2.tunedConfigs =
    lockNewestOf collate modelId db.tunedConfigs

/-- One call addresses the config saved last exactly when the clock has kept the order. -/
theorem servesLatest_iff {collate : String → String} {serve : Serve}
    (h : SharedStatements collate serve) (x : Step) :
    ServesLatest collate serve x ↔ ClockKept collate x := by
  obtain ⟨db, time, op⟩ := x
  cases op with
  | getTunedConfig modelId =>
    simp only [ServesLatest, ClockKept, h.get, Except.ok.injEq]
    exact get_latest_iff
  | lockConfig modelId =>
    simp only [ServesLatest, ClockKept, h.lock]
    exact lock_latest_iff
  | _ => exact Iff.rfl

lemma sqlite_shared : SharedStatements id (SqliteStore.serve noFaults) :=
  ⟨fun _ _ _ => rfl, fun _ _ _ => rfl⟩

lemma mysql_shared (collate : String → String) :
    SharedStatements collate (MySqlStore.serve collate noFaults) :=
  ⟨fun _ _ _ => rfl, fun _ _ _ => rfl⟩

/-- On both stores, every read and lock of a run addresses the config saved last exactly when
the clock has kept the order of the saves. -/
theorem run_servesLatest_iff (collate : String → String) (calls : List TimedCall) (db : Database) :
    ((∀ x ∈ steps (SqliteStore.serve noFaults) calls db,
        ServesLatest id (SqliteStore.serve noFaults) x) ↔
      ∀ x ∈ steps (SqliteStore.serve noFaults) calls db, ClockKept id x) ∧
    ((∀ x ∈ steps (MySqlStore.serve collate noFaults) calls db,
        ServesLatest collate (MySqlStore.serve collate noFaults) x) ↔
      ∀ x ∈ steps (MySqlStore.serve collate noFaults) calls db, ClockKept collate x) :=
  ⟨forall₂_congr fun x _ => servesLatest_iff sqlite_shared x,
    forall₂_congr fun x _ => servesLatest_iff (mysql_shared collate) x⟩

/-- The clock goes back by half an hour between two saves, and the read returns the first one. -/
theorem run_servesLatest_fails :
    ¬ ∀ x ∈ steps (SqliteStore.serve noFaults) [
        ⟨"2024-10-27 02:45:00", .saveTunedConfig { modelId := "m", config := Config.ofCtx 2048 }⟩,
        ⟨"2024-10-27 02:15:00", .saveTunedConfig { modelId := "m", config := Config.ofCtx 4096 }⟩,
        ⟨"2024-10-27 02:15:01", .getTunedConfig "m"⟩] {},
      ServesLatest id (SqliteStore.serve noFaults) x := by
  intro h
  have hread := h _ (.tail _ (.tail _ (.head _)))
  have hkept : LastIsLatest id "m" _ := (servesLatest_iff sqlite_shared _).mp hread
  have hback : "2024-10-27 02:45:00" ≤ "2024-10-27 02:15:00" := hkept _ rfl _ (.head _) rfl
  exact absurd hback (by decide +kernel)

end LlmMax.TunedRecency
