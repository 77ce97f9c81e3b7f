import LlmMax.BenchMetrics
import LlmMax.SqlTable
import LlmMax.Storage
import Mathlib.Data.String.Basic

/-! What the two SQL stores share: the tables, how a row becomes a record, and the
statements on the tuned configs. Creation times are texts whose order is that of time. -/
namespace LlmMax.SqlStorage
open Domain BenchMetrics Storage SqlTable

structure RunColumns where
  modelId : String
  runtime : String
  prompt : String
  tokensGenerated : ℤ
  totalDurationS : ℚ
  tokensPerSec : Option ℚ
  deriving DecidableEq

/-- A JSON column holds the document that it was given. -/
structure ConfigColumns where
  modelId : String
  runtime : String
  configJson : Config
  isLocked : Bool
  deriving DecidableEq

structure EventColumns where
  modelId : String
  eventType : String
  detailsJson : List (String × Detail)
  deriving DecidableEq

structure Database where
  runRecords : Table String RunColumns := .empty
  tunedConfigs : Table String ConfigColumns := .empty
  autopilotEvents : Table String EventColumns := .empty

def rowToRunRecord (row : Row String RunColumns) : RunRecord where
  id := some row.id
  modelId := row.columns.modelId
  runtime := row.columns.runtime
  prompt := row.columns.prompt
  tokensGenerated := row.columns.tokensGenerated
  totalDurationS := row.columns.totalDurationS
  tokensPerSec := row.columns.tokensPerSec
  createdAt := some row.createdAt

def rowToTunedConfig (row : Row String ConfigColumns) : TunedConfig where
  id := some row.id
  modelId := row.columns.modelId
  runtime := row.columns.runtime
  config := row.columns.configJson
  isLocked := row.columns.isLocked
  createdAt := some row.createdAt

def rowToAutopilotEvent (row : Row String EventColumns) : AutopilotEvent where
  id := some row.id
  modelId := row.columns.modelId
  eventType := row.columns.eventType
  details := row.columns.detailsJson
  createdAt := some row.createdAt

def tunedColumns (config : TunedConfig) : ConfigColumns :=
  ⟨config.modelId, config.runtime, config.config, config.isLocked⟩

def eventColumns (event : AutopilotEvent) : EventColumns :=
  ⟨event.modelId, event.eventType, event.details⟩

def runColumns (record : RunRecord) : RunColumns :=
  ⟨record.modelId, record.runtime, record.prompt, record.tokensGenerated, record.totalDurationS,
    record.tokensPerSec⟩

/-- The operations that insert a row. -/
def Inserts : StorageCall → Bool
  | .saveRun _ | .saveTunedConfig _ | .saveAutopilotEvent _ => true
  | _ => false

/-- The steps of a save. Each store takes them in its own order, and any of them may raise. -/
inductive SaveStep
  | connect
  | insert
  | commit
  | select
  | fetch
  | decode
  deriving DecidableEq

/-- Where a save raises, and what. -/
abbrev Faults := SaveStep → Option Failure

def noFaults : Faults := fun _ => none

def Faults.take (faults : Faults) (step : SaveStep) : Except Failure Unit :=
  match faults step with
  | none => .ok ()
  | some e => .error e

lemma bind_eq_ok {β γ : Type} {x : Except Failure β} {f : β → Except Failure γ} {c : γ}
    (h : x >>= f = .ok c) : ∃ b, x = .ok b ∧ f b = .ok c := by
  cases x with
  | error e => cases h
  | ok b => exact ⟨b, rfl, h⟩

/-- Turn what `fetchone` returned into a record; what no row raises is up to the store. -/
def decodeRow {α ρ : Type} (noRow : String) (decode : Row String α → ρ) :
    Option (Row String α) → Except Failure ρ
  | none => .error (Failure.ofMessage noRow)
  | some row => .ok (decode row)

section tuned
variable (collate : String → String)

/-- `WHERE model_id = ?`: the database compares texts by their collation. -/
def ofModel (modelId : String) (columns : ConfigColumns) : Bool :=
  collate columns.modelId = collate modelId

/-- The newest row of a model. -/
def newestOf (modelId : String) (t : Table String ConfigColumns) : Option (Row String ConfigColumns) :=
  t.newest (ofModel collate modelId)

/-- `UPDATE … SET is_locked = 1 WHERE model_id = ? AND id = (SELECT …)`. -/
def lockNewestOf (modelId : String) (t : Table String ConfigColumns) : Table String ConfigColumns :=
  let latest := (newestOf collate modelId t).map Row.id
  t.update (fun row => ofModel collate modelId row.columns && some row.id = latest)
    fun columns => { columns with isLocked := true }

def getTunedConfig (modelId : String) (db : Database) : Option TunedConfig :=
  (newestOf collate modelId db.tunedConfigs).map rowToTunedConfig

def lockConfig (modelId : String) (db : Database) : Database :=
  { db with tunedConfigs := lockNewestOf collate modelId db.tunedConfigs }

def lockRow (row : Row String ConfigColumns) : Row String ConfigColumns :=
  { row with columns := { row.columns with isLocked := true } }

@[simp] lemma lockRow_lockRow (row : Row String ConfigColumns) : lockRow (lockRow row) = lockRow row :=
  rfl

lemma newestOf_mem {modelId : String} {t : Table String ConfigColumns} {r : Row String ConfigColumns}
    (h : newestOf collate modelId t = some r) : r ∈ t.rows ∧ ofModel collate modelId r.columns :=
  t.newest_mem h

lemma lockNewestOf_none {modelId : String} {t : Table String ConfigColumns}
    (h : newestOf collate modelId t = none) : lockNewestOf collate modelId t = t := by
  apply t.update_of_none
  simp [h]

/-- Locking changes the newest row of the model and no other. -/
lemma rows_lockNewestOf {modelId : String} {t : Table String ConfigColumns}
    {r : Row String ConfigColumns} (h : newestOf collate modelId t = some r) :
    (lockNewestOf collate modelId t).rows = t.rows.map fun row => if row = r then lockRow row else row := by
  obtain ⟨hr, hmodel⟩ := newestOf_mem collate h
  apply List.map_congr_left
  intro row hrow
  by_cases he : row = r
  · simp [Row.change, h, he, hmodel, lockRow]
  · have hid : row.id ≠ r.id := fun hid => he (eq_of_id t.ascending hrow hr hid)
    simp [Row.change, h, he, hid]

lemma rows_lockNewestOf_split {modelId : String} {t : Table String ConfigColumns}
    {r : Row String ConfigColumns} {front back : List (Row String ConfigColumns)}
    (h : newestOf collate modelId t = some r) (hsplit : t.rows = front ++ r :: back) :
    (lockNewestOf collate modelId t).rows = front ++ lockRow r :: back := by
  have hids := t.ascending
  rw [hsplit, List.pairwise_append, List.pairwise_cons] at hids
  obtain ⟨-, ⟨hback, -⟩, hfront⟩ := hids
  have hne (row : Row String ConfigColumns) (hid : row.id ≠ r.id) :
      (if row = r then lockRow row else row) = row :=
    if_neg fun he => hid (congrArg Row.id he)
  rw [rows_lockNewestOf collate h, hsplit, List.map_append, List.map_cons, if_pos rfl]
  congr 1
  · refine (List.map_congr_left fun row hrow => ?_).trans (List.map_id _)
    exact hne row (hfront row hrow r (by simp)).ne
  · congr 1
    refine (List.map_congr_left fun row hrow => ?_).trans (List.map_id _)
    exact hne row (hback row hrow).ne'

/-- Under any collation, only the row that was locked changes. -/
lemma newestOf_lockNewestOf (key : String → String) (m modelId : String)
    (t : Table String ConfigColumns) :
    newestOf collate m (lockNewestOf key modelId t) =
      (newestOf collate m t).map fun r => if some r = newestOf key modelId t then lockRow r else r := by
  unfold lockNewestOf
  rw [newestOf, Table.newest_update]
  · apply Option.map_congr
    intro r hr
    obtain ⟨hmem, -⟩ := newestOf_mem collate hr
    cases hnewest : newestOf key modelId t with
    | none => simp [Row.change]
    | some r' =>
      obtain ⟨hmem', hmodel⟩ := newestOf_mem key hnewest
      by_cases he : r = r'
      · simp [Row.change, he, hmodel, lockRow]
      · have hid : r.id ≠ r'.id := fun hid => he (eq_of_id t.ascending hmem hmem' hid)
        simp [Row.change, he, hid]
  · exact fun columns => rfl

/-- Locking twice is locking once. -/
lemma lockNewestOf_lockNewestOf (modelId : String) (t : Table String ConfigColumns) :
    lockNewestOf collate modelId (lockNewestOf collate modelId t) = lockNewestOf collate modelId t := by
  cases h : newestOf collate modelId t with
  | none => rw [lockNewestOf_none collate h, lockNewestOf_none collate h]
  | some r =>
    have hagain : newestOf collate modelId (lockNewestOf collate modelId t) = some (lockRow r) := by
      rw [newestOf_lockNewestOf, h, Option.map_some, if_pos rfl]
    apply Table.ext
    · rw [rows_lockNewestOf collate hagain]
      refine (List.map_congr_left fun row _ => ?_).trans (List.map_id _)
      split_ifs with he
      · rw [he, lockRow_lockRow, id]
      · rfl
    · rfl

end tuned

end LlmMax.SqlStorage
