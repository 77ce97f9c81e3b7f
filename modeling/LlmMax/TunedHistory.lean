import LlmMax.SqlStorage
import LlmMax.TimedRegister

/-! The tuned configs of one model in a table are a register, which its saves write with the times
of the clock and its locks touch. Which ids are those of the model is up to the collation. -/
namespace LlmMax.TunedHistory
open Domain BenchMetrics Storage SqlTable SqlStorage TimedRegister

abbrev TunedDeed := Deed String ConfigColumns

def lockColumns (columns : ConfigColumns) : ConfigColumns := { columns with isLocked := true }

lemma lockColumns_twice (columns : ConfigColumns) :
    lockColumns (lockColumns columns) = lockColumns columns := rfl

def rowDeed {α : Type} (r : Row String α) : Deed String α := .wrote r.createdAt r.columns

section history
variable (collate : String → String) (m : String)

/-- What a call does to the configs of the model. -/
def callDeed (c : TimedCall) : Option TunedDeed :=
  match c.op with
  | .saveTunedConfig config =>
    if ofModel collate m (tunedColumns config) then some (.wrote c.time (tunedColumns config)) else none
  | .lockConfig modelId => if collate modelId = collate m then some .touched else none
  | _ => none

/-- What has become of the configs of the model: the rows that were there, in the order of their
insertion, and then the calls. -/
def history (rows : List (Row String ConfigColumns)) (calls : List TimedCall) : List TunedDeed :=
  ((rows.filter fun r => ofModel collate m r.columns).map rowDeed) ++
    calls.filterMap (callDeed collate m)

/-- What a call does to the table. -/
def tunedStep (c : TimedCall) (t : Table String ConfigColumns) : Table String ConfigColumns :=
  match c.op with
  | .saveTunedConfig config => t.insert c.time (tunedColumns config)
  | .lockConfig modelId => lockNewestOf collate modelId t
  | _ => t

end history

/-- What a row tells the register. -/
def stamp {α : Type} (r : Row String α) : String × α := (r.createdAt, r.columns)

lemma newest_rows {α : Type} {rows : List (Row String α)} (touch : α → α)
    (hids : rows.Pairwise fun a b => a.id < b.id) :
    (newestFirst rows).head?.map stamp = kept touch (rows.map rowDeed) := by
  induction rows using List.reverseRecOn with
  | nil => rfl
  | append_singleton rows x ih =>
    have hrows := ih (List.pairwise_append.mp hids).1
    rw [head_newestFirst_concat hids, List.map_append, List.map_singleton, kept_concat, ← hrows]
    cases (newestFirst rows).head? with
    | none => rfl
    | some r =>
      simp only [Option.map_some, rowDeed, step, stamp]
      split_ifs <;> rfl

variable {collate : String → String} {m : String}

/-- A call moves the register by what it does to the configs of the model. -/
lemma newest_step (c : TimedCall) (t : Table String ConfigColumns) :
    (newestOf collate m (tunedStep collate c t)).map stamp =
      (callDeed collate m c).toList.foldl (step lockColumns) ((newestOf collate m t).map stamp) := by
  obtain ⟨time, op⟩ := c
  cases op with
  | saveTunedConfig config =>
    simp only [tunedStep, callDeed, newestOf, Table.newest_insert]
    split_ifs with hmodel
    · cases t.newest (ofModel collate m) with
      | none => rfl
      | some r =>
        simp only [Option.map_some, Option.toList_some, List.foldl_cons, List.foldl_nil, step, stamp]
        split_ifs <;> rfl
    · rfl
  | lockConfig modelId =>
    simp only [tunedStep, callDeed, newestOf_lockNewestOf, Option.map_map]
    split_ifs with hmodel
    · have hsame : newestOf collate modelId t = newestOf collate m t := by
        simp only [newestOf, Table.newest, ofModel, hmodel]
      rw [hsame]
      cases newestOf collate m t with
      | none => rfl
      | some r => simp [step, stamp, lockRow, lockColumns]
    · cases hnewest : newestOf collate m t with
      | none => rfl
      | some r =>
        have hr : collate r.columns.modelId = collate m :=
          of_decide_eq_true (newestOf_mem collate hnewest).2
        have hother : some r ≠ newestOf collate modelId t := by
          intro hsame
          have hr' : collate r.columns.modelId = collate modelId :=
            of_decide_eq_true (newestOf_mem collate hsame.symm).2
          exact hmodel (hr'.symm.trans hr)
        simp [hother]
  | _ => rfl

/-- The newest row of a model is what the register keeps. -/
theorem newest_history (collate : String → String) (m : String) (calls : List TimedCall)
    (t : Table String ConfigColumns) :
    (newestOf collate m (calls.foldl (fun t c => tunedStep collate c t) t)).map stamp =
      kept lockColumns (history collate m t.rows calls) := by
  induction calls using List.reverseRecOn with
  | nil =>
    rw [history, List.filterMap_nil, List.append_nil]
    exact newest_rows lockColumns (t.ascending.filter _)
  | append_singleton calls c ih =>
    have hhistory : history collate m t.rows (calls ++ [c]) =
        history collate m t.rows calls ++ (callDeed collate m c).toList := by
      rw [history, List.filterMap_append, ← List.append_assoc, ← history]
      cases hdeed : callDeed collate m c <;> simp [hdeed]
    rw [List.foldl_concat, newest_step, ih, hhistory, kept, kept, List.foldl_append]

/-- What holds of the newest row, by the write that stands. -/
theorem newest_exists_iff (collate : String → String) (m : String) (P : ConfigColumns → Prop)
    (calls : List TimedCall) (t : Table String ConfigColumns) :
    (∃ row, newestOf collate m (calls.foldl (fun t c => tunedStep collate c t) t) = some row ∧
        P row.columns) ↔
      ∃ before time value after, Stands (history collate m t.rows calls) before time value after ∧
        P (if Touched after then lockColumns value else value) := by
  have hhistory := newest_history collate m calls t
  generalize newestOf collate m (calls.foldl (fun t c => tunedStep collate c t) t) = newest at hhistory ⊢
  constructor
  · intro h
    obtain ⟨row, rfl, hP⟩ := h
    obtain ⟨before, value, after, hstands, hvalue⟩ :=
      (kept_eq_some_iff lockColumns_twice).mp hhistory.symm
    exact ⟨before, _, value, after, hstands, hvalue ▸ hP⟩
  · intro h
    obtain ⟨before, time, value, after, hstands, hP⟩ := h
    rw [hstands.kept_eq lockColumns_twice] at hhistory
    obtain ⟨row, rfl, hstamp⟩ := Option.map_eq_some_iff.mp hhistory
    have hcolumns : row.columns = if Touched after then lockColumns value else value :=
      congrArg Prod.snd hstamp
    exact ⟨row, rfl, hcolumns ▸ hP⟩

/-- The same for what holds of the newest row, if there is one. -/
theorem newest_forall_iff (collate : String → String) (m : String) (P : ConfigColumns → Prop)
    (calls : List TimedCall) (t : Table String ConfigColumns) :
    (∀ row, newestOf collate m (calls.foldl (fun t c => tunedStep collate c t) t) = some row →
        P row.columns) ↔
      ∀ before time value after, Stands (history collate m t.rows calls) before time value after →
        P (if Touched after then lockColumns value else value) := by
  have hexists := not_iff_not.mpr (newest_exists_iff collate m (fun columns => ¬ P columns) calls t)
  simpa only [not_exists, not_and, not_not] using hexists

end LlmMax.TunedHistory
