import LlmMax.History
import LlmMax.SqlFallback

/-! Reading back through the wrapper what was written through it, while MySQL comes and goes and
refuses what does not fit its columns. -/
namespace LlmMax.FallbackReads
open Domain BenchMetrics Storage SqlTable SqlStorage History TimedRegister TunedHistory SqlFallback

/-- The runs saved in a sequence of calls. -/
def runsOf (calls : List TimedCall) : List RunRecord :=
  calls.filterMap fun c => match c.op with
    | .saveRun record => some record
    | _ => none

/-- How many runs there are in either store with those that the calls have saved. -/
def totalRuns (s : Stores) (calls : List TimedCall) : ℕ :=
  s.primary.runRecords.rows.length + s.fallback.runRecords.rows.length + (runsOf calls).length

section reads
variable (collate : String → String) (s : Stores)

/-- What the caller gets for a call after the earlier ones. -/
def reply (past : List Scheduled) (x : Scheduled) : Except Failure x.call.op.Reply :=
  (attempted collate x (storesAfter collate past s)).1

/-- A read returns what the last save that returned has put down, and a long enough list contains
every run whose save has returned and that it asks for. -/
def ReadsBack (past : List Scheduled) : Scheduled → Prop
  | ⟨⟨time, .getTunedConfig modelId⟩, fault⟩ =>
    ∀ c, (savesOf modelId ((returned collate past s).map Scheduled.call)).getLast? = some c →
      ∃ r, reply collate s past ⟨⟨time, .getTunedConfig modelId⟩, fault⟩ = .ok (some r) ∧
        savedAs r = savedAs c
  | ⟨⟨time, .listRuns modelId limit⟩, fault⟩ =>
    totalRuns s ((returned collate past s).map Scheduled.call) ≤ limit →
      ∀ record ∈ runsOf ((returned collate past s).map Scheduled.call),
      (modelId = none ∨ modelId = some record.modelId) →
      ∃ rs, reply collate s past ⟨⟨time, .listRuns modelId limit⟩, fault⟩ = .ok rs ∧
        ∃ r ∈ rs, runColumns r = runColumns record
  | _ => True

/-- The calls that a store serves. -/
def servedCalls (past : List Scheduled) : List TimedCall :=
  (past.filter fun x => x.side.isSome).map Scheduled.call

/-- The runs that a store holds: its rows, and what it has put down of those it was given. -/
def heldRuns (side : Side) (past : List Scheduled) : List RunColumns :=
  (side.of s).runRecords.rows.map Row.columns ++ (runsOf (servedBy side past)).filterMap side.stored

/-- The store that serves a read has put down the config that was saved last, and no config that
it takes for one of the model carries a later time, or the same one and came later; the store that
serves a list has put down every run with the figures it was saved with. -/
def SavedWhereRead (past : List Scheduled) (x : Scheduled) : Prop :=
  match x.call.op with
  | .getTunedConfig modelId =>
    ∀ c, (savesOf modelId (servedCalls past)).getLast? = some c →
      ∃ side, x.side = some side ∧ ∃ before time columns after,
        Stands (history (side.collation collate) modelId (side.of s).tunedConfigs.rows
          (servedBy side past)) before time columns after ∧
        (columns.modelId, columns.runtime, columns.configJson) = savedAs c
  | .listRuns modelId limit =>
    totalRuns s (servedCalls past) ≤ limit → ∀ record ∈ runsOf (servedCalls past),
      (modelId = none ∨ modelId = some record.modelId) →
      ∃ side, x.side = some side ∧ runColumns record ∈ heldRuns s side past
  | _ => True

end reads

variable {collate : String → String} {s : Stores} {past : List Scheduled} {x : Scheduled} {side : Side}

lemma reply_served (h : x.side = some side) : reply collate s past x =
    (side.serve collate x.call (side.after collate (servedBy side past) (side.of s))).1 := by
  rw [reply, (attempted_served collate h _).1, storesAfter_side]

lemma runs_after (collate : String → String) (side : Side) (calls : List TimedCall) (db : Database) :
    (side.after collate calls db).runRecords.rows.map Row.columns =
      db.runRecords.rows.map Row.columns ++ (runsOf calls).filterMap side.stored := by
  induction calls generalizing db with
  | nil => simp [Side.after, runsOf]
  | cons c calls ih =>
    have hruns : runsOf (c :: calls) = runsOf [c] ++ runsOf calls := List.filterMap_append (l := [c])
    have hstep : (side.effect collate c db).runRecords.rows.map Row.columns =
        db.runRecords.rows.map Row.columns ++ (runsOf [c]).filterMap side.stored := by
      obtain ⟨time, op⟩ := c
      cases op with
      | saveRun record =>
        simp only [Side.effect, Side.runStep, runsOf, List.filterMap_cons, List.filterMap_nil]
        cases side.stored record with
        | none => simp
        | some columns => simp
      | _ => simp [Side.effect, Side.runStep, runsOf]
    rw [Side.after, List.foldl_cons, ← Side.after, ih, hstep, hruns, List.filterMap_append,
      List.append_assoc]

/-- A store holds no more runs than have been saved. -/
lemma runs_after_le (collate : String → String) (s : Stores) (past : List Scheduled) (side : Side) :
    (side.after collate (servedBy side past) (side.of s)).runRecords.rows.length ≤
      totalRuns s (servedCalls past) := by
  have hlength := congrArg List.length (runs_after collate side (servedBy side past) (side.of s))
  have hstored : ((runsOf (servedBy side past)).filterMap side.stored).length ≤
      (runsOf (servedBy side past)).length := List.length_filterMap_le _ _
  have hserved : (runsOf (servedBy side past)).length ≤ (runsOf (servedCalls past)).length := by
    have hsub : (past.filter fun x => x.side = some side).Sublist (past.filter fun x => x.side.isSome) :=
      List.monotone_filter_right past fun x hx => by simp [of_decide_eq_true hx]
    exact ((hsub.map _).filterMap _).length_le
  have hstart : (side.of s).runRecords.rows.length ≤
      s.primary.runRecords.rows.length + s.fallback.runRecords.rows.length := by
    cases side with
    | primary => exact Nat.le_add_right _ _
    | fallback => exact Nat.le_add_left _ _
  simp only [List.length_map, List.length_append] at hlength
  simp only [totalRuns]
  omega

lemma runColumns_row (row : Row String RunColumns) : runColumns (rowToRunRecord row) = row.columns :=
  rfl

lemma serve_listRuns {modelId : Option String} {limit : ℤ} (time : String) {db : Database}
    (hallowed : side.Allows limit = true) (hlimit : 0 ≤ limit) :
    (side.serve collate ⟨time, .listRuns modelId limit⟩ db).1 =
      .ok (((newestFirst (MySqlStore.matching (side.collation collate) RunColumns.modelId modelId
        db.runRecords)).take limit.toNat).map rowToRunRecord) := by
  cases side with
  | primary =>
    have hbounds : 0 ≤ limit ∧ limit < 2 ^ 64 := of_decide_eq_true hallowed
    simp only [Side.serve, MySqlStore.serve, MySqlStore.listRuns, MySqlStore.listNewest, if_pos hbounds]
    rfl
  | fallback =>
    have hbind : SqliteStore.bindInteger limit = .ok limit :=
      SqliteStore.bindInteger_ok (of_decide_eq_true hallowed)
    have hmatching : SqliteStore.matching RunColumns.modelId modelId db.runRecords =
        MySqlStore.matching id RunColumns.modelId modelId db.runRecords := rfl
    simp only [Side.serve, SqliteStore.serve, SqliteStore.listRuns, hbind, Bind.bind, Except.bind, pure,
      Except.pure, SqliteStore.listNewest, SqliteStore.limited, if_pos hlimit, hmatching]
    rfl

lemma mem_matching_own {key : String → String} {modelId : Option String} {record : RunRecord}
    {t : Table String RunColumns} (hasked : modelId = none ∨ modelId = some record.modelId)
    {row : Row String RunColumns} (hrow : row.columns = runColumns record) :
    row ∈ MySqlStore.matching key RunColumns.modelId modelId t ↔ row ∈ t.rows := by
  rcases hasked with rfl | rfl
  · exact Iff.rfl
  · unfold MySqlStore.matching
    dsimp only
    split_ifs
    · exact Iff.rfl
    · simp [hrow, runColumns]

/-- A list that is long enough contains every run of the model that the store holds. -/
lemma listed_iff (collate : String → String) {modelId : Option String} {limit : ℤ}
    {record : RunRecord} (time : String) {db : Database} (hallowed : side.Allows limit = true)
    (hlimit : (db.runRecords.rows.length : ℤ) ≤ limit)
    (hasked : modelId = none ∨ modelId = some record.modelId) :
    (∃ rs, (side.serve collate ⟨time, .listRuns modelId limit⟩ db).1 = .ok rs ∧
        ∃ r ∈ rs, runColumns r = runColumns record) ↔
      runColumns record ∈ db.runRecords.rows.map Row.columns := by
  generalize hmatching : MySqlStore.matching (side.collation collate) RunColumns.modelId modelId
    db.runRecords = rows
  have hle : rows.length ≤ db.runRecords.rows.length := by
    rw [← hmatching]
    unfold MySqlStore.matching
    split
    · exact le_rfl
    · split_ifs
      · exact le_rfl
      · exact List.length_filter_le _ _
  have hall : (newestFirst rows).take limit.toNat = newestFirst rows := by
    apply List.take_of_length_le
    rw [(newestFirst_perm rows).length_eq]
    omega
  rw [serve_listRuns time hallowed (by omega), hmatching, hall]
  have hmem {row : Row String RunColumns} (hrow : row.columns = runColumns record) :
      row ∈ newestFirst rows ↔ row ∈ db.runRecords.rows := by
    rw [(newestFirst_perm rows).mem_iff, ← hmatching, mem_matching_own hasked hrow]
  constructor
  · intro h
    obtain ⟨rs, hrs, r, hr, hcolumns⟩ := h
    cases hrs
    obtain ⟨row, hrow, rfl⟩ := List.mem_map.mp hr
    rw [runColumns_row] at hcolumns
    exact List.mem_map.mpr ⟨row, (hmem hcolumns).mp hrow, hcolumns⟩
  · intro h
    obtain ⟨row, hrow, hcolumns⟩ := List.mem_map.mp h
    exact ⟨_, rfl, rowToRunRecord row, List.mem_map_of_mem ((hmem hcolumns).mpr hrow), hcolumns⟩

lemma returned_map (collate : String → String) (past : List Scheduled) (s : Stores) :
    (returned collate past s).map Scheduled.call = servedCalls past := by
  rw [returned_eq, servedCalls]

/-- A read of a config is always served. -/
lemma exists_side (modelId time : String) (fault : Option Failure) :
    ∃ side, Scheduled.side ⟨⟨time, .getTunedConfig modelId⟩, fault⟩ = some side := by
  cases fault with
  | none => exact ⟨.primary, rfl⟩
  | some e => exact ⟨.fallback, rfl⟩

lemma readsBack_get_iff (collate : String → String) (s : Stores) (past : List Scheduled)
    (time modelId : String) (fault : Option Failure) :
    ReadsBack collate s past ⟨⟨time, .getTunedConfig modelId⟩, fault⟩ ↔
      SavedWhereRead collate s past ⟨⟨time, .getTunedConfig modelId⟩, fault⟩ := by
  simp only [ReadsBack, SavedWhereRead, returned_map]
  refine forall₂_congr fun c _ => ?_
  obtain ⟨side, hside⟩ := exists_side modelId time fault
  have hreply : reply collate s past ⟨⟨time, .getTunedConfig modelId⟩, fault⟩ =
      .ok ((newestOf (side.collation collate) modelId ((servedBy side past).foldl
        (fun t c => tunedStep (side.collation collate) c t) (side.of s).tunedConfigs)).map
          rowToTunedConfig) := by
    rw [reply_served hside, ← after_tuned]
    cases side <;> rfl
  have hnewest := newest_exists_iff (side.collation collate) modelId
    (fun columns => (columns.modelId, columns.runtime, columns.configJson) = savedAs c)
    (servedBy side past) (side.of s).tunedConfigs
  have hplace (v : ConfigColumns) (b : Bool) :
      let kept := if b then lockColumns v else v
      (kept.modelId, kept.runtime, kept.configJson) = (v.modelId, v.runtime, v.configJson) := by
    cases b <;> rfl
  simp only [hplace] at hnewest
  simp only [hreply, hside, Option.some.injEq, exists_eq_left', ← hnewest, Except.ok.injEq,
    Option.map_eq_some_iff]
  constructor
  · intro h
    obtain ⟨r, ⟨row, hrow, rfl⟩, hsaved⟩ := h
    exact ⟨row, hrow, hsaved⟩
  · intro h
    obtain ⟨row, hrow, hsaved⟩ := h
    exact ⟨_, ⟨row, hrow, rfl⟩, hsaved⟩

lemma readsBack_list_iff (collate : String → String) (s : Stores) (past : List Scheduled)
    (time : String) (modelId : Option String) (limit : ℤ) (fault : Option Failure) :
    ReadsBack collate s past ⟨⟨time, .listRuns modelId limit⟩, fault⟩ ↔
      SavedWhereRead collate s past ⟨⟨time, .listRuns modelId limit⟩, fault⟩ := by
  simp only [ReadsBack, SavedWhereRead, returned_map]
  refine imp_congr_right fun hlimit => forall₃_congr fun record _ hasked => ?_
  cases hside : Scheduled.side ⟨⟨time, .listRuns modelId limit⟩, fault⟩ with
  | none =>
    obtain ⟨⟨e, hraised⟩, -⟩ := attempted_refused collate hside (storesAfter collate past s)
    simp [reply, hraised]
  | some side =>
    have hle := (Int.ofNat_le.mpr (runs_after_le collate s past side)).trans hlimit
    have hlisted := listed_iff collate time (side_takes hside) hle hasked
    simp only [reply_served hside, Option.some.injEq, exists_eq_left']
    rw [hlisted, runs_after, heldRuns]

/-- What a read gets is put down where it reads, and the other way round. -/
theorem readsBack_iff (collate : String → String) (s : Stores) (past : List Scheduled) (x : Scheduled) :
    ReadsBack collate s past x ↔ SavedWhereRead collate s past x := by
  obtain ⟨⟨time, op⟩, fault⟩ := x
  cases op with
  | getTunedConfig modelId => exact readsBack_get_iff collate s past time modelId fault
  | listRuns modelId limit => exact readsBack_list_iff collate s past time modelId limit fault
  | _ => exact Iff.rfl

/-- A sequence of calls reads back what it wrote exactly when every read is served by a store
that has put it down, and puts nothing else before it. -/
theorem run_readsBack_iff (collate : String → String) (s : Stores) (calls : List Scheduled) :
    Each (ReadsBack collate s) [] calls ↔ Each (SavedWhereRead collate s) [] calls := by
  constructor
  · intro h
    exact h.imp fun past x => (readsBack_iff collate s past x).mp
  · intro h
    exact h.imp fun past x => (readsBack_iff collate s past x).mpr

/-- MySQL is up for a save and down for the read that follows. -/
theorem run_readsBack_fails :
    ¬ Each (ReadsBack id ⟨{}, {}, false⟩) [] [
      ⟨⟨"2024-01-01 00:00:00",
        .saveTunedConfig { modelId := "m", config := Config.ofCtx 4096 }⟩, none⟩,
      ⟨⟨"2024-01-01 00:00:05", .getTunedConfig "m"⟩,
        some (Failure.ofMessage "Can't connect to MySQL server")⟩] := by
  intro h
  have hread := (readsBack_iff _ _ _ _).mp h.2.1
  obtain ⟨side, hside, before, time, columns, after, hstands, -⟩ := hread _ rfl
  obtain rfl : Side.fallback = side := Option.some.inj hside
  exact List.append_ne_nil_of_right_ne_nil before (List.cons_ne_nil _ _) hstands.split.symm

end LlmMax.FallbackReads
