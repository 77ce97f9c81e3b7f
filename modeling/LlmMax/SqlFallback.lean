import LlmMax.FallbackStorage
import LlmMax.MySqlStore
import LlmMax.SqliteStore
import LlmMax.TunedHistory

/-! The wrapper over the MySQL store and the SQLite store. MySQL serves a call unless the schedule
makes it raise or the call carries values that it refuses; then SQLite serves it, if it can bind
the values. Either store is the replay of the calls it has served. -/
namespace LlmMax.SqlFallback
open Domain BenchMetrics Storage EffectProgram Failover FallbackStorage SqlTable SqlStorage
open TunedHistory
open SqliteStore (FitsInteger)

abbrev Stores := Pair Database Database

/-- The MySQL store is the primary one. -/
inductive Side
  | primary
  | fallback
  deriving DecidableEq

def Side.of (s : Stores) : Side → Database
  | .primary => s.primary
  | .fallback => s.fallback

section sides
variable (collate : String → String)

/-- By what a store compares model ids. -/
def Side.collation : Side → String → String
  | .primary => collate
  | .fallback => id

def Side.serve (side : Side) (c : TimedCall) : Database → Except Failure c.op.Reply × Database :=
  match side with
  | .primary => MySqlStore.serve collate noFaults c.time c.op
  | .fallback => SqliteStore.serve noFaults c.time c.op

end sides

/-- What a store puts down of a run; values that do not fit its columns are refused. -/
def Side.stored : Side → RunRecord → Option RunColumns
  | .primary, record => (MySqlStore.bindRun record).toOption
  | .fallback, record => if FitsInteger record.tokensGenerated then some (runColumns record) else none

/-- The limits that the statements of a store allow. -/
def Side.Allows : Side → ℤ → Bool
  | .primary, limit => 0 ≤ limit ∧ limit < 2 ^ 64
  | .fallback, limit => FitsInteger limit

/-- The store carries the call out: its values fit the columns. -/
def Side.Takes (side : Side) : StorageCall → Bool
  | .saveRun record => (side.stored record).isSome
  | .listRuns _ limit | .listAutopilotEvents _ limit => side.Allows limit
  | .saveTunedConfig config =>
    match side with
    | .primary => (MySqlStore.bindConfig config).isOk
    | .fallback => true
  | .saveAutopilotEvent event =>
    match side with
    | .primary => (MySqlStore.bindEvent event).isOk
    | .fallback => true
  | .getTunedConfig _ | .lockConfig _ => true

/-- What a call does to the log of runs. -/
def Side.runStep (side : Side) (c : TimedCall) (t : Table String RunColumns) :
    Table String RunColumns :=
  match c.op with
  | .saveRun record =>
    match side.stored record with
    | some columns => t.insert c.time columns
    | none => t
  | _ => t

def eventStep (c : TimedCall) (t : Table String EventColumns) : Table String EventColumns :=
  match c.op with
  | .saveAutopilotEvent event => t.insert c.time (eventColumns event)
  | _ => t

/-- What a call does to the store that carries it out. -/
def Side.effect (collate : String → String) (side : Side) (c : TimedCall) (db : Database) :
    Database where
  runRecords := side.runStep c db.runRecords
  tunedConfigs := tunedStep (side.collation collate) c db.tunedConfigs
  autopilotEvents := eventStep c db.autopilotEvents

/-- A call, and what MySQL raises on it. -/
structure Scheduled where
  call : TimedCall
  fault : Option Failure := none

def Scheduled.attempt (x : Scheduled) : Attempt storage Failure where
  op := x.call
  primaryFault := x.fault

/-- The store that serves the call, if one of them does. -/
def Scheduled.side (x : Scheduled) : Option Side :=
  if x.fault.isNone && Side.primary.Takes x.call.op then some .primary
  else if Side.fallback.Takes x.call.op then some .fallback
  else none

/-- The calls that one of the stores has served. -/
def servedBy (side : Side) (past : List Scheduled) : List TimedCall :=
  (past.filter fun x => x.side = some side).map Scheduled.call

section wrapper
variable (collate : String → String)

/-- One call through the wrapper. -/
def attempted (x : Scheduled) (s : Stores) : Except Failure x.call.op.Reply × Stores :=
  attempt (MySqlStore.store collate) (SqliteStore.store noFaults) x.attempt s

/-- The stores after a sequence of calls. -/
def storesAfter (past : List Scheduled) (s : Stores) : Stores :=
  past.foldl (fun s x => (attempted collate x s).2) s

/-- The calls that have returned. -/
def returned : List Scheduled → Stores → List Scheduled
  | [], _ => []
  | x :: past, s =>
    let later := returned past (attempted collate x s).2
    if (attempted collate x s).1.isOk then x :: later else later

/-- A store after the calls that it has served. -/
def Side.after (side : Side) (calls : List TimedCall) (db : Database) : Database :=
  calls.foldl (fun db c => side.effect collate c db) db

end wrapper

section serve
variable {collate : String → String} {side : Side} {c : TimedCall} {db : Database}

/-- A call comes out in one of two ways: carried out, or refused with the store as it was. -/
inductive Comes (collate : String → String) (side : Side) (c : TimedCall) (db : Database) :
    Except Failure c.op.Reply × Database → Prop
  | served (taken : side.Takes c.op = true) (reply : c.op.Reply) :
    Comes collate side c db (.ok reply, side.effect collate c db)
  | refused (refused : side.Takes c.op = false) (message : String) :
    Comes collate side c db (.error (Failure.ofMessage message), db)

lemma comes_served {reply : c.op.Reply} (htaken : side.Takes c.op = true)
    (h : side.serve collate c db = (.ok reply, side.effect collate c db)) :
    Comes collate side c db (side.serve collate c db) := by
  rw [h]
  exact .served htaken reply

/-- A call whose values are bound first is carried out if they fit, and refused if they do not. -/
lemma comes_bound {γ : Type} {bound : Except Failure γ} (htaken : side.Takes c.op = bound.isOk)
    (hrefuses : MySqlStore.Refuses bound)
    (hserved : ∀ columns, bound = .ok columns → ∃ reply,
      side.serve collate c db = (.ok reply, side.effect collate c db))
    (hrefused : ∀ e, bound = .error e → side.serve collate c db = (.error e, db)) :
    Comes collate side c db (side.serve collate c db) := by
  cases bound with
  | ok columns =>
    obtain ⟨reply, hserve⟩ := hserved columns rfl
    exact comes_served htaken hserve
  | error e =>
    obtain ⟨message, rfl⟩ := hrefuses e rfl
    rw [hrefused _ rfl]
    exact .refused htaken message

lemma bindInteger_isOk (n : ℤ) : (SqliteStore.bindInteger n).isOk = Side.fallback.Allows n := by
  unfold SqliteStore.bindInteger
  split_ifs with h
  · exact (decide_eq_true h).symm
  · exact (decide_eq_false h).symm

lemma effect_saveRun {record : RunRecord} {columns : RunColumns} (time : String)
    (h : side.stored record = some columns) (db : Database) :
    side.effect collate ⟨time, .saveRun record⟩ db =
      { db with runRecords := db.runRecords.insert time columns } := by
  simp [Side.effect, Side.runStep, h, tunedStep, eventStep]

lemma comes_saveRun (collate : String → String) (side : Side) (time : String) (record : RunRecord)
    (db : Database) :
    Comes collate side ⟨time, .saveRun record⟩ db (side.serve collate ⟨time, .saveRun record⟩ db) := by
  cases side with
  | primary =>
    refine comes_bound ?_ (MySqlStore.bindRun_refuses record) ?_ ?_
    · rw [Side.Takes, Side.stored]
      cases MySqlStore.bindRun record <;> rfl
    · intro columns hbind
      have hstored : Side.primary.stored record = some columns := by
        rw [Side.stored, hbind]
        rfl
      have hserve := MySqlStore.saveRun_ok hbind time db
      rw [← effect_saveRun time hstored] at hserve
      exact ⟨_, hserve⟩
    · intro e hbind
      simp only [Side.serve, MySqlStore.serve, MySqlStore.saveRun, hbind, MySqlStore.saveRow_refused]
  | fallback =>
    have hrefuses : MySqlStore.Refuses (SqliteStore.bindInteger record.tokensGenerated) :=
      MySqlStore.refuses_ite _ _
    refine comes_bound ?_ hrefuses ?_ ?_
    · rw [bindInteger_isOk, Side.Takes, Side.stored]
      by_cases hfits : FitsInteger record.tokensGenerated <;> simp [Side.Allows, hfits]
    · intro tokensGenerated hbind
      have hfits : FitsInteger record.tokensGenerated := by
        have hallowed := bindInteger_isOk record.tokensGenerated
        rw [hbind] at hallowed
        exact of_decide_eq_true hallowed.symm
      have hstored : Side.fallback.stored record = some (runColumns record) := if_pos hfits
      have hserve := SqliteStore.saveRun_ok hfits time db
      rw [← effect_saveRun time hstored] at hserve
      exact ⟨_, hserve⟩
    · intro e hbind
      simp only [Side.serve, SqliteStore.serve, SqliteStore.saveRun, hbind]
      rfl

lemma comes_saveTunedConfig (collate : String → String) (side : Side) (time : String)
    (config : TunedConfig) (db : Database) :
    Comes collate side ⟨time, .saveTunedConfig config⟩ db
      (side.serve collate ⟨time, .saveTunedConfig config⟩ db) := by
  cases side with
  | primary =>
    refine comes_bound rfl (MySqlStore.bindConfig_refuses config) ?_ ?_
    · intro columns hbind
      exact ⟨_, MySqlStore.saveTunedConfig_ok (by rw [hbind]; rfl) time db⟩
    · intro e hbind
      simp only [Side.serve, MySqlStore.serve, MySqlStore.saveTunedConfig, hbind,
        MySqlStore.saveRow_refused]
  | fallback => exact comes_served rfl (SqliteStore.saveTunedConfig_ok config time db)

lemma comes_saveAutopilotEvent (collate : String → String) (side : Side) (time : String)
    (event : AutopilotEvent) (db : Database) :
    Comes collate side ⟨time, .saveAutopilotEvent event⟩ db
      (side.serve collate ⟨time, .saveAutopilotEvent event⟩ db) := by
  cases side with
  | primary =>
    refine comes_bound rfl (MySqlStore.bindEvent_refuses event) ?_ ?_
    · intro columns hbind
      exact ⟨_, MySqlStore.saveAutopilotEvent_ok (by rw [hbind]; rfl) time db⟩
    · intro e hbind
      simp only [Side.serve, MySqlStore.serve, MySqlStore.saveAutopilotEvent, hbind,
        MySqlStore.saveRow_refused]
  | fallback => exact comes_served rfl (SqliteStore.saveAutopilotEvent_ok event time db)

/-- A read changes nothing, and is refused if it raises. -/
lemma comes_read (hsame : (side.serve collate c db).2 = db) (heffect : side.effect collate c db = db)
    (htaken : (side.serve collate c db).1.isOk = side.Takes c.op)
    (hrefuses : MySqlStore.Refuses (side.serve collate c db).1) :
    Comes collate side c db (side.serve collate c db) := by
  refine comes_bound htaken.symm hrefuses ?_ ?_
  · intro reply hreply
    refine ⟨reply, ?_⟩
    rw [heffect]
    exact Prod.ext hreply hsame
  · intro e hraised
    exact Prod.ext hraised hsame

lemma refuses_map {α β : Type} (f : α → β) {x : Except Failure α} (h : MySqlStore.Refuses x) :
    MySqlStore.Refuses (x.map f) := h.bind fun a => MySqlStore.refuses_ok (f a)

lemma isOk_map {α β : Type} (f : α → β) (x : Except Failure α) : (x.map f).isOk = x.isOk := by
  cases x <;> rfl

lemma listNewest_isOk {α : Type} (collate : String → String) (modelOf : α → String)
    (modelId : Option String) (limit : ℤ) (t : Table String α) :
    (MySqlStore.listNewest collate modelOf modelId limit t).isOk = Side.primary.Allows limit := by
  unfold MySqlStore.listNewest
  split_ifs with h
  · exact (decide_eq_true h).symm
  · exact (decide_eq_false h).symm

/-- A store carries a call out, or refuses it and is left as it was. -/
theorem serve_comes (collate : String → String) (side : Side) (c : TimedCall) (db : Database) :
    Comes collate side c db (side.serve collate c db) := by
  obtain ⟨time, op⟩ := c
  cases op with
  | saveRun record => exact comes_saveRun collate side time record db
  | saveTunedConfig config => exact comes_saveTunedConfig collate side time config db
  | saveAutopilotEvent event => exact comes_saveAutopilotEvent collate side time event db
  | getTunedConfig modelId => cases side <;> exact comes_served rfl rfl
  | lockConfig modelId => cases side <;> exact comes_served rfl rfl
  | listRuns modelId limit =>
    cases side with
    | primary =>
      exact comes_read rfl rfl ((isOk_map _ _).trans (listNewest_isOk _ _ _ _ _))
        (refuses_map _ (MySqlStore.refuses_ite _ _))
    | fallback =>
      exact comes_read rfl rfl ((isOk_map _ _).trans (bindInteger_isOk limit))
        (refuses_map _ (MySqlStore.refuses_ite _ _))
  | listAutopilotEvents modelId limit =>
    cases side with
    | primary =>
      exact comes_read rfl rfl ((isOk_map _ _).trans (listNewest_isOk _ _ _ _ _))
        (refuses_map _ (MySqlStore.refuses_ite _ _))
    | fallback =>
      exact comes_read rfl rfl ((isOk_map _ _).trans (bindInteger_isOk limit))
        (refuses_map _ (MySqlStore.refuses_ite _ _))

end serve

section wrapper
variable {collate : String → String} {x : Scheduled} {side : Side}

lemma side_takes (h : x.side = some side) : side.Takes x.call.op = true := by
  unfold Scheduled.side at h
  split_ifs at h with hprimary hfallback
  · cases h
    exact (Bool.and_eq_true_iff.mp hprimary).2
  · cases h
    exact hfallback

/-- The three ways a call through the wrapper comes out. -/
inductive Outcome (collate : String → String) (x : Scheduled) (s : Stores) :
    Except Failure x.call.op.Reply × Stores → Prop
  | primary (served : x.side = some .primary) {reply : x.call.op.Reply}
      (answered : Side.primary.serve collate x.call s.primary =
        (.ok reply, Side.primary.effect collate x.call s.primary)) :
      Outcome collate x s
        (.ok reply, ⟨Side.primary.effect collate x.call s.primary, s.fallback, false⟩)
  | fallback (served : x.side = some .fallback) {reply : x.call.op.Reply}
      (answered : Side.fallback.serve collate x.call s.fallback =
        (.ok reply, Side.fallback.effect collate x.call s.fallback)) :
      Outcome collate x s
        (.ok reply, ⟨s.primary, Side.fallback.effect collate x.call s.fallback, true⟩)
  | neither (refused : x.side = none) (e : Failure) :
      Outcome collate x s (.error e, ⟨s.primary, s.fallback, true⟩)

/-- When MySQL has raised, the call is up to SQLite. -/
lemma outcome_fallback {e : Failure}
    (hprimary : (x.fault.isNone && Side.primary.Takes x.call.op) = false) (s : Stores) :
    Outcome collate x s
      (Failover.call (fun db => (.error e, db)) (Side.fallback.serve collate x.call) s) := by
  have hside : x.side = if Side.fallback.Takes x.call.op then some .fallback else none := by
    unfold Scheduled.side
    rw [hprimary]
    rfl
  have hcomes := serve_comes collate .fallback x.call s.fallback
  unfold Failover.call
  dsimp only
  generalize hout : Side.fallback.serve collate x.call s.fallback = out at hcomes
  cases hcomes with
  | served htaken reply => exact .fallback (by rw [hside, if_pos htaken]) hout
  | refused hrefused message => exact .neither (by rw [hside, hrefused]; rfl) _

theorem attempted_outcome (collate : String → String) (x : Scheduled) (s : Stores) :
    Outcome collate x s (attempted collate x s) := by
  have hcall : attempted collate x s = Failover.serve (MySqlStore.store collate)
      (SqliteStore.store noFaults) x.attempt s := attempt_eq _ _ _ _
  rw [hcall]
  obtain ⟨call, fault⟩ := x
  cases fault with
  | some e => exact outcome_fallback rfl s
  | none =>
    have hcomes := serve_comes collate .primary call s.primary
    have hserve : Failover.serve (MySqlStore.store collate) (SqliteStore.store noFaults)
        (Scheduled.attempt ⟨call, none⟩) s =
          Failover.call (Side.primary.serve collate call) (Side.fallback.serve collate call) s := rfl
    rw [hserve]
    generalize hout : Side.primary.serve collate call s.primary = out at hcomes
    cases hcomes with
    | served htaken reply =>
      have hanswered : Failover.call (Side.primary.serve collate call)
          (Side.fallback.serve collate call) s =
            (.ok reply, ⟨Side.primary.effect collate call s.primary, s.fallback, false⟩) := by
        simp only [Failover.call, hout]
      have hside : Scheduled.side ⟨call, none⟩ = some .primary := if_pos htaken
      rw [hanswered]
      exact .primary hside hout
    | refused hrefused message =>
      have hraised : Failover.call (Side.primary.serve collate call)
          (Side.fallback.serve collate call) s = Failover.call
            (fun db => (.error (Failure.ofMessage message), db))
            (Side.fallback.serve collate call) s := by
        simp only [Failover.call, hout]
      rw [hraised]
      exact outcome_fallback (x := ⟨call, none⟩) hrefused s

/-- A call that is served is carried out by its store and by no other. -/
lemma attempted_served (collate : String → String) (h : x.side = some side) (s : Stores) :
    (attempted collate x s).1 = (side.serve collate x.call (side.of s)).1 ∧
      (attempted collate x s).1.isOk = true ∧
      ∀ side' : Side, side'.of (attempted collate x s).2 =
        if side' = side then side.effect collate x.call (side.of s) else side'.of s := by
  have houtcome := attempted_outcome collate x s
  generalize attempted collate x s = out at houtcome ⊢
  cases houtcome with
  | primary served answered =>
    obtain rfl := Option.some.inj (served.symm.trans h)
    refine ⟨(congrArg Prod.fst answered).symm, rfl, fun side' => ?_⟩
    cases side' <;> rfl
  | fallback served answered =>
    obtain rfl := Option.some.inj (served.symm.trans h)
    refine ⟨(congrArg Prod.fst answered).symm, rfl, fun side' => ?_⟩
    cases side' <;> rfl
  | neither refused e =>
    rw [h] at refused
    cases refused

/-- A call that no store serves leaves both as they were. -/
lemma attempted_refused (collate : String → String) (h : x.side = none) (s : Stores) :
    (∃ e, (attempted collate x s).1 = .error e) ∧
      ∀ side : Side, side.of (attempted collate x s).2 = side.of s := by
  have houtcome := attempted_outcome collate x s
  generalize attempted collate x s = out at houtcome ⊢
  cases houtcome with
  | primary served answered =>
    rw [h] at served
    cases served
  | fallback served answered =>
    rw [h] at served
    cases served
  | neither refused e =>
    refine ⟨⟨e, rfl⟩, fun side => ?_⟩
    cases side <;> rfl

/-- Each store changes by the calls that it serves. -/
lemma attempted_side (collate : String → String) (x : Scheduled) (s : Stores) (side : Side) :
    side.of (attempted collate x s).2 =
      if x.side = some side then side.effect collate x.call (side.of s) else side.of s := by
  cases h : x.side with
  | none => simp [(attempted_refused collate h s).2]
  | some side' =>
    rw [(attempted_served collate h s).2.2]
    by_cases hside : side = side'
    · simp [hside]
    · simp [hside, Ne.symm hside]

/-- Each store is the replay of the calls that it has served. -/
theorem storesAfter_side (collate : String → String) (past : List Scheduled) (s : Stores) (side : Side) :
    side.of (storesAfter collate past s) = side.after collate (servedBy side past) (side.of s) := by
  induction past generalizing s with
  | nil => rfl
  | cons x past ih =>
    have hrest : storesAfter collate (x :: past) s =
        storesAfter collate past (attempted collate x s).2 := rfl
    rw [hrest, ih, attempted_side]
    by_cases hside : x.side = some side
    · simp [servedBy, hside, Side.after]
    · simp [servedBy, hside]

/-- The calls that return are those that a store serves. -/
lemma returned_eq (collate : String → String) (past : List Scheduled) (s : Stores) :
    returned collate past s = past.filter fun x => x.side.isSome := by
  induction past generalizing s with
  | nil => rfl
  | cons x past ih =>
    have hok : (attempted collate x s).1.isOk = x.side.isSome := by
      cases h : x.side with
      | none =>
        obtain ⟨⟨e, he⟩, -⟩ := attempted_refused collate h s
        rw [he]
        rfl
      | some side => exact (attempted_served collate h s).2.1
    simp only [returned, hok, ih, List.filter_cons]

/-- The tuned configs after the calls that a store has served. -/
lemma after_tuned (collate : String → String) (side : Side) (calls : List TimedCall) (db : Database) :
    (side.after collate calls db).tunedConfigs =
      calls.foldl (fun t c => tunedStep (side.collation collate) c t) db.tunedConfigs := by
  induction calls generalizing db with
  | nil => rfl
  | cons c calls ih => exact ih _

end wrapper

end LlmMax.SqlFallback
