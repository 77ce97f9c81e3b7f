import LlmMax.FallbackReads
import LlmMax.Operations

/-! Disabling the autopilot through the wrapper: a read that finds a config, then a lock.
Either may be served by either store, and so may the reads that follow. -/
namespace LlmMax.FallbackLock
open Domain BenchMetrics AutotuneState Storage EffectProgram Services SqlTable SqlStorage
open TimedRegister TunedHistory SqlFallback FallbackReads History AutotuneEngine AutotuneSpec Operations

/-- The clock of the database at a storage call, and what MySQL raises on it. -/
structure Turn where
  time : String := ""
  fault : Option Failure := none

/-- The engine over the wrapper, with the turns of the storage calls to come. -/
structure Deployment (W : Type) where
  world : W
  stores : Stores
  turns : List Turn

variable {W : Type}

/-- The next storage call. -/
def Deployment.next (d : Deployment W) (op : StorageCall) : Scheduled :=
  ⟨⟨(d.turns.head?.getD {}).time, op⟩, (d.turns.head?.getD {}).fault⟩

def resilient (collate : String → String) (env : Environment W) :
    Handler services Exn (Deployment W) where
  handle c d :=
    match c with
    | .storage op =>
      let out := attempted collate (d.next op) d.stores
      (out.1.mapError Subtype.val, { d with stores := out.2, turns := d.turns.tail })
    | c =>
      let out := (serving env).handle c ⟨d.world, {}⟩
      (out.1, { d with world := out.2.world })

/-- The store that serves a read of a config, or a lock. -/
def Turn.side (turn : Turn) : Side :=
  match turn.fault with
  | none => .primary
  | some _ => .fallback

/-- The store to which the read of a disable goes. -/
def readSide (d : Deployment W) : Side := (d.turns.head?.getD {}).side

/-- The store to which the lock of a disable goes. -/
def lockSide (d : Deployment W) : Side := (d.turns.tail.head?.getD {}).side

section property
variable (collate : String → String) (m : String)

/-- Some config of the model is locked. -/
def SomeLocked (s : Stores) : Prop :=
  ∃ side : Side, ∃ row ∈ (side.of s).tunedConfigs.rows,
    row.columns.modelId = m ∧ row.columns.isLocked = true

/-- The calls save nothing for the model. -/
def SavesNothing (calls : List Scheduled) : Prop :=
  ∀ x ∈ calls, ∀ config : TunedConfig, x.call.op = .saveTunedConfig config → config.modelId ≠ m

/-- A read of the model, with nothing saved for it in between, that returns a config returns
a locked one. -/
def ReadsLocked (s : Stores) (past : List Scheduled) : Scheduled → Prop
  | ⟨⟨time, .getTunedConfig modelId⟩, fault⟩ => modelId = m → SavesNothing m past →
    ∀ c, reply collate s past ⟨⟨time, .getTunedConfig modelId⟩, fault⟩ = .ok (some c) →
      c.isLocked = true
  | _ => True

/-- The store holds a config for the disable to find. -/
def Found (side : Side) (s : Stores) : Prop :=
  ∃ row ∈ (side.of s).tunedConfigs.rows, ofModel (side.collation collate) m row.columns = true

/-- Of the rows that the store takes for the model's, the newest is the model's own. -/
def OwnNewest (side : Side) (s : Stores) : Prop :=
  ∃ row ∈ (side.of s).tunedConfigs.rows, row.columns.modelId = m ∧
    ∀ row' ∈ (side.of s).tunedConfigs.rows, ofModel (side.collation collate) m row'.columns = true →
      row'.key ≤ row.key

/-- What the disable makes a store do. -/
def disabling (locked side : Side) : List TimedCall :=
  if side = locked then [⟨"", .lockConfig m⟩] else []

/-- In the store that serves a read of the model, the config that stands there was put down
locked, or the lock of the disable or a later one has come after it. -/
def LockReaches (s : Stores) (locked : Side) (past : List Scheduled) (x : Scheduled) : Prop :=
  x.call.op = .getTunedConfig m → SavesNothing m past → ∀ side, x.side = some side →
    ∀ before time columns after,
      Stands (history (side.collation collate) m (side.of s).tunedConfigs.rows
        (disabling m locked side ++ servedBy side past)) before time columns after →
      columns.isLocked = true ∨ Touched after = true

end property

/-- The iteration yields a locked session; it asks the adapter nothing and saves no config. -/
def Skips (collate : String → String) (env : Environment W) (args : AutopilotArgs) (l : LoopState)
    (d : Deployment W) (existing : TunedConfig) : Prop :=
  let event : AutopilotEvent :=
    { modelId := args.modelId, eventType := "lock", details := [("config", .config existing.config)] }
  let out := exec (resilient collate env) (iterate args l) d
  out.result = .ok (lockedSession args.modelId existing.config, l) ∧ out.steps.map Step.call =
    [.storage (.getTunedConfig args.modelId), .storage (.saveAutopilotEvent event)]

section served
variable {collate : String → String} {m : String}

/-- The engine after a storage call. -/
def Deployment.served (collate : String → String) (d : Deployment W) (op : StorageCall) :
    Deployment W where
  world := d.world
  stores := (attempted collate (d.next op) d.stores).2
  turns := d.turns.tail

lemma handle_storage (collate : String → String) (env : Environment W) {op : StorageCall}
    {d : Deployment W} {side : Side}
    (h : (d.next op).side = some side) :
    (resilient collate env).handle (.storage op) d =
      ((side.serve collate (d.next op).call (side.of d.stores)).1.mapError Subtype.val,
        d.served collate op) := by
  have hreply := (attempted_served collate h d.stores).1
  simp only [resilient, hreply]
  rfl

/-- Reads of a config and locks are always served. -/
lemma next_get (d : Deployment W) (modelId : String) :
    (d.next (.getTunedConfig modelId)).side = some (readSide d) := by
  unfold Deployment.next Scheduled.side readSide Turn.side
  cases (d.turns.head?.getD {}).fault <;> rfl

lemma next_lock (d : Deployment W) (modelId : String) :
    (d.next (.lockConfig modelId)).side = some (readSide d) := by
  unfold Deployment.next Scheduled.side readSide Turn.side
  cases (d.turns.head?.getD {}).fault <;> rfl

lemma handle_get (collate : String → String) (env : Environment W) (d : Deployment W)
    (modelId : String) :
    (resilient collate env).handle (.storage (.getTunedConfig modelId)) d =
      (.ok (SqlStorage.getTunedConfig ((readSide d).collation collate) modelId
        ((readSide d).of d.stores)), d.served collate (.getTunedConfig modelId)) := by
  rw [handle_storage collate env (next_get d modelId)]
  cases readSide d <;> rfl

lemma handle_lock (collate : String → String) (env : Environment W) (d : Deployment W)
    (modelId : String) :
    (resilient collate env).handle (.storage (.lockConfig modelId)) d =
      (.ok (), d.served collate (.lockConfig modelId)) := by
  rw [handle_storage collate env (next_lock d modelId)]
  cases readSide d <;> rfl

/-- Saving an event never raises: SQLite takes what MySQL does not. -/
lemma handle_event (collate : String → String) (env : Environment W) (d : Deployment W)
    (event : AutopilotEvent) : ∃ saved,
      (resilient collate env).handle (.storage (.saveAutopilotEvent event)) d =
        (.ok saved, d.served collate (.saveAutopilotEvent event)) := by
  have hside : (d.next (.saveAutopilotEvent event)).side ≠ none := by
    unfold Scheduled.side
    split_ifs with hprimary hfallback
    · exact Option.some_ne_none _
    · exact Option.some_ne_none _
    · exact absurd rfl hfallback
  obtain ⟨side, hside⟩ := Option.ne_none_iff_exists'.mp hside
  obtain ⟨hreply, hok, -⟩ := attempted_served collate hside d.stores
  obtain ⟨saved, hsaved⟩ := MySqlStore.exists_ok hok
  refine ⟨saved, ?_⟩
  rw [handle_storage collate env hside, ← hreply, hsaved]
  rfl

/-- Reading changes neither store. -/
lemma served_get (d : Deployment W) (modelId : String) (side : Side) :
    side.of (d.served collate (.getTunedConfig modelId)).stores = side.of d.stores := by
  have hstep := attempted_side collate (d.next (.getTunedConfig modelId)) d.stores side
  rw [Deployment.served, hstep]
  split_ifs <;> rfl

lemma served_lock (d : Deployment W) (modelId : String) (side : Side) :
    side.of (d.served collate (.lockConfig modelId)).stores =
      if side = readSide d then SqlStorage.lockConfig (side.collation collate) modelId (side.of d.stores)
      else side.of d.stores := by
  have hstep := attempted_side collate (d.next (.lockConfig modelId)) d.stores side
  rw [Deployment.served, hstep]
  by_cases hside : side = readSide d
  · rw [if_pos hside, if_pos (by rw [next_lock, hside])]
    rfl
  · have hother : (d.next (.lockConfig modelId)).side ≠ some side := by
      rw [next_lock]
      exact fun h => hside (Option.some.inj h).symm
    rw [if_neg hside, if_neg hother]

lemma newestOf_isSome_iff (key : String → String) (t : Table String ConfigColumns) :
    (newestOf key m t).isSome = true ↔ ∃ row ∈ t.rows, ofModel key m row.columns = true := by
  rw [← not_iff_not, Bool.not_eq_true, Option.isSome_eq_false_iff, Option.isNone_iff_eq_none, newestOf,
    Table.newest_eq_none_iff]
  simp

/-- The disable reports success when its read finds a config, and then locks in one store. -/
lemma disable_exec (collate : String → String) (env : Environment W) (d : Deployment W) (m : String) :
    let out := exec (resilient collate env) (autopilotDisable m) d
    (out.result = .ok true ↔ Found collate m (readSide d) d.stores) ∧
      (Found collate m (readSide d) d.stores → ∀ side : Side, side.of out.state.stores =
        if side = lockSide d then SqlStorage.lockConfig (side.collation collate) m (side.of d.stores)
        else side.of d.stores) := by
  have hget := exec_perform_ok (handle_get collate env d m)
  have hread : (exec (resilient collate env) (getTunedConfig m) d).result = _ :=
    congrArg Outcome.result hget
  have hstate : (exec (resilient collate env) (getTunedConfig m) d).state = _ :=
    congrArg Outcome.state hget
  have hfound : Found collate m (readSide d) d.stores ↔ _ := (newestOf_isSome_iff _ _).symm
  unfold autopilotDisable
  simp only [exec_bind_ok hread, hstate, SqlStorage.getTunedConfig, hfound]
  cases newestOf ((readSide d).collation collate) m ((readSide d).of d.stores).tunedConfigs with
  | none => exact ⟨by simp [exec_pure], by simp⟩
  | some existing =>
    have hlock := exec_perform_ok (handle_lock collate env (d.served collate (.getTunedConfig m)) m)
    have hlocked : (exec (resilient collate env) (lockConfig m)
        (d.served collate (.getTunedConfig m))).result = .ok () := congrArg Outcome.result hlock
    have hafter : (exec (resilient collate env) (lockConfig m)
        (d.served collate (.getTunedConfig m))).state = _ := congrArg Outcome.state hlock
    simp only [Option.map_some, exec_bind_ok hlocked, exec_pure, hafter]
    refine ⟨by simp, fun _ side => ?_⟩
    rw [served_lock, served_get]
    rfl

section locked
variable {s s' : Stores} {locked : Side} {past : List Scheduled} {x : Scheduled}

/-- After the lock of a disable, a read of the model returns a locked config exactly when the lock
has reached what it reads. -/
lemma readsLocked_iff (hs' : ∀ side : Side, side.of s' = if side = locked then
      SqlStorage.lockConfig (side.collation collate) m (side.of s) else side.of s) :
    ReadsLocked collate m s' past x ↔ LockReaches collate m s locked past x := by
  obtain ⟨⟨time, op⟩, fault⟩ := x
  cases op with
  | getTunedConfig modelId =>
    simp only [ReadsLocked, LockReaches, StorageCall.getTunedConfig.injEq]
    refine imp_congr_right fun hm => imp_congr_right fun _ => ?_
    subst hm
    obtain ⟨side, hside⟩ := exists_side modelId time fault
    have hstart : (side.of s').tunedConfigs = (disabling modelId locked side).foldl
        (fun t c => tunedStep (side.collation collate) c t) (side.of s).tunedConfigs := by
      rw [hs', disabling]
      split_ifs <;> rfl
    have hreply : reply collate s' past ⟨⟨time, .getTunedConfig modelId⟩, fault⟩ =
        .ok ((newestOf (side.collation collate) modelId
          ((disabling modelId locked side ++ servedBy side past).foldl
            (fun t c => tunedStep (side.collation collate) c t) (side.of s).tunedConfigs)).map
              rowToTunedConfig) := by
      rw [reply_served hside, List.foldl_append, ← hstart, ← after_tuned]
      cases side <;> rfl
    have hnewest := newest_forall_iff (side.collation collate) modelId
      (fun columns => columns.isLocked = true) (disabling modelId locked side ++ servedBy side past)
      (side.of s).tunedConfigs
    have hlocked (v : ConfigColumns) (b : Bool) :
        (if b then lockColumns v else v).isLocked = true ↔ v.isLocked = true ∨ b = true := by
      cases b <;> simp [lockColumns]
    simp only [hlocked] at hnewest
    simp only [hreply, hside, Option.some.injEq, forall_eq', ← hnewest, Except.ok.injEq,
      Option.map_eq_some_iff]
    constructor
    · intro h row hrow
      exact h _ ⟨row, hrow, rfl⟩
    · intro h c hc
      obtain ⟨row, hrow, rfl⟩ := hc
      exact h row hrow
  | _ => simp [ReadsLocked, LockReaches]

lemma ownNewest_iff {side : Side} : OwnNewest collate m side s ↔
    ∃ row, newestOf (side.collation collate) m (side.of s).tunedConfigs = some row ∧
      row.columns.modelId = m := by
  constructor
  · intro h
    obtain ⟨row, hrow, hm, hmax⟩ := h
    have hown : ofModel (side.collation collate) m row.columns = true := by simp [ofModel, hm]
    exact ⟨row, (Table.newest_eq_some_iff _).mpr ⟨hrow, hown, hmax⟩, hm⟩
  · intro h
    obtain ⟨row, hnewest, hm⟩ := h
    obtain ⟨hrow, -, hmax⟩ := (Table.newest_eq_some_iff _).mp hnewest
    exact ⟨row, hrow, hm, hmax⟩

/-- A table holds a locked config of the model after the lock exactly when it did before or the
newest row that the lock finds is the model's own. -/
lemma locked_row_iff (key : String → String) (t : Table String ConfigColumns) :
    (∃ row ∈ (lockNewestOf key m t).rows, row.columns.modelId = m ∧ row.columns.isLocked = true) ↔
      (∃ row ∈ t.rows, row.columns.modelId = m ∧ row.columns.isLocked = true) ∨
        ∃ row, newestOf key m t = some row ∧ row.columns.modelId = m := by
  cases hnewest : newestOf key m t with
  | none => simp [lockNewestOf_none key hnewest]
  | some r =>
    obtain ⟨hr, -⟩ := newestOf_mem key hnewest
    rw [rows_lockNewestOf key hnewest]
    simp only [Option.some.injEq, exists_eq_left']
    constructor
    · intro h
      obtain ⟨row, hrow, hm, hlocked⟩ := h
      obtain ⟨old, hold, rfl⟩ := List.mem_map.mp hrow
      split_ifs at hm hlocked with he
      · exact .inr (he ▸ hm)
      · exact .inl ⟨old, hold, hm, hlocked⟩
    · intro h
      rcases h with ⟨row, hrow, hm, hlocked⟩ | hm
      · refine ⟨_, List.mem_map_of_mem hrow, ?_⟩
        split_ifs
        · exact ⟨hm, rfl⟩
        · exact ⟨hm, hlocked⟩
      · refine ⟨_, List.mem_map_of_mem hr, ?_⟩
        rw [if_pos rfl]
        exact ⟨hm, rfl⟩

/-- Some config of the model is locked after the disable exactly when one was, or the newest row
that the lock finds is the model's own. -/
lemma someLocked_iff (hs' : ∀ side : Side, side.of s' = if side = locked then
      SqlStorage.lockConfig (side.collation collate) m (side.of s) else side.of s) :
    SomeLocked m s' ↔ SomeLocked m s ∨ OwnNewest collate m locked s := by
  have hlock : (locked.of s').tunedConfigs =
      lockNewestOf (locked.collation collate) m (locked.of s).tunedConfigs := by
    rw [hs', if_pos rfl]
    rfl
  have hrows := locked_row_iff (m := m) (locked.collation collate) (locked.of s).tunedConfigs
  rw [← hlock, ← ownNewest_iff] at hrows
  constructor
  · intro h
    obtain ⟨side, hside⟩ := h
    by_cases hlocked : side = locked
    · subst hlocked
      exact (hrows.mp hside).imp_left fun h => ⟨side, h⟩
    · rw [hs' side, if_neg hlocked] at hside
      exact .inl ⟨side, hside⟩
  · intro h
    rcases h with ⟨side, hside⟩ | hown
    · by_cases hlocked : side = locked
      · subst hlocked
        exact ⟨side, hrows.mpr (.inl hside)⟩
      · refine ⟨side, ?_⟩
        rw [hs' side, if_neg hlocked]
        exact hside
    · exact ⟨locked, hrows.mpr (.inr hown)⟩

end locked

lemma iterate_locked (env : Environment W) {d : Deployment W} {args : AutopilotArgs} (l : LoopState)
    {existing : TunedConfig}
    (hread : (exec (resilient collate env) (getTunedConfig args.modelId) d).result = .ok (some existing))
    (hlocked : existing.isLocked = true) : Skips collate env args l d existing := by
  have hget := handle_get collate env d args.modelId
  have hresult : (exec (resilient collate env) (getTunedConfig args.modelId) d).result = _ :=
    congrArg Outcome.result (exec_perform_ok hget)
  have hfound := Except.ok.inj (hresult.symm.trans hread)
  rw [hfound] at hget
  obtain ⟨saved, hlog⟩ := handle_event collate env (d.served collate (.getTunedConfig args.modelId)) {
    modelId := args.modelId, eventType := "lock", details := [("config", .config existing.config)] }
  have hpass := iterate_of_locked l rfl hget hlocked hlog
  unfold Skips
  rw [hpass]
  exact ⟨rfl, rfl⟩

end served

/-- The lock that a disable reports is there, and no later read misses it, exactly when it was
served by a store whose newest row for the model is its own and has come before the reads in the
stores that serve them. An autopilot whose read returns a locked config does not tune. -/
theorem disable_locks_iff (collate : String → String) (env : Environment W) (d : Deployment W)
    (m : String) (later : List Scheduled) :
    let out := exec (resilient collate env) (autopilotDisable m) d
    ((out.result = .ok true → SomeLocked m out.state.stores ∧
        Each (ReadsLocked collate m out.state.stores) [] later) ↔
      (Found collate m (readSide d) d.stores →
        (SomeLocked m d.stores ∨ OwnNewest collate m (lockSide d) d.stores) ∧
        Each (LockReaches collate m d.stores (lockSide d)) [] later)) ∧
      ∀ (d' : Deployment W) (args : AutopilotArgs) (l : LoopState) (existing : TunedConfig),
        (exec (resilient collate env) (getTunedConfig args.modelId) d').result = .ok (some existing) →
        existing.isLocked = true → Skips collate env args l d' existing := by
  intro out
  refine ⟨?_, fun d' args l existing hread hlocked => iterate_locked env l hread hlocked⟩
  obtain ⟨hsuccess, hstores⟩ := disable_exec collate env d m
  rw [hsuccess]
  refine imp_congr_right fun hfound => ?_
  have hs' := hstores hfound
  rw [someLocked_iff hs', each_iff, each_iff]
  refine and_congr_right fun _ => forall_congr' fun pre => forall_congr' fun x => ?_
  rw [readsLocked_iff hs']

/-- MySQL holds the config and serves the check of the disable, but is down for the lock. -/
theorem disable_locks_fails :
    let stored : Table String ConfigColumns :=
      Table.empty.insert "2024-01-01 00:00:00" ⟨"m", "ollama", Config.ofCtx 4096, false⟩
    let d : Deployment ℚ := ⟨0, ⟨{ tunedConfigs := stored }, {}, false⟩,
      [{}, { fault := some (Failure.ofMessage "Can't connect to MySQL server") }]⟩
    let out := exec (resilient id (clocked [] (fun _ => true) fun _ _ => .ok 10))
      (autopilotDisable "m") d
    ¬ (out.result = .ok true → SomeLocked "m" out.state.stores ∧
      Each (ReadsLocked id "m" out.state.stores) [] [⟨⟨"", .getTunedConfig "m"⟩, none⟩]) := by
  intro stored d out h
  obtain ⟨hsuccess, hstores⟩ := disable_exec id (clocked [] (fun _ => true) fun _ _ => .ok 10) d "m"
  have hfound : Found id "m" (readSide d) d.stores := ⟨_, .head _, rfl⟩
  have hlocked := (h (hsuccess.mpr hfound)).1
  rw [someLocked_iff (hstores hfound)] at hlocked
  rcases hlocked with ⟨side, row, hrow, -, hlocked⟩ | ⟨row, hrow, -⟩
  · cases side with
    | primary =>
      obtain rfl := List.mem_singleton.mp hrow
      cases hlocked
    | fallback => cases hrow
  · cases hrow

end LlmMax.FallbackLock
