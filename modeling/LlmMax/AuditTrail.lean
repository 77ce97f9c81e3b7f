import LlmMax.AutopilotRun
import LlmMax.Ledger

/-! The audit trail replays to the stored configs: whatever the engine saves for a model it
reports, and what it reports it has saved. -/
namespace LlmMax.AuditTrail
open Domain BenchMetrics AutotuneState Storage EffectProgram Services Ledger History
open AutotuneDecision AutotuneEngine AutotuneSpec AutopilotPass

/-- An operation of the engine. A running autopilot takes turns with the others: one
iteration up to its yield, and the pause after it. -/
inductive EngineOp
  | tuneOnce (modelId : String) (modelSpec : Option ModelSpec) (baselineConfig : Option Config)
  | apply (session : TuningSession)
  | iterate (args : AutopilotArgs) (l : LoopState)
  | advance (args : AutopilotArgs) (l : LoopState)

namespace EngineOp

def modelId : EngineOp → String
  | .tuneOnce modelId _ _ => modelId
  | .apply session => session.modelId
  | .iterate args _ => args.modelId
  | .advance args _ => args.modelId

/-- The operation, with the session that it yields to a consumer. -/
def program : EngineOp → Engine (Option TuningSession)
  | .tuneOnce modelId modelSpec baselineConfig => do
    let _ ← AutotuneEngine.tuneOnce modelId modelSpec baselineConfig
    return none
  | .apply session => do
    let _ ← AutotuneEngine.apply session
    return none
  | .iterate args l => do
    let (session, _) ← AutotuneEngine.iterate args l
    return some session
  | .advance args l => do
    let _ ← AutotuneEngine.advance args l
    return none

end EngineOp

variable {W : Type}

structure OpRecord (W : Type) where
  before : System W
  session : Option TuningSession
  after : System W

/-- Operations performed one after the other; one that raises yields nothing. -/
def records (env : Environment W) : List EngineOp → System W → List (OpRecord W)
  | [], _ => []
  | op :: ops, s =>
    let out := exec (serving env) op.program s
    ⟨s, out.result.toOption.join, out.state⟩ :: records env ops out.state

def after (env : Environment W) : List EngineOp → System W → System W
  | [], s => s
  | op :: ops, s => after env ops (exec (serving env) op.program s).state

def books (store : InMemoryStorage) : Books TunedConfig AutopilotEvent :=
  ⟨store.tunedConfigs, store.autopilotEvents⟩

/-- The events that report a saved config. -/
def Change (event : AutopilotEvent) : Prop :=
  event.eventType = "adjust" ∨ event.eventType = "rollback"

instance : DecidablePred Change := fun event =>
  inferInstanceAs (Decidable (event.eventType = "adjust" ∨ event.eventType = "rollback"))

/-- A config in the details of an event. -/
def detail (key : String) (event : AutopilotEvent) : Option Config :=
  match event.details.lookup key with
  | some (.config c) => some c
  | _ => none

/-- The config that an event says to have been saved. -/
def changed (event : AutopilotEvent) : Option Config :=
  if event.eventType = "adjust" then detail "config" event
  else if event.eventType = "rollback" then detail "to" event
  else none

/-- The event reports the row, which was saved after the rows before it. -/
structure Reports (m : String) (before : List TunedConfig) (row : TunedConfig)
    (event : AutopilotEvent) : Prop where
  row_model : row.modelId = m
  event_model : event.modelId = m
  saved : changed event = some row.config
  reverted : event.eventType = "rollback" →
    ∃ c, current m before = some c ∧ detail "from" event = some c.config

/-- The config that a model has after the changes in the trail. -/
def replay (start : Option Config) (events : List AutopilotEvent) : Option Config :=
  events.foldl (fun config event => (changed event).or config) start

/-- The operation saved one event, of that type, and no config. -/
def OneNote (m eventType : String) (r : OpRecord W) : Prop :=
  r.after.store.tunedConfigs = r.before.store.tunedConfigs ∧
    ∃ event : AutopilotEvent, event.modelId = m ∧ event.eventType = eventType ∧
      r.after.store.autopilotEvents = r.before.store.autopilotEvents ++ [event]

/-- A locked or a rate-limited session is noted once. -/
def Noted (m : String) (r : OpRecord W) : Prop :=
  ∀ session, r.session = some session →
    (session.outcome = .locked → OneNote m "lock" r) ∧
    (session.outcome = .rateLimited → OneNote m "rate_limited" r)

def adjustEvent (session : TuningSession) : AutopilotEvent where
  modelId := session.modelId
  eventType := "adjust"
  details := [("config", .config session.winner.config), ("reason", .message session.reason)]

/-- The event that a move leaves in the trail. -/
def event (args : AutopilotArgs) : Move → Option AutopilotEvent
  | .skip existing => some {
      modelId := args.modelId
      eventType := "lock"
      details := [("config", .config existing.config)] }
  | .revert probe target => some {
      modelId := args.modelId
      eventType := "rollback"
      details := [("from", .config probe.config), ("to", .config target)] }
  | .keep _ => none
  | .withhold session => some {
      modelId := args.modelId
      eventType := "rate_limited"
      details := [("would_have_applied", .config session.winner.config)] }
  | .adopt session => some (adjustEvent session)

/-- The store with the rows and the events of a commitment. -/
def grown (saves : List TunedConfig) (notes : List AutopilotEvent) (store : InMemoryStorage) :
    InMemoryStorage :=
  { store with
    tunedConfigs := store.tunedConfigs ++
      saves.map fun c => { c with id := some (store.tunedConfigs.length + 1) }
    autopilotEvents := store.autopilotEvents ++
      notes.map fun e => { e with id := some (store.autopilotEvents.length + 1) } }

section engine
variable {env : Environment W} {m : String}

lemma grown_nil (store : InMemoryStorage) : grown [] [] store = store := by
  simp [grown]

lemma logEvent_exec (modelId eventType : String) (details : List (String × Detail)) (s : System W) :
    (exec (serving env) (logEvent modelId eventType details) s).result = .ok () ∧
      (exec (serving env) (logEvent modelId eventType details) s).state =
        { s with store := grown [] [{ modelId, eventType, details }] s.store } := by
  refine ⟨rfl, ?_⟩
  simp only [grown, List.map_nil, List.append_nil]
  rfl

lemma apply_exec (session : TuningSession) (s : System W) :
    let saved : TunedConfig := { modelId := session.modelId, config := session.winner.config }
    (exec (serving env) (apply session) s).result = .ok (s.store.saveTunedConfig saved).1 ∧
      (exec (serving env) (apply session) s).state =
        { s with store := grown [saved] [adjustEvent session] s.store } :=
  ⟨rfl, rfl⟩

/-- With a clock that answers, a commitment yields the session of its move, and adds its rows
and its event. -/
lemma commit_exec (hclock : ∀ w, ∃ time, (env.now w).1 = .ok time) (args : AutopilotArgs)
    (l : LoopState) (move : Move) (s : System W) :
    (∃ l', (exec (serving env) (commit args l move) s).result = .ok (move.session args l, l')) ∧
      (exec (serving env) (commit args l move) s).state.store =
        grown (move.saves args) (event args move).toList s.store := by
  have hnow (s : System W) : ∃ time, (exec (serving env) now s).result = .ok time ∧
      (exec (serving env) now s).state = { s with world := (env.now s.world).2 } := by
    obtain ⟨time, htime⟩ := hclock s.world
    have h := exec_perform_ok (H := serving env) (c := .now) (s := s) (Prod.ext htime rfl)
    exact ⟨time, congrArg Outcome.result h, congrArg Outcome.state h⟩
  cases move with
  | skip existing =>
    exact ⟨⟨l, rfl⟩, congrArg System.store (exec_bind_state (logEvent_exec _ _ _ s) _).2⟩
  | keep session => exact ⟨⟨_, rfl⟩, (grown_nil s.store).symm⟩
  | withhold session =>
    exact ⟨⟨_, rfl⟩, congrArg System.store (exec_bind_state (logEvent_exec _ _ _ s) _).2⟩
  | revert probe target =>
    let saved : TunedConfig := { modelId := args.modelId, config := target }
    obtain ⟨time, hnow⟩ := hnow { s with store := (s.store.saveTunedConfig saved).2 }
    have hsave : (exec (serving env) (saveTunedConfig saved) s).result =
        .ok (s.store.saveTunedConfig saved).1 ∧
      (exec (serving env) (saveTunedConfig saved) s).state =
        { s with store := (s.store.saveTunedConfig saved).2 } := ⟨rfl, rfl⟩
    unfold commit rollBack
    rw [(exec_bind_state hsave _).1, (exec_bind_state hsave _).2, (exec_bind_state hnow _).1,
      (exec_bind_state hnow _).2,
      (exec_bind_state (logEvent_exec _ _ _ _) _).2]
    refine ⟨⟨_, rfl⟩, ?_⟩
    simp [grown, InMemoryStorage.saveTunedConfig, Move.saves, event, saved]
  | adopt session =>
    obtain ⟨time, hnow⟩ := hnow (exec (serving env) (apply session) s).state
    unfold commit
    have happly : (exec (serving env) (apply session) s).result = .ok _ ∧
        (exec (serving env) (apply session) s).state = _ := ⟨(apply_exec session s).1, rfl⟩
    rw [(exec_bind_state happly _).1, (exec_bind_state happly _).2, (exec_bind_state hnow _).1,
      (exec_bind_state hnow _).2, (apply_exec session s).2]
    exact ⟨⟨_, rfl⟩, rfl⟩

/-- What an operation does to the books and to the trail. -/
structure Booked (m : String) (r : OpRecord W) : Prop where
  kept : Kept Change (Reports m) (books r.before.store) (books r.after.store)
  noted : Noted m r

lemma booked_of_store {r : OpRecord W} (hstore : r.after.store = r.before.store)
    (hsession : r.session = none) : Booked m r := by
  refine ⟨?_, fun session h => ?_⟩
  · rw [hstore]
    exact kept_refl _
  · rw [hsession] at h
    cases h

lemma reports_adjust {session : TuningSession} {before : List TunedConfig} {i j : Option ℕ} :
    Reports session.modelId before
      { id := i, modelId := session.modelId, config := session.winner.config }
      { adjustEvent session with id := j } where
  row_model := rfl
  event_model := rfl
  saved := rfl
  reverted h := by simp [adjustEvent] at h

lemma books_grown (saves : List TunedConfig) (notes : List AutopilotEvent)
    (store : InMemoryStorage) :
    (books (grown saves notes store)).rows = (books store).rows ++
        saves.map (fun c => { c with id := some (store.tunedConfigs.length + 1) }) ∧
      (books (grown saves notes store)).events = (books store).events ++
        notes.map (fun e => { e with id := some (store.autopilotEvents.length + 1) }) := ⟨rfl, rfl⟩

/-- An operation that saves one event and no config. -/
lemma booked_note {s s' : System W} {session : TuningSession} {e : AutopilotEvent}
    (hstore : s'.store = grown [] [e] s.store) (hmodel : e.modelId = m) (hnote : ¬ Change e)
    (hlocked : session.outcome = .locked → e.eventType = "lock")
    (hlimited : session.outcome = .rateLimited → e.eventType = "rate_limited") :
    Booked m ⟨s, some session, s'⟩ := by
  have hone : ∀ eventType, e.eventType = eventType →
      OneNote m eventType (⟨s, some session, s'⟩ : OpRecord W) := by
    intro eventType htype
    dsimp only [OneNote]
    rw [hstore]
    exact ⟨by simp [grown], { e with id := some (s.store.autopilotEvents.length + 1) },
      hmodel, htype, rfl⟩
  obtain ⟨hrows, hevents⟩ := books_grown [] [e] s.store
  refine ⟨?_, fun session' h => ?_⟩
  · rw [← hstore] at hrows hevents
    exact kept_note (by simpa using hrows) hevents hnote
  · cases h
    exact ⟨fun h => hone _ (hlocked h), fun h => hone _ (hlimited h)⟩

/-- An operation that saves a config and the event that reports it. -/
lemma booked_entry {r : OpRecord W} {c : TunedConfig} {e : AutopilotEvent}
    (hstore : r.after.store = grown [c] [e] r.before.store) (hchange : Change e)
    (hreports : ∀ i j, Reports m r.before.store.tunedConfigs { c with id := i } { e with id := j })
    (hquiet : ∀ session, r.session = some session →
      session.outcome ≠ .locked ∧ session.outcome ≠ .rateLimited) : Booked m r := by
  obtain ⟨hrows, hevents⟩ := books_grown [c] [e] r.before.store
  rw [← hstore] at hrows hevents
  refine ⟨kept_entry hrows hevents hchange (hreports _ _), fun session h => ?_⟩
  obtain ⟨hlocked, hlimited⟩ := hquiet session h
  exact ⟨fun h => absurd h hlocked, fun h => absurd h hlimited⟩

/-- A commitment after a choice that read the store. -/
lemma move_booked {args : AutopilotArgs} {l : LoopState} {t : Trace W} {move : Move}
    {s s' : System W} (hchosen : Chosen args l (s.store.getTunedConfig args.modelId) t move)
    (hstore : s'.store = grown (move.saves args) (event args move).toList s.store) :
    Booked args.modelId ⟨s, some (move.session args l), s'⟩ := by
  cases hchosen with
  | skip read locked unmeasured untimed =>
    exact booked_note hstore rfl (by simp [Change]) (fun _ => rfl) (fun h => by cases h)
  | revert read unlocked known measured failed found probed untimed =>
    refine booked_entry hstore (.inr rfl) (fun i j => ?_) (fun session h => ?_)
    · exact ⟨rfl, rfl, rfl, fun _ => ⟨_, read, rfl⟩⟩
    · cases h
      simp [Move.session, rolledBackSession]
  | forward tuned verdict =>
    generalize clockReads t = times at verdict
    have hadopt (session : TuningSession) (hmodel : session.modelId = args.modelId)
        (haccepted : session.outcome = .acceptedNew)
        (hstore : s'.store = grown (Move.saves args (.adopt session))
          (event args (.adopt session)).toList s.store) :
        Booked args.modelId ⟨s, some session, s'⟩ := by
      rw [← hmodel]
      refine booked_entry hstore (.inl rfl) (fun i j => reports_adjust) (fun session' h => ?_)
      cases h
      simp [haccepted]
    cases verdict with
    | keep kept =>
      have hsame : s'.store = s.store := hstore.trans (grown_nil s.store)
      refine ⟨?_, fun session h => ?_⟩
      · dsimp only
        rw [hsame]
        exact kept_refl _
      · cases h
        simp [Move.session, kept]
    | withhold accepted cap full =>
      exact booked_note hstore rfl (by simp [Change]) (fun h => by cases h) (fun _ => rfl)
    | adopt accepted cap room => exact hadopt _ (conclude_modelId _ _ _) accepted hstore
    | adoptUncapped accepted cap => exact hadopt _ (conclude_modelId _ _ _) accepted hstore

/-- An operation that yields no session. -/
lemma exec_silent (env : Environment W) {α : Type} (p : Engine α) (s : System W) :
    let out := exec (serving env) (p >>= fun _ => pure (none : Option TuningSession)) s
    out.result.toOption.join = none ∧ out.state = (exec (serving env) p s).state := by
  cases hr : (exec (serving env) p s).result with
  | ok a => simp [exec_bind_ok hr, Except.toOption]
  | error e => simp [exec_bind_error hr, Except.toOption]

lemma exec_yielding (env : Environment W) (args : AutopilotArgs) (l : LoopState) (s : System W) :
    let out := exec (serving env) (EngineOp.iterate args l).program s
    out.result.toOption.join = (exec (serving env) (iterate args l) s).result.toOption.map Prod.fst ∧
      out.state = (exec (serving env) (iterate args l) s).state := by
  unfold EngineOp.program
  dsimp only
  cases hr : (exec (serving env) (iterate args l) s).result with
  | ok a => simp [exec_bind_ok hr, Except.toOption]
  | error e => simp [exec_bind_error hr, Except.toOption]

lemma iterate_booked (hclock : ∀ w, ∃ time, (env.now w).1 = .ok time) (args : AutopilotArgs)
    (l : LoopState) (s : System W) :
    let out := exec (serving env) (EngineOp.iterate args l).program s
    Booked args.modelId ⟨s, out.result.toOption.join, out.state⟩ := by
  intro out
  obtain ⟨hsession, hstate⟩ := exec_yielding env args l s
  have hread : (exec (serving env) (choose args l) s).state.store = s.store :=
    (choose_store args l s).2
  rw [iterate_eq] at hsession hstate
  cases hr : (exec (serving env) (choose args l) s).result with
  | error e =>
    rw [exec_bind_error hr] at hsession hstate
    exact booked_of_store ((congrArg System.store hstate).trans hread) hsession
  | ok move =>
    have hchosen := choose_ensures args l s move hr
    obtain ⟨⟨l', hl'⟩, hstore⟩ :=
      commit_exec hclock args l move (exec (serving env) (choose args l) s).state
    rw [hread] at hstore
    rw [exec_bind_ok hr] at hsession hstate
    have hbooked := move_booked hchosen ((congrArg System.store hstate).trans hstore)
    rw [hl'] at hsession
    rw [hsession]
    exact hbooked

lemma op_booked (hclock : ∀ w, ∃ time, (env.now w).1 = .ok time) (op : EngineOp) (s : System W) :
    let out := exec (serving env) op.program s
    Booked op.modelId ⟨s, out.result.toOption.join, out.state⟩ := by
  cases op with
  | tuneOnce modelId modelSpec baselineConfig =>
    obtain ⟨hsession, hstate⟩ := exec_silent env (tuneOnce modelId modelSpec baselineConfig) s
    refine booked_of_store ?_ hsession
    have hkept := (tuneOnce_only modelId modelSpec baselineConfig).frame (H := serving env) (s := s) System.store
      fun c s hc => serving_offStore env c s hc.offStore
    exact (congrArg System.store hstate).trans hkept.2
  | apply session =>
    obtain ⟨hsession, hstate⟩ := exec_silent env (apply session) s
    refine booked_entry ((congrArg System.store hstate).trans rfl) (.inl rfl)
      (fun i j => reports_adjust) fun session' h => ?_
    cases hsession.symm.trans h
  | iterate args l => exact iterate_booked hclock args l s
  | advance args l =>
    obtain ⟨hsession, hstate⟩ := exec_silent env (advance args l) s
    exact booked_of_store ((congrArg System.store hstate).trans (AutopilotRun.advance_store l s)) hsession

lemma replay_append (start : Option Config) (events events' : List AutopilotEvent) :
    replay start (events ++ events') = replay (replay start events) events' :=
  List.foldl_append

/-- Notes do not count in a replay. -/
lemma replay_filter (start : Option Config) (events : List AutopilotEvent) :
    replay start (events.filter Change) = replay start events := by
  induction events generalizing start with
  | nil => rfl
  | cons e events ih =>
    by_cases h : Change e
    · rw [List.filter_cons_of_pos (by simpa using h)]
      exact ih _
    · rw [List.filter_cons_of_neg (by simpa using h), ih]
      have hnone : changed e = none := by
        simp only [Change, not_or] at h
        simp [changed, h]
      simp [replay, hnone]

lemma replay_entries {entries : List (TunedConfig × AutopilotEvent)} {rows : List TunedConfig}
    (h : Each (fun past entry => Reports m (rows ++ past.map Prod.fst) entry.1 entry.2) [] entries) :
    replay ((current m rows).map TunedConfig.config) (entries.map Prod.snd) =
      (current m (rows ++ entries.map Prod.fst)).map TunedConfig.config := by
  induction entries using List.reverseRecOn with
  | nil => simp [replay]
  | append_singleton entries entry ih =>
    rw [each_append] at h
    obtain ⟨hrest, hlast, -⟩ := h
    have hcurrent : current m (rows ++ (entries ++ [entry]).map Prod.fst) = some entry.1 := by
      simp [current, hlast.row_model]
    rw [hcurrent, List.map_append, replay_append]
    simp [replay, hlast.saved]

/-- Whatever operations the engine performs on a model: the rows and the changes in the trail
match one for one and in order, a rollback tells from which config, replaying the changes
gives the stored config, and a session that changed nothing has its note. -/
theorem trail_replays (hclock : ∀ w, ∃ time, (env.now w).1 = .ok time) (m : String)
    (ops : List EngineOp) (hops : ∀ op ∈ ops, op.modelId = m) (s : System W) :
    let s' := after env ops s
    Kept Change (Reports m) (books s.store) (books s'.store) ∧
      (s'.store.getTunedConfig m).map TunedConfig.config =
        replay ((s.store.getTunedConfig m).map TunedConfig.config)
          (s'.store.autopilotEvents.drop s.store.autopilotEvents.length) ∧
      ∀ r ∈ records env ops s, Noted m r := by
  intro s'
  have hkept : Kept Change (Reports m) (books s.store) (books s'.store) ∧
      ∀ r ∈ records env ops s, Noted m r := by
    induction ops generalizing s with
    | nil => exact ⟨kept_refl _, fun r hr => by cases hr⟩
    | cons op ops ih =>
      obtain ⟨hop, hrest⟩ := List.forall_mem_cons.mp hops
      have hfirst := op_booked hclock op s
      rw [hop] at hfirst
      obtain ⟨hkept, hnoted⟩ := ih hrest (exec (serving env) op.program s).state
      exact ⟨hfirst.kept.trans hkept, List.forall_mem_cons.mpr ⟨hfirst.noted, hnoted⟩⟩
  refine ⟨hkept.1, ?_, hkept.2⟩
  obtain ⟨entries, events, hrows, hevents, hfilter, heach⟩ := hkept.1
  have hdrop : s'.store.autopilotEvents.drop s.store.autopilotEvents.length = events := by
    change (books s'.store).events.drop (books s.store).events.length = events
    rw [hevents, List.drop_left]
  have hcurrent := replay_entries heach
  rw [← hfilter, replay_filter, ← hrows] at hcurrent
  rw [hdrop]
  exact hcurrent.symm

/-- A tune by hand, and then an autopilot that draws twice. -/
theorem trail_replays_clocked :
    let env := clocked [] (fun _ => true) fun _ _ => .ok 10
    let args : AutopilotArgs := { modelId := "m" }
    let tuned : TuningCandidateResult := ⟨Config.ofCtx 4096, { config := Config.ofCtx 4096 }⟩
    let ops : List EngineOp := [.apply (keptBaseline "m" tuned [] []), .iterate args (.start args),
      .advance args (.start args), .iterate args ⟨1, [tuned], []⟩]
    let s : System ℚ := ⟨0, {}⟩
    let s' := after env ops s
    Kept Change (Reports "m") (books s.store) (books s'.store) ∧
      (s'.store.getTunedConfig "m").map TunedConfig.config =
        replay ((s.store.getTunedConfig "m").map TunedConfig.config)
          (s'.store.autopilotEvents.drop s.store.autopilotEvents.length) ∧
      ∀ r ∈ records env ops s, Noted "m" r := by
  intro env args tuned ops s
  have hclock : ∀ w, ∃ time, (env.now w).1 = .ok time := fun w => ⟨w, rfl⟩
  have hops : ∀ op ∈ ops, op.modelId = "m" := by simp [ops, args, EngineOp.modelId, keptBaseline]
  exact trail_replays hclock "m" ops hops s

end engine

end LlmMax.AuditTrail
