import LlmMax.LockPersistence

/-! What the audit trail says of locks. Whatever the operations, the lock of a model is what
the trail says unless one of them changes it: no change of a lock is noted. -/
namespace LlmMax.LockAudit
open Domain BenchMetrics AutotuneState Storage EffectProgram EffectThreads Services
open AutotuneDecision AutotuneEngine AutotuneSpec AutopilotPass AutopilotRun AutopilotProtocol
open Operations LockPersistence

/-- What an event records of the lock of its model. -/
def lockOf (event : AutopilotEvent) : Option Bool :=
  if event.eventType = "lock" ∨ event.eventType = "disable" then some true
  else if event.eventType = "enable" ∨ event.eventType = "unlock" then some false
  else none

/-- The lock of a model by its newest event about it, or else as it was before them all. -/
def LockedBy (m : String) (start : Prop) (events : List AutopilotEvent) : Prop :=
  match ((events.filter fun e => e.modelId = m).filterMap lockOf).getLast? with
  | some locked => locked = true
  | none => start

variable {W : Type} {env : Environment W} {m : String}

/-- The events that were saved from one state to the other. -/
def newEvents (s s' : System W) : List AutopilotEvent :=
  s'.store.autopilotEvents.drop s.store.autopilotEvents.length

/-- If the lock of the model changed, an event that was saved records what it is now. -/
def Audited (m : String) (s s' : System W) : Prop :=
  ¬ (s'.store.Locked m ↔ s.store.Locked m) → ∃ e ∈ newEvents s s', e.modelId = m ∧
    ∃ locked, lockOf e = some locked ∧ (locked = true ↔ s'.store.Locked m)

/-- The lock of the model follows from the events saved since. -/
def Reconstructed (m : String) (s s' : System W) : Prop :=
  s'.store.Locked m ↔ LockedBy m (s.store.Locked m) (newEvents s s')

/-- No lock changed, and what was noted of locks is true. -/
structure Quiet (s s' : System W) : Prop where
  locked : ∀ m, s'.store.Locked m ↔ s.store.Locked m
  noted : ∃ events, s'.store.autopilotEvents = s.store.autopilotEvents ++ events ∧
    ∀ e ∈ events, ∀ locked, lockOf e = some locked → (locked = true ↔ s.store.Locked e.modelId)

lemma quiet_refl (s : System W) : Quiet s s :=
  ⟨fun _ => Iff.rfl, [], by simp, fun _ he => by cases he⟩

lemma Quiet.trans {s s' s'' : System W} (h : Quiet s s') (h' : Quiet s' s'') : Quiet s s'' := by
  obtain ⟨events, hevents, hnoted⟩ := h.noted
  obtain ⟨events', hevents', hnoted'⟩ := h'.noted
  refine ⟨fun m => (h'.locked m).trans (h.locked m), events ++ events', ?_, ?_⟩
  · rw [hevents', hevents, List.append_assoc]
  · intro e he locked hlocked
    rcases List.mem_append.mp he with he | he
    · exact hnoted e he locked hlocked
    · exact (hnoted' e he locked hlocked).trans (h.locked e.modelId)

lemma quiet_of_eq {s s' : System W} (hrows : s'.store.tunedConfigs = s.store.tunedConfigs)
    (hevents : s'.store.autopilotEvents = s.store.autopilotEvents) : Quiet s s' := by
  constructor
  · intro m
    apply InMemoryStorage.locked_of_rowsOf_eq
    unfold InMemoryStorage.rowsOf
    rw [hrows]
  · exact ⟨[], by rw [hevents, List.append_nil], fun _ he => by cases he⟩

lemma Quiet.audited {s s' : System W} (h : Quiet s s') : Audited m s s' :=
  fun hchanged => absurd (h.locked m) hchanged

/-- The trail of a quiet stretch agrees with the lock. -/
lemma Quiet.reconstructed {s s' : System W} (h : Quiet s s') : Reconstructed m s s' := by
  obtain ⟨events, hevents, hnoted⟩ := h.noted
  have hnew : newEvents s s' = events := by
    unfold newEvents
    rw [hevents, List.drop_left]
  unfold Reconstructed LockedBy
  rw [hnew, h.locked m]
  split
  · rename_i locked hlast
    obtain ⟨e, he, hlocked⟩ := List.mem_filterMap.mp (List.mem_of_getLast? hlast)
    obtain ⟨he, hmodel⟩ := List.mem_filter.mp he
    rw [hnoted e he locked hlocked, of_decide_eq_true hmodel]
  · rfl

/-- The typestate is what the newest read found of the lock. A row is saved only where it was
found unlocked, and the lock is noted only as it was found. -/
def auditProtocol (modelId : String) : Protocol services Exn (Option Bool) where
  allowed seen c := match c with
    | .storage (.getTunedConfig m) => m = modelId
    | .storage (.saveTunedConfig config) =>
      seen = some false ∧ config.modelId = modelId ∧ config.isLocked = false
    | .storage (.saveAutopilotEvent event) =>
      ∀ locked, lockOf event = some locked → seen = some locked ∧ event.modelId = modelId
    | .storage (.lockConfig _) => False
    | _ => True
  move seen c := match c with
    | .storage (.getTunedConfig _) => fun
      | .ok stored => some (stored.any TunedConfig.isLocked)
      | .error _ => seen
    | _ => fun _ => seen

/-- Calls that touch neither the tuned configs nor the trail. -/
def Apart : Call → Prop
  | .storage (.saveAutopilotEvent _) => False
  | c => Bystander c

lemma apart_of_measuring {c : Call} (h : Measuring c) : Apart c := by
  cases c with
  | storage op => exact absurd rfl (h.offStore op)
  | _ => trivial

section protocol
variable {modelId : String} {seen : Option Bool} {args : AutopilotArgs}

lemma auditProtocol_apart {c : Call} (h : Apart c) :
    (auditProtocol modelId).allowed seen c ∧
      ∀ r, (auditProtocol modelId).move seen c r = seen := by
  cases c with
  | storage op =>
    cases op with
    | getTunedConfig _ => cases h
    | saveTunedConfig _ => cases h
    | lockConfig _ => cases h
    | saveAutopilotEvent _ => cases h
    | _ => exact ⟨trivial, fun _ => rfl⟩
  | _ => exact ⟨trivial, fun _ => rfl⟩

lemma only_apart_complies {α : Type} {p : Engine α} (h : Only Apart p) :
    Complies (auditProtocol modelId) (fun _ seen' => seen' = seen) seen p :=
  complies_of_only h fun _ hc => auditProtocol_apart hc

lemma logEvent_complies {m eventType : String} {details : List (String × Detail)}
    (h : ∀ locked, lockOf { modelId := m, eventType, details } = some locked →
      seen = some locked ∧ m = modelId) :
    Complies (auditProtocol modelId) (fun _ seen' => seen' = seen) seen
      (logEvent m eventType details) := by
  apply complies_attempt_bind (I := services) h
  intro r
  cases r with
  | ok saved => exact complies_pure rfl
  | error exc =>
    dsimp only
    cases exc.caught with
    | some message => exact complies_pure rfl
    | none => trivial

lemma saveTunedConfig_complies {config : TunedConfig} (hmodel : config.modelId = modelId)
    (hopen : config.isLocked = false) :
    Complies (auditProtocol modelId) (fun _ seen' => seen' = some false) (some false)
      (saveTunedConfig config) :=
  complies_perform (I := services) ⟨rfl, hmodel, hopen⟩ fun _ => rfl

lemma apply_complies {session : TuningSession} (h : session.modelId = modelId) :
    Complies (auditProtocol modelId) (fun _ seen' => seen' = some false) (some false)
      (AutotuneEngine.apply session) := by
  have hsave : Complies (auditProtocol modelId) (fun _ seen' => seen' = some false) (some false)
      (saveTunedConfig { modelId := session.modelId, config := session.winner.config }) :=
    saveTunedConfig_complies h rfl
  apply hsave.bind
  intro saved _ hseen
  subst hseen
  have hlog : Complies (auditProtocol modelId) (fun _ seen' => seen' = some false) (some false)
      (logEvent session.modelId "adjust" [("config", .config session.winner.config),
        ("reason", .message session.reason)]) :=
    logEvent_complies fun locked hlocked => by simp [lockOf] at hlocked
  exact hlog.bind fun _ _ hseen => complies_pure hseen

/-- A lock is only skipped where it was seen, and a config only saved where none was. -/
def Sighted (args : AutopilotArgs) (move : Move) (seen : Option Bool) : Prop :=
  match move with
  | .skip _ => seen = some true
  | .revert _ _ => seen = some false
  | .adopt session => seen = some false ∧ session.modelId = args.modelId
  | _ => True

lemma chooseForward_complies (l : LoopState) (baselineConfig : Option Config) :
    Complies (auditProtocol args.modelId) (Sighted args) (some false)
      (chooseForward args l baselineConfig) := by
  apply (tuneOnce_complies (fun c hc => auditProtocol_apart (apart_of_measuring hc)) args.modelId
    args.modelSpec baselineConfig).bind
  intro session _ hpost
  obtain ⟨rfl, hmodel⟩ := hpost
  split_ifs with h
  · have hlimit : Only Apart (rateLimited args.maxAdjustmentsPerDay l.adjustmentTimestamps) := by
      apply (rateLimited_only _ _).mono
      intro c hc
      subst hc
      trivial
    apply (only_apart_complies hlimit).bind
    intro limited _ hseen
    subst hseen
    apply complies_pure
    cases limited with
    | true => trivial
    | false => exact ⟨rfl, hmodel⟩
  · exact complies_pure trivial

lemma choose_complies (l : LoopState) :
    Complies (auditProtocol args.modelId) (Sighted args) seen (choose args l) := by
  have hread : Complies (auditProtocol args.modelId)
      (fun stored seen' => seen' = some (stored.any TunedConfig.isLocked)) seen
      (getTunedConfig args.modelId) :=
    complies_perform (I := services) rfl fun _ => rfl
  apply hread.bind
  intro stored _ hseen
  subst hseen
  cases stored with
  | none => exact chooseForward_complies l none
  | some existing =>
    dsimp only
    split_ifs with hl
    · exact complies_pure (congrArg some hl)
    · have hopen : (some existing).any TunedConfig.isLocked = false := by simpa using hl
      rw [hopen]
      have hactive : Only Apart (checkActive args l existing.config) :=
        (checkActive_only _ _ _).mono fun c hc => apart_of_measuring hc
      apply (only_apart_complies hactive).bind
      intro revert _ hseen
      subst hseen
      cases revert with
      | none => exact chooseForward_complies l _
      | some r => exact complies_pure rfl

lemma commit_complies (l : LoopState) {move : Move} (h : Sighted args move seen) :
    Complies (auditProtocol args.modelId) (fun _ _ => True) seen (commit args l move) := by
  have hnow : Only Apart now := by
    apply now_only.mono
    intro c hc
    subst hc
    trivial
  cases move with
  | skip existing =>
    obtain rfl : seen = some true := h
    have hlog : Complies (auditProtocol args.modelId) (fun _ seen' => seen' = some true) (some true)
        (logEvent args.modelId "lock" [("config", .config existing.config)]) := by
      apply logEvent_complies
      intro locked hlocked
      have htrue : true = locked := by simpa [lockOf] using hlocked
      exact ⟨congrArg some htrue, rfl⟩
    exact hlog.bind fun _ _ _ => complies_pure trivial
  | revert probe target =>
    obtain rfl : seen = some false := h
    have hsave : Complies (auditProtocol args.modelId) (fun _ seen' => seen' = some false)
        (some false) (saveTunedConfig { modelId := args.modelId, config := target }) :=
      saveTunedConfig_complies rfl rfl
    apply hsave.bind
    intro _ _ _
    apply (only_apart_complies hnow).bind
    intro time _ _
    have hlog (seen : Option Bool) : Complies (auditProtocol args.modelId)
        (fun _ seen' => seen' = seen) seen (logEvent args.modelId "rollback"
          [("from", .config probe.config), ("to", .config target)]) :=
      logEvent_complies fun locked hlocked => by simp [lockOf] at hlocked
    exact (hlog _).bind fun _ _ _ => complies_pure trivial
  | keep session => exact complies_pure trivial
  | withhold session =>
    have hlog : Complies (auditProtocol args.modelId) (fun _ seen' => seen' = seen) seen
        (logEvent args.modelId "rate_limited"
          [("would_have_applied", .config session.winner.config)]) :=
      logEvent_complies fun locked hlocked => by simp [lockOf] at hlocked
    exact hlog.bind fun _ _ _ => complies_pure trivial
  | adopt session =>
    obtain ⟨rfl, hmodel⟩ := h
    apply (apply_complies hmodel).bind
    intro _ _ _
    apply (only_apart_complies hnow).bind
    intro time _ _
    exact complies_pure trivial

theorem iterate_complies (l : LoopState) :
    Complies (auditProtocol args.modelId) (fun _ _ => True) seen (iterate args l) := by
  rw [iterate_eq]
  apply (choose_complies l).bind
  intro move seen' hsighted
  exact commit_complies l hsighted

lemma autopilotLoop_audited (draws : ℕ) (l : LoopState) :
    Complies (auditProtocol args.modelId) (fun _ _ => True) seen (autopilotLoop args draws l) := by
  apply autopilotLoop_complies_of fun seen l => iterate_complies l
  intro seen c hc
  apply auditProtocol_apart
  cases c with
  | yielded _ | sleep _ => trivial
  | _ => cases hc

end protocol

/-- The typestate is true of the lock, and all was quiet since the start. -/
def Watched (modelId : String) (start : System W) (seen : Option Bool) (s : System W) : Prop :=
  Quiet start s ∧ ∀ locked, seen = some locked → (locked = true ↔ s.store.Locked modelId)

lemma locked_save_iff {store : InMemoryStorage} {config : TunedConfig}
    (hopen : config.isLocked = false) :
    (store.saveTunedConfig config).2.Locked m ↔ config.modelId ≠ m ∧ store.Locked m := by
  unfold InMemoryStorage.Locked
  rw [InMemoryStorage.getTunedConfig_save]
  split_ifs with hmodel
  · simp [hmodel, InMemoryStorage.saveTunedConfig, hopen]
  · simp [hmodel]

lemma handle_watched {modelId : String} {start s : System W} {seen : Option Bool} {c : Call}
    (h : Watched modelId start seen s) (hc : (auditProtocol modelId).allowed seen c) :
    Watched modelId start ((auditProtocol modelId).move seen c ((serving env).handle c s).1)
      ((serving env).handle c s).2 := by
  obtain ⟨hquiet, hseen⟩ := h
  have hstep {s' : System W} (hs' : Quiet s s') : Watched modelId start seen s' :=
    ⟨hquiet.trans hs', fun locked hlocked => (hseen locked hlocked).trans (hs'.locked modelId).symm⟩
  cases c with
  | storage op =>
    cases op with
    | getTunedConfig m =>
      obtain rfl : m = modelId := hc
      refine ⟨hquiet, ?_⟩
      intro locked hlocked
      have hany : (s.store.getTunedConfig m).any TunedConfig.isLocked = locked :=
        Option.some.inj hlocked
      rw [← hany, Option.any_eq_true]
      rfl
    | saveTunedConfig config =>
      obtain ⟨rfl, rfl, hopen⟩ := hc
      apply hstep
      have hunlocked : ¬ s.store.Locked config.modelId := by simpa using hseen false rfl
      refine ⟨fun m => ?_, [], (List.append_nil _).symm, fun e he => by cases he⟩
      apply (locked_save_iff hopen).trans
      constructor
      · exact And.right
      · intro hlocked
        refine ⟨?_, hlocked⟩
        intro hmodel
        rw [← hmodel] at hlocked
        exact hunlocked hlocked
    | saveAutopilotEvent event =>
      apply hstep
      refine ⟨fun _ => Iff.rfl, [(s.store.saveAutopilotEvent event).1], rfl, ?_⟩
      intro e he locked hlocked
      rw [List.mem_singleton.mp he] at hlocked ⊢
      obtain ⟨hfound, hmodel⟩ := hc locked hlocked
      exact (hseen locked hfound).trans (by rw [← hmodel]; rfl)
    | lockConfig _ => cases hc
    | saveRun _ => exact hstep (quiet_of_eq rfl rfl)
    | listRuns _ _ => exact hstep (quiet_of_eq rfl rfl)
    | listAutopilotEvents _ _ => exact hstep (quiet_of_eq rfl rfl)
  | _ => exact hstep (quiet_of_eq rfl rfl)

lemma quiet_of_complies {α : Type} {p : Engine α} {post : α → Option Bool → Prop}
    {modelId : String} {seen : Option Bool} (hp : Complies (auditProtocol modelId) post seen p)
    {s : System W} (hseen : ∀ locked, seen = some locked → (locked = true ↔ s.store.Locked modelId)) :
    Quiet s (exec (serving env) p s).state := by
  obtain ⟨seen', hquiet, -⟩ := hp.invariant (H := serving env) (Watched modelId s)
    (fun _ _ _ => handle_watched) ⟨quiet_refl s, hseen⟩
  exact hquiet

/-- Something issued through the command line, the daemon or the engine. -/
inductive Request
  | operation (op : Operation)
  | apply (session : TuningSession)

def Request.program : Request → Engine Unit
  | .operation op => op.program
  | .apply session => do
    let _ ← AutotuneEngine.apply session
    return ()

/-- The request finds the lock as it would leave it: what is disabled is locked already or
not there, and what is saved is not locked. -/
def Discreet (env : Environment W) (request : Request) (s : System W) : Prop :=
  match request with
  | .operation (.disable modelId) =>
    s.store.getTunedConfig modelId = none ∨ s.store.Locked modelId
  | .operation (.tune modelId modelSpec dryRun) =>
    s.store.Locked modelId → dryRun = false → ¬ FindsBetter env modelId modelSpec s
  | .operation (.run _ _ _) | .operation (.pass _ _) | .operation (.autopilot _ _) => True
  | .apply session => ¬ s.store.Locked session.modelId

section apply
variable {session : TuningSession} {s : System W}

lemma apply_quiet (h : ¬ s.store.Locked session.modelId) :
    Quiet s (exec (serving env) (AutotuneEngine.apply session) s).state :=
  quiet_of_complies (apply_complies rfl) fun locked hlocked => by
    cases hlocked
    simpa using h

variable (env) in
/-- An applied session takes the lock away, and the trail says nothing of it. -/
lemma apply_unaudited (h : s.store.Locked session.modelId) :
    ¬ Audited session.modelId s (exec (serving env) (AutotuneEngine.apply session) s).state := by
  have hopen := apply_unlocked env session s
  intro haudited
  obtain ⟨e, he, -, locked, hlocked, -⟩ := haudited fun hiff => hopen (hiff.mpr h)
  have hadded : (exec (serving env) (AutotuneEngine.apply session) s).state.store.autopilotEvents =
      s.store.autopilotEvents ++ [(s.store.saveAutopilotEvent
        { modelId := session.modelId, eventType := "adjust"
          details := [("config", .config session.winner.config),
            ("reason", .message session.reason)] }).1] := rfl
  rw [newEvents, hadded, List.drop_left, List.mem_singleton] at he
  subst he
  simp [lockOf, InMemoryStorage.saveAutopilotEvent] at hlocked

end apply

variable (env) in
/-- A tune leaves the store alone, or it has found something better and applies it. -/
lemma tune_cases (modelId : String) (modelSpec : Option ModelSpec) (dryRun : Bool) (s : System W) :
    ((exec (serving env) (tune modelId modelSpec dryRun) s).state.store = s.store ∧
      (dryRun = false → ¬ FindsBetter env modelId modelSpec s)) ∨
    dryRun = false ∧ FindsBetter env modelId modelSpec s ∧ ∃ session s', session.modelId = modelId ∧
      s'.store = s.store ∧ (exec (serving env) (tune modelId modelSpec dryRun) s).state =
        (exec (serving env) (AutotuneEngine.apply session) s').state := by
  have hstore : (exec (serving env) (tuneOnce modelId modelSpec none) s).state.store = s.store :=
    ((tuneOnce_only modelId modelSpec none).frame System.store fun c s hc =>
      serving_offStore env c s hc.offStore).2
  rw [← tuneOnce_accepts_iff]
  unfold tune
  cases hr : (exec (serving env) (tuneOnce modelId modelSpec none) s).result with
  | error e =>
    rw [exec_bind_error hr]
    exact .inl ⟨hstore, fun _ h => by simp at h⟩
  | ok session =>
    rw [exec_bind_ok hr]
    have hmodel : session.modelId = modelId := by
      obtain ⟨baseline, candidates, rfl, -⟩ := tuneOnce_ensures modelId modelSpec none s session hr
      exact conclude_modelId _ _ _
    split_ifs with haccept
    · refine .inr ⟨haccept.2, ⟨session, rfl, haccept.1⟩, session, _, hmodel, hstore, ?_⟩
      exact (exec_bind_pure _ _ (fun _ => session) _).2
    · refine .inl ⟨hstore, fun hdry h => ?_⟩
      obtain ⟨session', heq, haccepted⟩ := h
      cases heq
      exact haccept ⟨haccepted, hdry⟩

lemma tune_quiet {modelId : String} {modelSpec : Option ModelSpec} {dryRun : Bool} {s : System W}
    (h : s.store.Locked modelId → dryRun = false → ¬ FindsBetter env modelId modelSpec s) :
    Quiet s (exec (serving env) (tune modelId modelSpec dryRun) s).state := by
  obtain ⟨hstore, -⟩ | ⟨hdry, hbetter, session, s', hmodel, hstore, hstate⟩ :=
    tune_cases env modelId modelSpec dryRun s
  · exact quiet_of_eq (by rw [hstore]) (by rw [hstore])
  · have hopen : ¬ s'.store.Locked session.modelId := by
      rw [hmodel, hstore]
      exact fun hlocked => h hlocked hdry hbetter
    rw [hstate]
    exact (quiet_of_eq (by rw [hstore]) (by rw [hstore])).trans (apply_quiet hopen)

variable (env) in
lemma tune_unaudited {modelId : String} {modelSpec : Option ModelSpec} {dryRun : Bool}
    {s : System W} (hlocked : s.store.Locked modelId)
    (h : ¬ (dryRun = false → ¬ FindsBetter env modelId modelSpec s)) :
    ¬ Audited modelId s (exec (serving env) (tune modelId modelSpec dryRun) s).state := by
  obtain ⟨-, hnone⟩ | ⟨-, -, session, s', rfl, hstore, hstate⟩ :=
    tune_cases env modelId modelSpec dryRun s
  · exact absurd hnone h
  · rw [hstate]
    have hlocked' : s'.store.Locked session.modelId := by
      rw [hstore]
      exact hlocked
    have hunaudited := apply_unaudited env hlocked'
    unfold Audited newEvents at hunaudited ⊢
    rw [hstore] at hunaudited
    exact hunaudited

lemma run_apart (modelId prompt : String) (modelSpec : Option ModelSpec) :
    Only Apart (LauncherService.run modelId prompt modelSpec) := by
  apply (LauncherService.run_only modelId prompt modelSpec).mono
  intro c hc
  obtain hoff | ⟨record, rfl⟩ := hc
  · cases c with
    | storage op => exact absurd rfl (hoff op)
    | _ => trivial
  · trivial

/-- A lock that is put on without an event is not in the trail. -/
lemma lock_unaudited {modelId : String} {s s' : System W}
    (hstore : s'.store = s.store.lockConfig modelId)
    (hsome : s.store.getTunedConfig modelId ≠ none) (hopen : ¬ s.store.Locked modelId) :
    ¬ Audited modelId s s' := by
  intro haudited
  have hlocked : (s.store.lockConfig modelId).Locked modelId := by
    rw [InMemoryStorage.locked_lock_iff]
    exact Option.isSome_iff_ne_none.mpr hsome
  obtain ⟨e, he, -⟩ := haudited fun hiff => hopen (hiff.mp (by rw [hstore]; exact hlocked))
  rw [newEvents, hstore] at he
  have hnew : (s.store.lockConfig modelId).autopilotEvents.drop
      s.store.autopilotEvents.length = [] := List.drop_length
  rw [hnew] at he
  cases he

theorem request_quiet (request : Request) {s : System W} (h : Discreet env request s) :
    Quiet s (exec (serving env) request.program s).state := by
  have hdiscard {α : Type} {p : Engine α} (hp : Quiet s (exec (serving env) p s).state) :
      Quiet s (exec (serving env) (p >>= fun _ => pure ()) s).state := by
    rw [(exec_discard (serving env) p s).2]
    exact hp
  have hunseen {modelId : String} (locked : Bool) (h : none = some locked) :
      locked = true ↔ s.store.Locked modelId := by cases h
  cases request with
  | apply session => exact hdiscard (apply_quiet h)
  | operation op =>
    cases op with
    | tune modelId modelSpec dryRun => exact hdiscard (tune_quiet h)
    | run modelId prompt modelSpec =>
      have hcomplies : Complies (auditProtocol modelId) (fun _ seen' => seen' = none) none
          (LauncherService.run modelId prompt modelSpec) :=
        only_apart_complies (run_apart modelId prompt modelSpec)
      exact hdiscard (quiet_of_complies hcomplies hunseen)
    | pass args l => exact hdiscard (quiet_of_complies (iterate_complies l) hunseen)
    | autopilot args more => exact quiet_of_complies (autopilotLoop_audited _ _) hunseen
    | disable modelId =>
      have hstore : (exec (serving env) (Operation.disable modelId).program s).state.store =
          s.store := by
        rw [disable_store]
        rcases h with hnone | hlocked
        · exact InMemoryStorage.lockConfig_of_none hnone
        · exact InMemoryStorage.lockConfig_of_locked _ _ hlocked
      exact quiet_of_eq (congrArg _ hstore) (congrArg _ hstore)

theorem request_unaudited (request : Request) {s : System W} (h : ¬ Discreet env request s) :
    ∃ m, ¬ Audited m s (exec (serving env) request.program s).state := by
  cases request with
  | apply session =>
    refine ⟨session.modelId, ?_⟩
    unfold Request.program
    rw [(exec_discard (serving env) (AutotuneEngine.apply session) s).2]
    exact apply_unaudited env (not_not.mp h)
  | operation op =>
    cases op with
    | tune modelId modelSpec dryRun =>
      refine ⟨modelId, ?_⟩
      unfold Request.program Operation.program
      rw [(exec_discard (serving env) (tune modelId modelSpec dryRun) s).2]
      obtain ⟨hlocked, hbetter⟩ := Classical.not_imp.mp h
      exact tune_unaudited env hlocked hbetter
    | run modelId prompt modelSpec => exact absurd trivial h
    | pass args l => exact absurd trivial h
    | autopilot args more => exact absurd trivial h
    | disable modelId =>
      have hparts : ¬ (s.store.getTunedConfig modelId = none ∨ s.store.Locked modelId) := h
      obtain ⟨hsome, hopen⟩ := not_or.mp hparts
      exact ⟨modelId, lock_unaudited (disable_store modelId s) hsome hopen⟩

/-- One request as it happened. -/
structure RequestRecord (W : Type) where
  request : Request
  before : System W
  after : System W

/-- The records of requests served one after the other. -/
def served (env : Environment W) : List Request → System W → List (RequestRecord W)
  | [], _ => []
  | request :: rest, s =>
    let s' := (exec (serving env) request.program s).state
    ⟨request, s, s'⟩ :: served env rest s'

/-- Over every sequence of requests: each change of a lock is on record, and the locks follow
from the trail since the start, exactly if no request changes a lock at all. -/
theorem served_audited_iff (env : Environment W) (requests : List Request) (start : System W) :
    (∀ r ∈ served env requests start, ∀ m,
      Audited m r.before r.after ∧ Reconstructed m start r.after) ↔
    ∀ r ∈ served env requests start, Discreet env r.request r.before := by
  suffices hrun : ∀ s, Quiet start s →
      ((∀ r ∈ served env requests s, ∀ m,
        Audited m r.before r.after ∧ Reconstructed m start r.after) ↔
      ∀ r ∈ served env requests s, Discreet env r.request r.before) from
    hrun start (quiet_refl start)
  induction requests with
  | nil => simp [served]
  | cons request rest ih =>
    intro s hquiet
    unfold served
    simp only [List.forall_mem_cons]
    constructor
    · intro h
      obtain ⟨hfirst, hrest⟩ := h
      have hdiscreet : Discreet env request s := by
        by_contra hnot
        obtain ⟨m, hunaudited⟩ := request_unaudited request hnot
        exact hunaudited (hfirst m).1
      exact ⟨hdiscreet, (ih _ (hquiet.trans (request_quiet request hdiscreet))).mp hrest⟩
    · intro h
      obtain ⟨hdiscreet, hrest⟩ := h
      have hstep := request_quiet request hdiscreet
      refine ⟨fun m => ⟨hstep.audited, (hquiet.trans hstep).reconstructed⟩, ?_⟩
      exact (ih _ (hquiet.trans hstep)).mpr hrest

/-- The config is locked, and no event is saved. -/
theorem disable_unaudited :
    let start : System ℚ := ⟨0, { tunedConfigs := [{ modelId := "m", config := Config.ofCtx 4096 }] }⟩
    ¬ ∀ r ∈ served (growing ∅) [.operation (.disable "m")] start, ∀ m,
      Audited m r.before r.after ∧ Reconstructed m start r.after := by
  intro start h
  obtain ⟨e, he, -⟩ := (h _ List.mem_cons_self "m").1 (by decide +kernel)
  have hnone : newEvents start
      (exec (serving (growing ∅)) (Request.operation (.disable "m")).program start).state = [] := by
    decide +kernel
  rw [hnone] at he
  cases he

end LlmMax.LockAudit
