import LlmMax.EffectBlocks
import LlmMax.HistoryRoute
import LlmMax.ModelLookup
import LlmMax.RunLog

/-! The routes of the daemon, over a storage that may fail at any call: what each one answers,
and what its answer tells of the storage. -/
namespace LlmMax.Agentd
open Domain BenchMetrics AutotuneState Storage EffectProgram EffectBlocks Services
open AutotuneEngine AutotuneSpec Compatibility HistoryRoute ModelLookup RunLog

/-- A request, with what is read from its path, its query and its body. -/
inductive Request
  | scan
  | models
  | history (query : HistoryQuery)
  | run (modelId prompt : String)
  | tune (modelId : String) (dryRun : Bool)
  | autopilotStatus (modelId : String)
  | autopilotDisable (modelId : String)

structure TunedConfigStatusResponse where
  modelId : String
  config : Option Config := none
  isLocked : Bool := false
  createdAt : Option String := none
  hasConfig : Bool

inductive Body
  | hardware (hw : HardwareProfile)
  | models (verdicts : List ModelCompatibility)
  | history (runs : List RunRecord)
  | run (result : RunResult) (record : RunRecord)
  | session (session : TuningSession)
  | status (status : TunedConfigStatusResponse)
  | locked (modelId : String)

inductive ErrorBody
  /-- The text under `detail` of an `HTTPException`. -/
  | detail (message : String)
  /-- The list under `detail` of a request that is not valid. -/
  | invalid
  | text (message : String)

/-- A response with status 200, or with that of an error. -/
inductive Response
  | ok (body : Body)
  | error (status : ℕ) (body : ErrorBody)

def httpException (status : ℕ) (detail : String) : Response := .error status (.detail detail)

def unprocessable : Response := .error 422 .invalid

/-- What the server sends for an exception that a route lets through. -/
def internalServerError : Response := .error 500 (.text "Internal Server Error")

section routes

def isRuntimeUnavailable : Exn → Bool
  | .runtimeUnavailable _ => true
  | _ => false

/-- `except RuntimeUnavailableError` around a block: a 503 with the text of the exception. -/
def orUnavailable {α : Type} (block : Engine α) : Engine (Except Response α) :=
  catching isRuntimeUnavailable
    (fun exc => return .error (httpException 503 (exc.caught.getD "")))
    (do return .ok (← block))

def scan : Engine Response := do return .ok (.hardware (← scanHardware))

def listHistory (query : HistoryQuery) : Engine Response := do
  if query.Accepted then
    let runs ← Program.perform (I := services) (.storage (.listRuns query.modelId query.limit))
    return .ok (.history runs)
  else return unprocessable

def tunedConfigStatus (modelId : String) : Option TunedConfig → TunedConfigStatusResponse
  | none => { modelId := modelId, hasConfig := false }
  | some config => {
      modelId := modelId
      config := some config.config
      isLocked := config.isLocked
      createdAt := config.createdAt
      hasConfig := true }

def autopilotStatus (modelId : String) : Engine Response := do
  return .ok (.status (tunedConfigStatus modelId (← getTunedConfig modelId)))

def noTunedConfig (modelId : String) : Response :=
  httpException 404 ("No tuned config exists yet for " ++ modelId ++ " — run tune first.")

def autopilotDisable (modelId : String) : Engine Response := do
  match ← getTunedConfig modelId with
  | none => return noTunedConfig modelId
  | some _ =>
    lockConfig modelId
    return .ok (.locked modelId)

variable (catalog : Except Failure (List ModelSpec))

/-- The catalog as it loads, or the exception that loading it raises. -/
def loadCatalog : Engine (List ModelSpec) := Program.lift (catalog.mapError Subtype.val)

def models : Engine Response := do
  let hw ← scanHardware
  return .ok (.models (classifyAll (← loadCatalog catalog) hw))

def run (modelId prompt : String) : Engine Response := do
  let modelSpec := findModelSpec (← loadCatalog catalog) modelId
  match ← orUnavailable (LauncherService.run modelId prompt modelSpec) with
  | .error response => return response
  | .ok (result, record) => return .ok (.run result record)

def tune (modelId : String) (dryRun : Bool) : Engine Response := do
  let modelSpec := findModelSpec (← loadCatalog catalog) modelId
  match ← orUnavailable (tuneOnce modelId modelSpec none) with
  | .error response => return response
  | .ok session =>
    if session.outcome = .acceptedNew ∧ dryRun = false then
      let _ ← apply session
      return .ok (.session session)
    else return .ok (.session session)

def route : Request → Engine Response
  | .scan => scan
  | .models => models catalog
  | .history query => listHistory query
  | .run modelId prompt => run catalog modelId prompt
  | .tune modelId dryRun => tune catalog modelId dryRun
  | .autopilotStatus modelId => autopilotStatus modelId
  | .autopilotDisable modelId => autopilotDisable modelId

end routes

/-- What can go wrong with a storage call: it is refused before it has changed anything, or it is
carried out and raises all the same. -/
inductive Fault
  | refused (message : String)
  | replyLost (message : String)

/-- The daemon, with the faults of the storage calls to come. -/
structure Daemon (W : Type) where
  world : W
  store : InMemoryStorage
  faults : List (Option Fault)

variable {W : Type}

def faltering (env : Environment W) : Handler services Exn (Daemon W) where
  handle c d :=
    match c with
    | .storage op =>
      let out := InMemoryStorage.serve op d.store
      match d.faults.head?.join with
      | none => (.ok out.1, { d with store := out.2, faults := d.faults.tail })
      | some (.refused message) => (.error (.exception message), { d with faults := d.faults.tail })
      | some (.replyLost message) =>
        (.error (.exception message), { d with store := out.2, faults := d.faults.tail })
    | c =>
      let out := (serving env).handle c ⟨d.world, {}⟩
      (out.1, { d with world := out.2.world })

/-- What is sent back: an exception becomes a 500, and an interrupt ends the daemon. -/
def respond : Except Exn Response → Option Response
  | .ok response => some response
  | .error exc =>
    match exc.caught with
    | some _ => some internalServerError
    | none => none

/-- A request handled to its end: what is sent back, and the daemon after it. -/
def handle (env : Environment W) (catalog : Except Failure (List ModelSpec)) (request : Request)
    (d : Daemon W) : Option Response × Daemon W :=
  let out := exec (faltering env) (route catalog request) d
  (respond out.result, out.state)

section meaning

def adjustEvent (session : TuningSession) : AutopilotEvent where
  modelId := session.modelId
  eventType := "adjust"
  details := [("config", .config session.winner.config), ("reason", .message session.reason)]

/-- The store once the winner of a session is saved, and once that is noted as well. -/
def adjusted (session : TuningSession) (noted : Bool) (s : InMemoryStorage) : InMemoryStorage :=
  let saved :=
    (s.saveTunedConfig { modelId := session.modelId, config := session.winner.config }).2
  if noted then (saved.saveAutopilotEvent (adjustEvent session)).2 else saved

/-- The one change to the storage that a request is for. -/
inductive Effect : Request → InMemoryStorage → InMemoryStorage → Prop
  | saved (modelId prompt runtime : String) (result : RunResult) (s : InMemoryStorage) :
    Effect (.run modelId prompt) s (s.saveRun (recordOf modelId prompt runtime result)).2
  | adjusted (session : TuningSession) (noted : Bool) (s : InMemoryStorage)
      (h : session.outcome = .acceptedNew) :
    Effect (.tune session.modelId false) s (adjusted session noted s)
  | locked (modelId : String) (s : InMemoryStorage) (h : s.getTunedConfig modelId ≠ none) :
    Effect (.autopilotDisable modelId) s (s.lockConfig modelId)

/-- What a success tells: the change it reports is made, once, and all else is as it was. -/
inductive Told (catalog : Except Failure (List ModelSpec)) :
    Request → Body → InMemoryStorage → InMemoryStorage → Prop
  | hardware (hw : HardwareProfile) (s : InMemoryStorage) : Told catalog .scan (.hardware hw) s s
  | models (known : List ModelSpec) (hw : HardwareProfile) (s : InMemoryStorage)
      (h : catalog = .ok known) : Told catalog .models (.models (classifyAll known hw)) s s
  | history (query : HistoryQuery) (s : InMemoryStorage) (h : query.Accepted) :
    Told catalog (.history query) (.history (s.listRuns query.modelId query.limit)) s s
  | saved (modelId prompt runtime : String) (result : RunResult) (s : InMemoryStorage) :
    Told catalog (.run modelId prompt)
      (.run result (s.saveRun (recordOf modelId prompt runtime result)).1) s
      (s.saveRun (recordOf modelId prompt runtime result)).2
  | measured (session : TuningSession) (dryRun : Bool) (s : InMemoryStorage)
      (h : ¬ (session.outcome = .acceptedNew ∧ dryRun = false)) :
    Told catalog (.tune session.modelId dryRun) (.session session) s s
  | adjusted (session : TuningSession) (noted : Bool) (s : InMemoryStorage)
      (h : session.outcome = .acceptedNew) :
    Told catalog (.tune session.modelId false) (.session session) s (adjusted session noted s)
  | status (modelId : String) (s : InMemoryStorage) :
    Told catalog (.autopilotStatus modelId)
      (.status (tunedConfigStatus modelId (s.getTunedConfig modelId))) s s
  | locked (modelId : String) (s : InMemoryStorage) (h : s.getTunedConfig modelId ≠ none) :
    Told catalog (.autopilotDisable modelId) (.locked modelId) s (s.lockConfig modelId)

/-- The answers after which nothing has been done. -/
inductive Refuses : Request → Response → InMemoryStorage → Prop
  | limit (query : HistoryQuery) (s : InMemoryStorage) (h : ¬ query.Accepted) :
    Refuses (.history query) unprocessable s
  | noConfig (modelId : String) (s : InMemoryStorage) (h : s.getTunedConfig modelId = none) :
    Refuses (.autopilotDisable modelId) (noTunedConfig modelId) s
  | run (modelId prompt message : String) (s : InMemoryStorage) :
    Refuses (.run modelId prompt) (httpException 503 message) s
  | tune (modelId message : String) (dryRun : Bool) (s : InMemoryStorage) :
    Refuses (.tune modelId dryRun) (httpException 503 message) s

/-- A request handled once, by what is sent back. -/
inductive Handled (catalog : Except Failure (List ModelSpec)) (request : Request) :
    Option Response → InMemoryStorage → InMemoryStorage → Prop
  | succeeded {body : Body} {s s' : InMemoryStorage} (h : Told catalog request body s s') :
    Handled catalog request (some (.ok body)) s s'
  | refused {response : Response} {s : InMemoryStorage} (h : Refuses request response s) :
    Handled catalog request (some response) s s
  | failed {s s' : InMemoryStorage} (h : s' = s ∨ Effect request s s') :
    Handled catalog request (some internalServerError) s s'
  | ended {s s' : InMemoryStorage} (h : s' = s ∨ Effect request s s') :
    Handled catalog request none s s'

/-- What a route may do, by the response it returns or the exception it lets through. -/
def Concludes (catalog : Except Failure (List ModelSpec)) (request : Request)
    (s : InMemoryStorage) : Except Exn Response → InMemoryStorage → Prop
  | .ok response, s' => (∃ body, response = .ok body ∧ Told catalog request body s s') ∨
      Refuses request response s ∧ s' = s
  | .error _, s' => s' = s ∨ Effect request s s'

end meaning

section calls
variable {env : Environment W} {d : Daemon W}

lemma faltering_offStore (c : Call) (d : Daemon W) (h : c.OffStore) :
    ((faltering env).handle c d).2.store = d.store := by
  cases c with
  | storage op => exact absurd rfl (h op)
  | _ => rfl

lemma offStore_ensures {α : Type} {p : Engine α} (h : Only Call.OffStore p) :
    Ensures (faltering env) p d fun _ _ d' => d'.store = d.store :=
  (h.frame Daemon.store faltering_offStore).2

/-- A storage call replies and has done what it is for, or raises and may have done it. -/
lemma faltering_storage (env : Environment W) (op : StorageCall) (d : Daemon W) :
    let out := (faltering env).handle (.storage op) d
    (out.1 = .ok (InMemoryStorage.serve op d.store).1 ∧
        out.2.store = (InMemoryStorage.serve op d.store).2) ∨
      (∃ message, out.1 = .error (.exception message)) ∧
        (out.2.store = d.store ∨ out.2.store = (InMemoryStorage.serve op d.store).2) := by
  simp only [faltering]
  split
  · exact .inl ⟨rfl, rfl⟩
  · exact .inr ⟨⟨_, rfl⟩, .inl rfl⟩
  · exact .inr ⟨⟨_, rfl⟩, .inr rfl⟩

lemma storage_ensures (op : StorageCall) :
    Ensures (faltering env) (Program.perform (I := services) (.storage op)) d fun r _ d' =>
      (r = .ok (InMemoryStorage.serve op d.store).1 ∧
        d'.store = (InMemoryStorage.serve op d.store).2) ∨
      (∃ message, r = .error (.exception message)) ∧
        (d'.store = d.store ∨ d'.store = (InMemoryStorage.serve op d.store).2) :=
  ensures_perform (faltering_storage env op d)

/-- A storage call that reads, and what is made of the reply. -/
lemma read_ensures (op : StorageCall) {f : op.Reply → Engine Response}
    {catalog : Except Failure (List ModelSpec)} {request : Request}
    (hop : (InMemoryStorage.serve op d.store).2 = d.store)
    (hf : ∀ d' : Daemon W, d'.store = d.store →
      Ensures (faltering env) (f (InMemoryStorage.serve op d.store).1) d' fun r _ d'' =>
        Concludes catalog request d.store r d''.store) :
    Ensures (faltering env) (Program.perform (I := services) (.storage op) >>= f) d fun r _ d' =>
      Concludes catalog request d.store r d'.store := by
  apply (storage_ensures op).bind
  · intro reply t d' h
    rcases h with ⟨hreply, hstore⟩ | ⟨⟨message, hraised⟩, -⟩
    · cases hreply
      exact hf d' (hstore.trans hop)
    · cases hraised
  · intro exc t d' h
    rcases h with ⟨hreply, -⟩ | ⟨-, hstore⟩
    · cases hreply
    · left
      rcases hstore with hstore | hstore
      · exact hstore
      · exact hstore.trans hop

end calls

section launch
variable {env : Environment W} {d : Daemon W} {modelId prompt : String}

/-- What running a prompt may do: a record that is saved though the call raises is never taken
for a runtime that is not there. -/
def Ran (modelId prompt : String) (s : InMemoryStorage) :
    Except Exn (RunResult × RunRecord) → InMemoryStorage → Prop
  | .ok (result, record), s' =>
    ∃ runtime, s.saveRun (recordOf modelId prompt runtime result) = (record, s')
  | .error exc, s' => s' = s ∨ (∃ message, exc = .exception message) ∧
      ∃ runtime result, s' = (s.saveRun (recordOf modelId prompt runtime result)).2

lemma requireRuntime_offStore : Only Call.OffStore requireRuntime :=
  requireRuntime_only.mono fun _ h => (measuring_of_asksOnly h).offStore

lemma runOptions_offStore (modelSpec : Option ModelSpec) :
    Only Call.OffStore (LauncherService.runOptions modelSpec) := by
  cases modelSpec with
  | none => exact only_pure _
  | some model =>
    have hscan : Only Call.OffStore scanHardware := only_perform (I := services) fun _ h => by cases h
    exact hscan.bind fun _ => only_pure _

lemma launch_ensures (modelSpec : Option ModelSpec) :
    Ensures (faltering env) (LauncherService.run modelId prompt modelSpec) d fun r _ d' =>
      Ran modelId prompt d.store r d'.store := by
  refine (offStore_ensures requireRuntime_offStore).bind ?_ fun _ _ _ h => .inl h
  intro _ t₁ d₁ h₁
  refine (offStore_ensures (runOptions_offStore modelSpec)).bind ?_ fun _ _ _ h => .inl (h.trans h₁)
  intro options t₂ d₂ h₂
  have hrun : Only Call.OffStore (adapterRun modelId prompt options) :=
    only_perform (I := services) fun _ h => by cases h
  refine (offStore_ensures hrun).bind ?_ fun _ _ _ h => .inl (h.trans (h₂.trans h₁))
  intro result t₃ d₃ h₃
  have hname : Only Call.OffStore adapterName := only_perform (I := services) fun _ h => by cases h
  refine (offStore_ensures hname).bind ?_ fun _ _ _ h => .inl (h.trans (h₃.trans (h₂.trans h₁)))
  intro runtime t₄ d₄ h₄
  have hstore : d₄.store = d.store := h₄.trans (h₃.trans (h₂.trans h₁))
  apply (storage_ensures (.saveRun (recordOf modelId prompt runtime result))).bind
  · intro record t d' h
    rcases h with ⟨hreply, hsaved⟩ | ⟨⟨message, hraised⟩, -⟩
    · cases hreply
      refine ensures_pure ⟨runtime, ?_⟩
      rw [hsaved, hstore]
      rfl
    · cases hraised
  · intro exc t d' h
    rcases h with ⟨hreply, -⟩ | ⟨⟨message, hraised⟩, hkept | hsaved⟩
    · cases hreply
    · exact .inl (hkept.trans hstore)
    · cases hraised
      refine .inr ⟨⟨message, rfl⟩, runtime, result, ?_⟩
      rw [hsaved, hstore]
      rfl

end launch

section tuning
variable {env : Environment W} {d : Daemon W}

lemma tuneOnce_modelId (modelId : String) (modelSpec : Option ModelSpec) :
    Ensures (faltering env) (tuneOnce modelId modelSpec none) d fun r _ _ =>
      ∀ session : TuningSession, r = .ok session → session.modelId = modelId := by
  have hany {α : Type} (p : Engine α) (d₀ : Daemon W) :
      Ensures (faltering env) p d₀ fun _ _ _ => True := trivial
  unfold tuneOnce
  apply (hany _ d).bind_ok (Q := fun (session : TuningSession) _ _ => session.modelId = modelId)
  intro _ t₁ d₁ _
  apply (hany _ d₁).bind_ok (Q := fun (session : TuningSession) _ _ => session.modelId = modelId)
  intro config t₂ d₂ _
  apply (hany _ d₂).bind_ok (Q := fun (session : TuningSession) _ _ => session.modelId = modelId)
  intro benchmark t₃ d₃ _
  apply (hany _ d₃).bind_ok (Q := fun (session : TuningSession) _ _ => session.modelId = modelId)
  intro configs t₄ d₄ _
  apply (hany _ d₄).bind_ok (Q := fun (session : TuningSession) _ _ => session.modelId = modelId)
  intro candidates t₅ d₅ _
  exact ensures_ok (conclude_modelId _ _ _)

lemma tuneOnce_ensures (modelId : String) (modelSpec : Option ModelSpec) :
    Ensures (faltering env) (tuneOnce modelId modelSpec none) d fun r _ d' =>
      d'.store = d.store ∧ ∀ session : TuningSession, r = .ok session → session.modelId = modelId := by
  have hkept : Only Call.OffStore (tuneOnce modelId modelSpec none) :=
    (tuneOnce_only modelId modelSpec none).mono fun _ h => h.offStore
  exact (offStore_ensures hkept).and (tuneOnce_modelId modelId modelSpec)

/-- Noting an adjustment never raises, whatever becomes of the note. -/
lemma noted_ensures (session : TuningSession) :
    Ensures (faltering env) (logEvent session.modelId "adjust"
      [("config", .config session.winner.config), ("reason", .message session.reason)]) d
      fun r _ d' => r = .ok () ∧ ∃ noted : Bool, d'.store =
        if noted then (d.store.saveAutopilotEvent (adjustEvent session)).2 else d.store := by
  apply ensures_attempt_bind
  rcases faltering_storage env (.saveAutopilotEvent {
      modelId := session.modelId
      eventType := "adjust"
      details := [("config", .config session.winner.config),
        ("reason", .message session.reason)] }) d with
    ⟨hreply, hstore⟩ | ⟨⟨message, hraised⟩, hstore⟩
  · rw [hreply]
    exact ensures_pure ⟨rfl, true, hstore⟩
  · rw [hraised]
    refine ensures_pure ⟨rfl, ?_⟩
    rcases hstore with hstore | hstore
    · exact ⟨false, hstore⟩
    · exact ⟨true, hstore⟩

lemma apply_ensures (session : TuningSession) :
    Ensures (faltering env) (apply session) d fun r _ d' => match r with
      | .ok _ => ∃ noted, d'.store = adjusted session noted d.store
      | .error _ => d'.store = d.store ∨ ∃ noted, d'.store = adjusted session noted d.store := by
  apply (storage_ensures (.saveTunedConfig
    { modelId := session.modelId, config := session.winner.config })).bind
  · intro saved t d₁ h
    rcases h with ⟨-, hsaved⟩ | ⟨⟨message, hraised⟩, -⟩
    · apply (noted_ensures session).bind_returned
      intro t' d₂ hnoted
      obtain ⟨noted, hstore⟩ := hnoted
      refine ensures_pure ⟨noted, ?_⟩
      rw [hstore, hsaved]
      rfl
    · cases hraised
  · intro exc t d₁ h
    rcases h with ⟨hreply, -⟩ | ⟨-, hstore⟩
    · cases hreply
    · rcases hstore with hstore | hstore
      · exact .inl hstore
      · exact .inr ⟨false, hstore⟩

end tuning

section routes
variable {env : Environment W} {catalog : Except Failure (List ModelSpec)} {d : Daemon W}

lemma loadCatalog_ensures : Ensures (faltering env) (loadCatalog catalog) d fun r _ d' =>
    d'.store = d.store ∧ ∀ known, r = .ok known → catalog = .ok known := by
  refine ensures_lift ⟨rfl, fun known h => ?_⟩
  cases catalog with
  | ok models =>
    cases h
    rfl
  | error exc => cases h

/-- The block has run to its end, or a missing runtime has become a 503, or another exception
goes on. -/
lemma orUnavailable_ensures {α : Type} {block : Engine α}
    {R : Except Exn α → InMemoryStorage → Prop}
    (h : Ensures (faltering env) block d fun r _ d' => R r d'.store) :
    Ensures (faltering env) (orUnavailable block) d fun r _ d' =>
      (∃ a, r = .ok (.ok a) ∧ R (.ok a) d'.store) ∨
      (∃ message, r = .ok (.error (httpException 503 message)) ∧
        R (.error (.runtimeUnavailable message)) d'.store) ∨
      ∃ exc, r = .error exc ∧ R (.error exc) d'.store := by
  have hblock : Ensures (faltering env) (do return .ok (← block)) d
      fun (r : Except Exn (Except Response α)) _ d' =>
        (∃ a, r = .ok (.ok a) ∧ R (.ok a) d'.store) ∨
        ∃ exc, r = .error exc ∧ R (.error exc) d'.store := by
    refine h.bind ?_ fun exc t d' hexc => .inr ⟨exc, rfl, hexc⟩
    intro a t d' ha
    exact ensures_pure (.inl ⟨a, rfl, ha⟩)
  refine ensures_catching hblock ?_ ?_ ?_
  · intro a t d' hpost
    rcases hpost with hreturned | ⟨exc, hexc, -⟩
    · exact .inl hreturned
    · cases hexc
  · intro exc t d' hpost hcaught
    rcases hpost with ⟨a, ha, -⟩ | ⟨exc, hexc, hR⟩
    · cases ha
    · cases hexc
      cases exc with
      | runtimeUnavailable message => exact ensures_pure (.inr (.inl ⟨message, rfl, hR⟩))
      | exception message => cases hcaught
      | interrupt => cases hcaught
  · intro exc t d' hpost _
    rcases hpost with ⟨a, ha, -⟩ | hraised
    · cases ha
    · exact .inr (.inr hraised)

lemma run_concludes (modelId prompt : String) :
    Ensures (faltering env) (run catalog modelId prompt) d fun r _ d' =>
      Concludes catalog (.run modelId prompt) d.store r d'.store := by
  refine loadCatalog_ensures.bind ?_ fun _ _ _ h => .inl h.1
  intro known t₁ d₁ h₁
  apply (orUnavailable_ensures (launch_ensures (findModelSpec known modelId))).bind
  · intro outcome t₂ d₂ h₂
    rw [h₁.1] at h₂
    rcases h₂ with ⟨⟨result, record⟩, hr, runtime, hsaved⟩ | ⟨message, hr, hran⟩ | ⟨exc, hr, -⟩
    · cases hr
      obtain ⟨rfl, hstore⟩ := Prod.mk.injEq .. ▸ hsaved
      refine ensures_pure (.inl ⟨_, rfl, ?_⟩)
      rw [← hstore]
      exact .saved modelId prompt runtime result d.store
    · cases hr
      refine ensures_pure (.inr ?_)
      rcases hran with hkept | ⟨⟨_, hother⟩, -⟩
      · rw [hkept]
        exact ⟨.run modelId prompt message _, rfl⟩
      · cases hother
    · cases hr
  · intro exc t₂ d₂ h₂
    rw [h₁.1] at h₂
    rcases h₂ with ⟨a, hr, -⟩ | ⟨message, hr, -⟩ | ⟨exc, -, hran⟩
    · cases hr
    · cases hr
    · rcases hran with hkept | ⟨-, runtime, result, hsaved⟩
      · exact .inl hkept
      · right
        rw [hsaved]
        exact .saved modelId prompt runtime result d.store

lemma tune_concludes (modelId : String) (dryRun : Bool) :
    Ensures (faltering env) (tune catalog modelId dryRun) d fun r _ d' =>
      Concludes catalog (.tune modelId dryRun) d.store r d'.store := by
  refine loadCatalog_ensures.bind ?_ fun _ _ _ h => .inl h.1
  intro known t₁ d₁ h₁
  have hran : Ensures (faltering env) (tuneOnce modelId (findModelSpec known modelId) none) d₁
      fun r _ d' => d'.store = d₁.store ∧
        ∀ session : TuningSession, r = .ok session → session.modelId = modelId :=
    tuneOnce_ensures modelId (findModelSpec known modelId)
  have htune := orUnavailable_ensures hran (R := fun r s => s = d₁.store ∧
    ∀ session : TuningSession, r = .ok session → session.modelId = modelId)
  refine htune.bind ?_ ?_
  · intro outcome t₂ d₂ h₂
    rw [h₁.1] at h₂
    rcases h₂ with ⟨session, hr, hkept, hmodel⟩ | ⟨message, hr, hkept, -⟩ | ⟨exc, hr, -⟩
    · cases hr
      obtain rfl := hmodel session rfl
      dsimp only
      split_ifs with haccepted
      · obtain ⟨haccepted, rfl⟩ := haccepted
        refine (apply_ensures session).bind ?_ ?_
        · intro saved t₃ d₃ h₃
          obtain ⟨noted, hstore⟩ := h₃
          refine ensures_pure (.inl ⟨_, rfl, ?_⟩)
          rw [hstore, hkept]
          exact .adjusted session noted d.store haccepted
        · intro exc t₃ d₃ h₃
          rw [hkept] at h₃
          rcases h₃ with hsame | ⟨noted, hstore⟩
          · exact .inl hsame
          · right
            rw [hstore]
            exact .adjusted session noted d.store haccepted
      · refine ensures_pure (.inl ⟨_, rfl, ?_⟩)
        rw [hkept]
        exact .measured session dryRun d.store haccepted
    · cases hr
      refine ensures_pure (.inr ?_)
      rw [hkept]
      exact ⟨.tune modelId message dryRun _, rfl⟩
    · cases hr
  · intro exc t₂ d₂ h₂
    rw [h₁.1] at h₂
    rcases h₂ with ⟨a, hr, -⟩ | ⟨message, hr, -⟩ | ⟨exc, -, hkept, -⟩
    · cases hr
    · cases hr
    · exact .inl hkept

lemma disable_concludes (modelId : String) :
    Ensures (faltering env) (autopilotDisable modelId) d fun r _ d' =>
      Concludes catalog (.autopilotDisable modelId) d.store r d'.store := by
  refine read_ensures (.getTunedConfig modelId) rfl ?_
  intro d₁ h₁
  change Ensures (faltering env) (match d.store.getTunedConfig modelId with
    | none => return noTunedConfig modelId
    | some _ => do
      lockConfig modelId
      return .ok (.locked modelId)) d₁ _
  cases hconfig : d.store.getTunedConfig modelId with
  | none =>
    refine ensures_pure (.inr ?_)
    rw [h₁]
    exact ⟨.noConfig modelId _ hconfig, rfl⟩
  | some config =>
    have hsome : d.store.getTunedConfig modelId ≠ none := by simp [hconfig]
    apply (storage_ensures (.lockConfig modelId)).bind
    · intro _ t d₂ h
      rw [h₁] at h
      rcases h with ⟨-, hstore⟩ | ⟨⟨message, hraised⟩, -⟩
      · refine ensures_pure (.inl ⟨_, rfl, ?_⟩)
        rw [hstore]
        exact .locked modelId d.store hsome
      · cases hraised
    · intro exc t d₂ h
      rw [h₁] at h
      rcases h with ⟨hreply, -⟩ | ⟨-, hstore | hstore⟩
      · cases hreply
      · exact .inl hstore
      · right
        rw [hstore]
        exact .locked modelId d.store hsome

lemma history_concludes (query : HistoryQuery) :
    Ensures (faltering env) (listHistory query) d fun r _ d' =>
      Concludes catalog (.history query) d.store r d'.store := by
  unfold listHistory
  split_ifs with haccepted
  · refine read_ensures (.listRuns query.modelId query.limit) rfl ?_
    intro d₁ h₁
    refine ensures_pure (.inl ⟨_, rfl, ?_⟩)
    rw [h₁]
    exact .history query d.store haccepted
  · exact ensures_pure (.inr ⟨.limit query _ haccepted, rfl⟩)

lemma status_concludes (modelId : String) :
    Ensures (faltering env) (autopilotStatus modelId) d fun r _ d' =>
      Concludes catalog (.autopilotStatus modelId) d.store r d'.store := by
  refine read_ensures (.getTunedConfig modelId) rfl ?_
  intro d₁ h₁
  refine ensures_pure (.inl ⟨_, rfl, ?_⟩)
  rw [h₁]
  exact .status modelId d.store

/-- What every route may do. -/
lemma route_concludes (request : Request) :
    Ensures (faltering env) (route catalog request) d fun r _ d' =>
      Concludes catalog request d.store r d'.store := by
  have hscan : Only Call.OffStore scanHardware := only_perform (I := services) fun _ h => by cases h
  cases request with
  | scan =>
    refine (offStore_ensures hscan).bind ?_ fun _ _ _ h => .inl h
    intro hw t d₁ h₁
    refine ensures_pure (.inl ⟨_, rfl, ?_⟩)
    rw [h₁]
    exact .hardware hw d.store
  | models =>
    refine (offStore_ensures hscan).bind ?_ fun _ _ _ h => .inl h
    intro hw t d₁ h₁
    refine loadCatalog_ensures.bind ?_ fun _ _ _ h => .inl (h.1.trans h₁)
    intro known t d₂ h₂
    refine ensures_pure (.inl ⟨_, rfl, ?_⟩)
    rw [h₂.1, h₁]
    exact .models known hw d.store (h₂.2 known rfl)
  | history query => exact history_concludes query
  | run modelId prompt => exact run_concludes modelId prompt
  | tune modelId dryRun => exact tune_concludes modelId dryRun
  | autopilotStatus modelId => exact status_concludes modelId
  | autopilotDisable modelId => exact disable_concludes modelId

/-- A request handled once: a success tells what has been done, a refusal that nothing has, and
any other error leaves open whether the one change was made. -/
theorem handle_handled (env : Environment W) (catalog : Except Failure (List ModelSpec))
    (request : Request) (d : Daemon W) :
    Handled catalog request (handle env catalog request d).1 d.store
      (handle env catalog request d).2.store := by
  have hroute : Concludes catalog request d.store
      (exec (faltering env) (route catalog request) d).result
      (exec (faltering env) (route catalog request) d).state.store := route_concludes request
  unfold handle
  dsimp only
  cases hr : (exec (faltering env) (route catalog request) d).result with
  | ok response =>
    rw [hr] at hroute
    rcases hroute with ⟨body, rfl, htold⟩ | ⟨hrefuses, hkept⟩
    · exact .succeeded htold
    · rw [hkept]
      exact .refused hrefuses
  | error exc =>
    rw [hr] at hroute
    unfold respond
    cases hcaught : exc.caught with
    | some message =>
      simp only [hcaught]
      exact .failed hroute
    | none =>
      simp only [hcaught]
      exact .ended hroute

end routes

end LlmMax.Agentd
