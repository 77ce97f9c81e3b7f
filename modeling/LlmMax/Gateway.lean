import LlmMax.Agentd
import LlmMax.Resending

/-! The web backend in front of the daemon: what its answers tell a browser, whatever becomes of
the requests between the two and however often they are sent. -/
namespace LlmMax.Gateway
open Domain BenchMetrics AutotuneState Storage EffectProgram Services
open Compatibility HistoryRoute ModelLookup Agentd Resending

structure RunRequestDto where
  prompt : Option String

structure TuneRequestDto where
  dryRun : Bool

/-- A request of the browser. A body is absent where it is missing or cannot be read. -/
inductive Ask
  | scan
  | models
  | model (modelId : String)
  | history (modelId : Option String) (limit : ℤ)
  | run (modelId : String) (request : Option RunRequestDto)
  | tune (modelId : String) (request : Except Unit (Option TuneRequestDto))
  | status (modelId : String)
  | disable (modelId : String)

/-- What the backend leaves out of a run: the runtime's own answer. -/
structure RunResultDto where
  response : String
  totalDurationS : ℚ
  tokensGenerated : ℤ
  tokensPerSec : Option ℚ
  runRecord : RunRecord

def runResultDto (result : RunResult) (record : RunRecord) : RunResultDto where
  response := result.response
  totalDurationS := result.totalDurationS
  tokensGenerated := result.tokensGenerated
  tokensPerSec := result.tokensPerSec
  runRecord := record

inductive Dto
  | hardwareProfile (hw : HardwareProfile)
  | modelCompatibilities (items : List ModelCompatibility)
  | modelCompatibility (item : ModelCompatibility)
  | runRecords (runs : List RunRecord)
  | runResult (result : RunResultDto)
  | tuningSession (session : TuningSession)
  | tunedConfigStatus (status : TunedConfigStatusResponse)
  | empty

/-- What the code below the controllers throws. -/
inductive Throwable
  | resourceAccess (message : String)
  | agentdUnavailable (message : String)
  | restClientResponse (status : ℕ) (body : ErrorBody)
  | methodArgumentNotValid (message : String)
  | httpMessageNotReadable
  | responseStatus (exc : ResponseStatusException)

structure ErrorResponse where
  status : ℕ
  code : String
  message : String
  deriving DecidableEq

inductive Answer
  | ok (dto : Dto)
  | error (response : ErrorResponse)

/-- The libraries: which characters are alike but for case, which prompts are blank, and what
keeps a body from being read as its type. -/
structure Libraries where
  fold : Char → Char
  blank : String → Bool
  unreadable : Body → Option String

abbrev http : Interface := ⟨Request, fun _ => Response⟩

abbrev Backend := Program http Throwable

section client

def couldNotReach (message : String) : Throwable :=
  .agentdUnavailable ("Could not reach agentd — is it running? (" ++ message ++ ")")

/-- A call of the daemon: its own errors go on as they are, any other is one of reaching it. -/
def execute {α : Type} (lib : Libraries) (request : Request) (read : Body → Option α) :
    Backend α := do
  match ← Program.attempt (I := http) request with
  | .error (.resourceAccess message) => Program.raise (couldNotReach message)
  | .error exc => Program.raise exc
  | .ok (.error status body) => Program.raise (.restClientResponse status body)
  | .ok (.ok body) =>
    match lib.unreadable body, read body with
    | none, some dto => return dto
    | trouble, _ => Program.raise (couldNotReach (trouble.getD ""))

variable (lib : Libraries)

def scanHardware : Backend HardwareProfile :=
  execute lib .scan fun
    | .hardware hw => some hw
    | _ => none

def listModels : Backend (List ModelCompatibility) :=
  execute lib .models fun
    | .models items => some items
    | _ => none

def history (modelId : Option String) (limit : ℤ) : Backend (List RunRecord) :=
  execute lib (.history ⟨modelId, limit⟩) fun
    | .history runs => some runs
    | _ => none

def run (modelId prompt : String) : Backend RunResultDto :=
  execute lib (.run modelId prompt) fun
    | .run result record => some (runResultDto result record)
    | _ => none

def tune (modelId : String) (dryRun : Bool) : Backend TuningSession :=
  execute lib (.tune modelId dryRun) fun
    | .session session => some session
    | _ => none

def autopilotStatus (modelId : String) : Backend TunedConfigStatusResponse :=
  execute lib (.autopilotStatus modelId) fun
    | .status status => some status
    | _ => none

/-- The body is not read. -/
def autopilotDisable (modelId : String) : Backend Unit :=
  execute { lib with unreadable := fun _ => none } (.autopilotDisable modelId) fun _ => some ()

end client

section controllers
variable (lib : Libraries)

/-- `@NotBlank` of the prompt. -/
def validated (request : RunRequestDto) : Backend String :=
  match request.prompt with
  | none => Program.raise (.methodArgumentNotValid "prompt must not be blank")
  | some prompt =>
    if lib.blank prompt then Program.raise (.methodArgumentNotValid "prompt must not be blank")
    else return prompt

def controller : Ask → Backend Dto
  | .scan => do return .hardwareProfile (← scanHardware lib)
  | .models => do return .modelCompatibilities (← listModels lib)
  | .model modelId => do
    match hardwareModel lib.fold (← listModels lib) modelId with
    | .ok item => return .modelCompatibility item
    | .error exc => Program.raise (.responseStatus exc)
  | .history modelId limit => do return .runRecords (← history lib modelId limit)
  | .run _ none => Program.raise .httpMessageNotReadable
  | .run modelId (some request) => do
    return .runResult (← run lib modelId (← validated lib request))
  | .tune _ (.error ()) => Program.raise .httpMessageNotReadable
  | .tune modelId (.ok request) => do
    return .tuningSession (← tune lib modelId (request.any TuneRequestDto.dryRun))
  | .status modelId => do return .tunedConfigStatus (← autopilotStatus lib modelId)
  | .disable modelId => do
    autopilotDisable lib modelId
    return .empty

end controllers

section handlers

def isBlank (text : String) : Bool := text.toList.all Char.isWhitespace

/-- The text of the daemon's error: a list under `detail` has none. -/
def extractDetail : ErrorBody → String
  | .detail message => message
  | .invalid => ""
  | .text message => if isBlank message then "Agentd request failed." else message

def handleException : Throwable → ErrorResponse
  | .agentdUnavailable message => ⟨502, "AGENTD_UNAVAILABLE", message⟩
  | .restClientResponse status body => ⟨status, "AGENTD_ERROR", extractDetail body⟩
  | .methodArgumentNotValid message => ⟨400, "VALIDATION_ERROR", message⟩
  | .httpMessageNotReadable =>
    ⟨400, "VALIDATION_ERROR", "Request payload is malformed or missing required fields."⟩
  | .resourceAccess _ | .responseStatus _ =>
    ⟨500, "INTERNAL_ERROR", "An unexpected server error occurred."⟩

def answer : Except Throwable Dto → Answer
  | .ok dto => .ok dto
  | .error exc => .error (handleException exc)

end handlers

variable {W : Type}

/-- A request of the browser, with what becomes of the backend's own request. -/
structure Exchange where
  ask : Ask
  attempts : List Attempt
  trouble : String

section system
variable (lib : Libraries) (env : Environment W) (catalog : Except Failure (List ModelSpec))

/-- The HTTP client between the backend and the daemon. -/
def delivering (x : Exchange) : Handler http Throwable (Daemon W) where
  handle request d :=
    match send (handle env catalog request) x.attempts d with
    | (some response, d') => (.ok response, d')
    | (none, d') => (.error (.resourceAccess x.trouble), d')

def exchange (x : Exchange) (d : Daemon W) : Answer × Daemon W :=
  let out := exec (delivering env catalog x) (controller lib x.ask) d
  (answer out.result, out.state)

/-- An exchange as it happened. -/
structure Record (W : Type) where
  exchange : Exchange
  before : Daemon W
  answer : Answer
  after : Daemon W

/-- The exchanges of a browser, one after the other, and the daemon after them. -/
def session : List Exchange → Daemon W → List (Record W) × Daemon W
  | [], d => ([], d)
  | x :: rest, d =>
    let out := exchange lib env catalog x d
    let later := session rest out.2
    (⟨x, d, out.1, out.2⟩ :: later.1, later.2)

end system

section property
variable (lib : Libraries) (catalog : Except Failure (List ModelSpec))

/-- What the backend asks of the daemon. -/
inductive Forwards : Ask → Request → Prop
  | scan : Forwards .scan .scan
  | models : Forwards .models .models
  | model (modelId : String) : Forwards (.model modelId) .models
  | history (modelId : Option String) (limit : ℤ) :
    Forwards (.history modelId limit) (.history ⟨modelId, limit⟩)
  | run (modelId prompt : String) (h : lib.blank prompt = false) :
    Forwards (.run modelId (some ⟨some prompt⟩)) (.run modelId prompt)
  | tune (modelId : String) (request : Option TuneRequestDto) :
    Forwards (.tune modelId (.ok request)) (.tune modelId (request.any TuneRequestDto.dryRun))
  | status (modelId : String) : Forwards (.status modelId) (.autopilotStatus modelId)
  | disable (modelId : String) : Forwards (.disable modelId) (.autopilotDisable modelId)

/-- What the browser is shown of what the daemon tells. -/
def present : Ask → Body → Option Dto
  | .scan, .hardware hw => some (.hardwareProfile hw)
  | .models, .models items => some (.modelCompatibilities items)
  | .model modelId, .models items =>
    (hardwareModel lib.fold items modelId).toOption.map .modelCompatibility
  | .history _ _, .history runs => some (.runRecords runs)
  | .run _ _, .run result record => some (.runResult (runResultDto result record))
  | .tune _ _, .session session => some (.tuningSession session)
  | .status _, .status status => some (.tunedConfigStatus status)
  | .disable _, .locked _ => some .empty
  | _, _ => none

/-- What an answer tells of the storage, when the daemon may have got the request that often. -/
inductive Settled (ask : Ask) (most : ℕ) : Answer → InMemoryStorage → InMemoryStorage → Prop
  | done {request : Request} {n : ℕ} {s s₁ s' : InMemoryStorage} {body : Body} {dto : Dto}
      (forwards : Forwards lib ask request) (earlier : Repeated (Effect request) n s s₁)
      (hmost : n + 1 ≤ most) (told : Told catalog request body s₁ s')
      (shown : present lib ask body = some dto) : Settled ask most (.ok dto) s s'
  | refused {request : Request} {n : ℕ} {s s' : InMemoryStorage} {status : ℕ} {body : ErrorBody}
      (forwards : Forwards lib ask request) (earlier : Repeated (Effect request) n s s')
      (hmost : n + 1 ≤ most) (refuses : Refuses request (.error status body) s') :
    Settled ask most (.error ⟨status, "AGENTD_ERROR", extractDetail body⟩) s s'
  | failed {request : Request} {n : ℕ} {s s' : InMemoryStorage}
      (forwards : Forwards lib ask request) (repeated : Repeated (Effect request) n s s')
      (hmost : n ≤ most) :
    Settled ask most (.error ⟨500, "AGENTD_ERROR", "Internal Server Error"⟩) s s'
  | unavailable {request : Request} {n : ℕ} {s s' : InMemoryStorage} (message : String)
      (forwards : Forwards lib ask request) (repeated : Repeated (Effect request) n s s')
      (hmost : n ≤ most) :
    Settled ask most (.error ⟨502, "AGENTD_UNAVAILABLE",
      "Could not reach agentd — is it running? (" ++ message ++ ")"⟩) s s'
  | unknown {modelId : String} (s : InMemoryStorage) (h : ask = .model modelId) :
    Settled ask most
      (.error ⟨500, "INTERNAL_ERROR", "An unexpected server error occurred."⟩) s s
  | invalid (message : String) (s : InMemoryStorage) (h : ∀ request, ¬ Forwards lib ask request) :
    Settled ask most (.error ⟨400, "VALIDATION_ERROR", message⟩) s s

/-- The record of a run that the browser has been shown. -/
def acknowledged (r : Record W) : Option RunRecord :=
  match r.answer with
  | .ok (.runResult result) => some result.runRecord
  | _ => none

/-- Every answer is true, and every run that was shown has its own row in the end. -/
structure Truthful (records : List (Record W)) (final : Daemon W) : Prop where
  settled : ∀ r ∈ records, Settled lib catalog r.exchange.ask (reached r.exchange.attempts) r.answer
    r.before.store r.after.store
  kept : ∀ record ∈ records.filterMap acknowledged, record ∈ final.store.savedRuns
  distinct : (records.filterMap acknowledged).Pairwise fun a b => a.id ≠ b.id

end property

section exchange
variable {lib : Libraries} {env : Environment W} {catalog : Except Failure (List ModelSpec)}
  {x : Exchange} {d : Daemon W}

lemma told_change {request : Request} {body : Body} {s s' : InMemoryStorage}
    (h : Told catalog request body s s') : s' = s ∨ Effect request s s' := by
  cases h with
  | saved modelId prompt runtime result => exact .inr (.saved modelId prompt runtime result s)
  | adjusted session noted _ haccepted => exact .inr (.adjusted session noted s haccepted)
  | locked modelId _ hsome => exact .inr (.locked modelId s hsome)
  | _ => exact .inl rfl

lemma handled_change {request : Request} {reply : Option Response} {s s' : InMemoryStorage}
    (h : Handled catalog request reply s s') : s' = s ∨ Effect request s s' := by
  cases h with
  | succeeded htold => exact told_change htold
  | refused _ => exact .inl rfl
  | failed hchange => exact hchange
  | ended hchange => exact hchange

lemma handled_cases {request : Request} {response : Response} {s s' : InMemoryStorage}
    (h : Handled catalog request (some response) s s') :
    (∃ body, response = .ok body ∧ Told catalog request body s s') ∨
      (Refuses request response s' ∧ s' = s) ∨
      (response = internalServerError ∧ (s' = s ∨ Effect request s s')) := by
  cases h with
  | succeeded htold => exact .inl ⟨_, rfl, htold⟩
  | refused hrefuses => exact .inr (.inl ⟨hrefuses, rfl⟩)
  | failed hchange => exact .inr (.inr ⟨rfl, hchange⟩)

/-- What a call of the daemon brings back. -/
def Fetched (catalog : Except Failure (List ModelSpec)) {α : Type} (request : Request)
    (read : Body → Option α) (most : ℕ) (s s' : InMemoryStorage) : Except Throwable α → Prop
  | .ok dto => ∃ n s₁ body, Repeated (Effect request) n s s₁ ∧ n + 1 ≤ most ∧
      Told catalog request body s₁ s' ∧ read body = some dto
  | .error exc => ∃ n, Repeated (Effect request) n s s' ∧ n ≤ most ∧
      ((∃ message, exc = couldNotReach message) ∨
        exc = .restClientResponse 500 (.text "Internal Server Error") ∨
        ∃ status body, exc = .restClientResponse status body ∧ n + 1 ≤ most ∧
          Refuses request (.error status body) s')

lemma execute_fetched {α : Type} (request : Request) (read : Body → Option α) :
    Ensures (delivering env catalog x) (execute lib request read) d fun r _ d' =>
      Fetched catalog request read (reached x.attempts) d.store d'.store r := by
  have hsend : Delivered (handle env catalog request) Daemon.store (Effect request)
      (reached x.attempts) d (send (handle env catalog request) x.attempts d) :=
    send_delivered (fun d => handled_change (handle_handled env catalog request d)) x.attempts d
  apply ensures_attempt_bind
  simp only [delivering]
  cases hout : send (handle env catalog request) x.attempts d with
  | mk reply d' =>
    rw [hout] at hsend
    cases reply with
    | none =>
      obtain ⟨n, hn, hmost⟩ := hsend
      exact ensures_raise ⟨n, hn, hmost, .inl ⟨x.trouble, rfl⟩⟩
    | some response =>
      obtain ⟨n, d₁, hn, hmost, hlast⟩ := hsend
      have hhandled := handle_handled env catalog request d₁
      rw [hlast] at hhandled
      rcases handled_cases hhandled with ⟨body, rfl, htold⟩ | ⟨hrefuses, hkept⟩ | ⟨rfl, hchange⟩
      · have hafter : ∃ n, Repeated (Effect request) n d.store d'.store ∧
            n ≤ reached x.attempts := by
          rcases told_change htold with hsame | heffect
          · exact ⟨n, hsame ▸ hn, by omega⟩
          · exact ⟨n + 1, hn.snoc heffect, hmost⟩
        obtain ⟨m, hm, hle⟩ := hafter
        dsimp only
        split
        · rename_i dto _ hread
          exact ensures_pure ⟨n, d₁.store, body, hn, hmost, htold, hread⟩
        · exact ensures_raise ⟨m, hm, hle, .inl ⟨_, rfl⟩⟩
      · have hn' : Repeated (Effect request) n d.store d'.store := hkept ▸ hn
        cases response with
        | ok body => cases hrefuses
        | error status body =>
          exact ensures_raise ⟨n, hn', by omega, .inr (.inr ⟨status, body, rfl, hmost, hrefuses⟩)⟩
      · rcases hchange with hsame | heffect
        · exact ensures_raise ⟨n, hsame ▸ hn, by omega, .inr (.inl rfl)⟩
        · exact ensures_raise ⟨n + 1, hn.snoc heffect, hmost, .inr (.inl rfl)⟩

lemma answer_internal : answer (.error (.restClientResponse 500 (.text "Internal Server Error"))) =
    .error ⟨500, "AGENTD_ERROR", "Internal Server Error"⟩ := by
  have hdetail : extractDetail (.text "Internal Server Error") = "Internal Server Error" := by
    unfold extractDetail
    exact if_neg (by decide)
  exact congrArg (fun message => Answer.error ⟨500, "AGENTD_ERROR", message⟩) hdetail

/-- What an exception of a call of the daemon tells. -/
lemma raised_settled {request : Request} {α : Type} {read : Body → Option α} {most : ℕ}
    {s s' : InMemoryStorage} {exc : Throwable} (hforwards : Forwards lib x.ask request)
    (h : Fetched catalog request read most s s' (.error exc)) :
    Settled lib catalog x.ask most (answer (.error exc)) s s' := by
  obtain ⟨n, hn, hmost, hcase⟩ := h
  rcases hcase with ⟨message, rfl⟩ | rfl | ⟨status, body, rfl, hmost', hrefuses⟩
  · exact .unavailable message hforwards hn hmost
  · rw [answer_internal]
    exact .failed hforwards hn hmost
  · exact .refused hforwards hn hmost' hrefuses

/-- A request that the backend forwards, and whose reply it shows. -/
lemma forwarded_settled {α : Type} {lib' : Libraries} {request : Request}
    {read : Body → Option α} (wrap : α → Dto) (hforwards : Forwards lib x.ask request)
    (hshown : ∀ body dto s s', Told catalog request body s s' → read body = some dto →
      present lib x.ask body = some (wrap dto)) :
    Ensures (delivering env catalog x) (do return wrap (← execute lib' request read)) d
      fun r _ d' => Settled lib catalog x.ask (reached x.attempts) (answer r) d.store d'.store := by
  apply (execute_fetched request read).bind
  · intro dto t d' h
    obtain ⟨n, s₁, body, hn, hmost, htold, hread⟩ := h
    exact ensures_pure (.done hforwards hn hmost htold (hshown body dto _ _ htold hread))
  · intro exc t d' h
    exact raised_settled hforwards h

/-- One model of the list, or an exception that the general handler hides. -/
lemma model_settled {modelId : String} (hask : x.ask = .model modelId) :
    Ensures (delivering env catalog x) (controller lib (.model modelId)) d fun r _ d' =>
      Settled lib catalog x.ask (reached x.attempts) (answer r) d.store d'.store := by
  have hforwards : Forwards lib x.ask .models := hask ▸ .model modelId
  refine (execute_fetched .models _).bind ?_ fun exc _ _ h => raised_settled hforwards h
  intro items t d' h
  obtain ⟨n, s₁, body, hn, hmost, htold, hread⟩ := h
  cases htold with
  | models known hw _ hcatalog =>
    cases hread
    cases hfound : hardwareModel lib.fold (classifyAll known hw) modelId with
    | ok item =>
      refine ensures_pure (.done hforwards hn hmost (.models known hw _ hcatalog) ?_)
      rw [hask]
      simp only [present, hfound]
      rfl
    | error exc =>
      have hkept : d'.store = d.store := hn.unchanged fun a b heffect => by cases heffect
      refine ensures_raise ?_
      rw [hkept]
      exact .unknown d.store hask

lemma run_settled {modelId : String} {request : Option RunRequestDto}
    (hask : x.ask = .run modelId request) :
    Ensures (delivering env catalog x) (controller lib (.run modelId request)) d fun r _ d' =>
      Settled lib catalog x.ask (reached x.attempts) (answer r) d.store d'.store := by
  rcases request with _ | ⟨_ | prompt⟩
  · refine ensures_raise (.invalid _ d.store fun request h => ?_)
    rw [hask] at h
    cases h
  · refine ensures_raise (.invalid _ d.store fun request h => ?_)
    rw [hask] at h
    cases h
  · cases hblank : lib.blank prompt with
    | true =>
      have hrejected : controller lib (.run modelId (some ⟨some prompt⟩)) =
          Program.raise (.methodArgumentNotValid "prompt must not be blank") := by
        simp only [controller, validated, hblank, if_true]
        rfl
      rw [hrejected]
      refine ensures_raise (.invalid _ d.store fun request h => ?_)
      rw [hask] at h
      cases h with
      | run _ _ hnot => simp [hblank] at hnot
    | false =>
      have haccepted : controller lib (.run modelId (some ⟨some prompt⟩)) =
          (do return .runResult (← run lib modelId prompt)) := by
        simp only [controller, validated, hblank]
        rfl
      rw [haccepted]
      refine forwarded_settled .runResult (hask ▸ .run modelId prompt hblank) ?_
      intro body dto s s' htold hread
      rw [hask]
      cases htold with
      | saved _ _ runtime result _ =>
        cases hread
        rfl

/-- Every answer of the backend is settled. -/
theorem controller_settled (x : Exchange) (d : Daemon W) :
    Ensures (delivering env catalog x) (controller lib x.ask) d fun r _ d' =>
      Settled lib catalog x.ask (reached x.attempts) (answer r) d.store d'.store := by
  obtain ⟨ask, attempts, trouble⟩ := x
  cases ask with
  | scan =>
    refine forwarded_settled .hardwareProfile (x := ⟨.scan, attempts, trouble⟩) .scan ?_
    intro body dto s s' htold hread
    cases htold with
    | hardware hw _ =>
      cases hread
      rfl
  | models =>
    refine forwarded_settled .modelCompatibilities (x := ⟨.models, attempts, trouble⟩) .models ?_
    intro body dto s s' htold hread
    cases htold with
    | models known hw _ _ =>
      cases hread
      rfl
  | model modelId => exact model_settled rfl
  | history modelId limit =>
    refine forwarded_settled .runRecords (x := ⟨.history modelId limit, attempts, trouble⟩)
      (.history modelId limit) ?_
    intro body dto s s' htold hread
    cases htold with
    | history _ _ _ =>
      cases hread
      rfl
  | run modelId request => exact run_settled rfl
  | tune modelId request =>
    cases request with
    | error _ =>
      refine ensures_raise (.invalid _ d.store fun request h => ?_)
      cases h
    | ok request =>
      refine forwarded_settled .tuningSession (x := ⟨.tune modelId (.ok request), attempts, trouble⟩)
        (.tune modelId request) ?_
      intro body dto s s' htold hread
      generalize request.any TuneRequestDto.dryRun = dryRun at htold
      cases htold with
      | measured session _ _ _ =>
        cases hread
        rfl
      | adjusted session noted _ _ =>
        cases hread
        rfl
  | status modelId =>
    refine forwarded_settled .tunedConfigStatus (x := ⟨.status modelId, attempts, trouble⟩)
      (.status modelId) ?_
    intro body dto s s' htold hread
    cases htold with
    | status _ _ =>
      cases hread
      rfl
  | disable modelId =>
    refine forwarded_settled (fun _ => .empty) (x := ⟨.disable modelId, attempts, trouble⟩)
      (.disable modelId) ?_
    intro body dto s s' htold hread
    cases htold with
    | locked _ _ _ => rfl

lemma exchange_settled (lib : Libraries) (env : Environment W)
    (catalog : Except Failure (List ModelSpec)) (x : Exchange) (d : Daemon W) :
    Settled lib catalog x.ask (reached x.attempts) (exchange lib env catalog x d).1 d.store
      (exchange lib env catalog x d).2.store := controller_settled x d

end exchange

section log
variable {lib : Libraries} {catalog : Except Failure (List ModelSpec)} {ask : Ask} {most : ℕ}
  {s s' : InMemoryStorage}

lemma effect_runs {request : Request} (h : Effect request s s') : s.savedRuns <+: s'.savedRuns := by
  cases h with
  | saved modelId prompt runtime result _ => exact List.prefix_append _ _
  | adjusted session noted _ _ =>
    cases noted with
    | true => exact List.prefix_refl _
    | false => exact List.prefix_refl _
  | locked modelId _ _ => exact List.prefix_refl _

lemma repeated_runs {request : Request} {n : ℕ} (h : Repeated (Effect request) n s s') :
    s.savedRuns <+: s'.savedRuns := by
  induction h with
  | zero _ => exact List.prefix_refl _
  | succ heffect _ ih => exact (effect_runs heffect).trans ih

lemma told_runs {request : Request} {body : Body} (h : Told catalog request body s s') :
    s.savedRuns <+: s'.savedRuns := by
  rcases told_change h with rfl | heffect
  · exact List.prefix_refl _
  · exact effect_runs heffect

/-- The log of runs only grows. -/
lemma settled_runs {answer : Answer} (h : Settled lib catalog ask most answer s s') :
    s.savedRuns <+: s'.savedRuns := by
  cases h with
  | done _ earlier _ told _ => exact (repeated_runs earlier).trans (told_runs told)
  | refused _ earlier _ _ => exact repeated_runs earlier
  | failed _ repeated _ => exact repeated_runs repeated
  | unavailable _ _ repeated _ => exact repeated_runs repeated
  | unknown _ _ => exact List.prefix_refl _
  | invalid _ _ _ => exact List.prefix_refl _

/-- A run that is shown is in the log, with a number that the log had not reached before. -/
lemma settled_shown {result : RunResultDto}
    (h : Settled lib catalog ask most (.ok (.runResult result)) s s') :
    result.runRecord ∈ s'.savedRuns ∧ ∃ k, result.runRecord.id = some k ∧
      s.savedRuns.length < k ∧ k ≤ s'.savedRuns.length := by
  cases h with
  | @done request n _ s₁ _ body _ forwards earlier hmost told shown =>
    have hbody : ∃ answered record, body = .run answered record ∧
        result = runResultDto answered record := by
      cases body with
      | run answered record =>
        cases ask with
        | run modelId request =>
          cases shown
          exact ⟨answered, record, rfl, rfl⟩
        | _ => cases shown
      | models items =>
        cases ask with
        | model modelId =>
          unfold present at shown
          cases hfound : (hardwareModel lib.fold items modelId).toOption with
          | none => simp [hfound] at shown
          | some item => simp [hfound] at shown
        | _ => cases shown
      | _ => cases ask <;> cases shown
    obtain ⟨answered, record, rfl, rfl⟩ := hbody
    have hearlier := (repeated_runs earlier).length_le
    cases told with
    | saved modelId prompt runtime _ _ =>
      refine ⟨?_, s₁.savedRuns.length + 1, rfl, by omega, ?_⟩
      · simp [runResultDto, InMemoryStorage.saveRun]
      · simp [InMemoryStorage.saveRun]

/-- The records of a session between two states of the daemon: they are true, the log grows, and
the runs they show are numbered after those that were there. -/
structure Standing (lib : Libraries) (catalog : Except Failure (List ModelSpec)) (d : Daemon W)
    (records : List (Record W)) (d' : Daemon W) : Prop where
  truthful : Truthful lib catalog records d'
  grows : d.store.savedRuns <+: d'.store.savedRuns
  later : ∀ record ∈ records.filterMap acknowledged,
    ∃ k, record.id = some k ∧ d.store.savedRuns.length < k

lemma standing_nil (d : Daemon W) : Standing lib catalog d [] d where
  truthful := ⟨List.forall_mem_nil _, List.forall_mem_nil _, List.Pairwise.nil⟩
  grows := List.prefix_refl _
  later := List.forall_mem_nil _

section step
variable {r : Record W} {records : List (Record W)} {d' : Daemon W}
  (hfirst : Settled lib catalog r.exchange.ask (reached r.exchange.attempts) r.answer
    r.before.store r.after.store) (hrest : Standing lib catalog r.after records d')
include hfirst hrest

lemma later_before : ∀ record ∈ records.filterMap acknowledged,
    ∃ k, record.id = some k ∧ r.before.store.savedRuns.length < k := by
  intro record hrecord
  obtain ⟨k, hk, hlt⟩ := hrest.later record hrecord
  exact ⟨k, hk, (settled_runs hfirst).length_le.trans_lt hlt⟩

/-- An exchange that shows no run. -/
lemma standing_quiet (h : acknowledged r = none) :
    Standing lib catalog r.before (r :: records) d' := by
  have hshown : (r :: records).filterMap acknowledged = records.filterMap acknowledged :=
    List.filterMap_cons_none h
  refine ⟨⟨List.forall_mem_cons.mpr ⟨hfirst, hrest.truthful.settled⟩, ?_, ?_⟩,
    (settled_runs hfirst).trans hrest.grows, ?_⟩
  · rw [hshown]
    exact hrest.truthful.kept
  · rw [hshown]
    exact hrest.truthful.distinct
  · rw [hshown]
    exact later_before hfirst hrest

/-- The run that an exchange shows has the next number of the log. -/
lemma standing_shown {record : RunRecord} (h : acknowledged r = some record) :
    Standing lib catalog r.before (r :: records) d' := by
  have hshown : (r :: records).filterMap acknowledged = record :: records.filterMap acknowledged :=
    List.filterMap_cons_some h
  obtain ⟨result, hanswer, rfl⟩ : ∃ result, r.answer = .ok (.runResult result) ∧
      result.runRecord = record := by
    unfold acknowledged at h
    split at h
    · rename_i result hanswer
      exact ⟨result, hanswer, Option.some.inj h⟩
    · cases h
  have hlog := settled_shown (hanswer ▸ hfirst)
  obtain ⟨hmem, k, hk, hlt, hle⟩ := hlog
  refine ⟨⟨List.forall_mem_cons.mpr ⟨hfirst, hrest.truthful.settled⟩, ?_, ?_⟩,
    (settled_runs hfirst).trans hrest.grows, ?_⟩
  · rw [hshown]
    exact List.forall_mem_cons.mpr ⟨hrest.grows.subset hmem, hrest.truthful.kept⟩
  · rw [hshown]
    refine List.pairwise_cons.mpr ⟨?_, hrest.truthful.distinct⟩
    intro later hlater
    obtain ⟨k', hk', hlt'⟩ := hrest.later later hlater
    rw [hk, hk']
    intro heq
    cases heq
    omega
  · rw [hshown]
    exact List.forall_mem_cons.mpr ⟨⟨k, hk, hlt⟩, later_before hfirst hrest⟩

/-- The step lemma: one exchange before the others. -/
lemma standing_cons : Standing lib catalog r.before (r :: records) d' := by
  cases h : acknowledged r with
  | none => exact standing_quiet hfirst hrest h
  | some record => exact standing_shown hfirst hrest h

end step

/-- The run lemma: a whole session, from any state of the daemon. -/
lemma session_standing (env : Environment W) (exchanges : List Exchange) (d : Daemon W) :
    Standing lib catalog d (session lib env catalog exchanges d).1
      (session lib env catalog exchanges d).2 := by
  induction exchanges generalizing d with
  | nil => exact standing_nil d
  | cons x rest ih =>
    have hfirst := exchange_settled lib env catalog x d
    exact standing_cons (r := ⟨x, d, _, _⟩) hfirst (ih _)

end log

end LlmMax.Gateway
