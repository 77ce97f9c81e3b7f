import LlmMax.CandidateSet
import LlmMax.Commands
import LlmMax.EffectCouplings

/-! What the commands show is true of the stores, whatever becomes of the storage calls and of the
terminal, and every run that is told of is in the log of the store that is named. -/
namespace LlmMax.CommandReports
open Domain BenchMetrics AutotuneState Storage EffectProgram EffectBlocks EffectCouplings
open EffectEmbedding Services Failover SqlTable SqlStorage SqlFallback AutotuneEngine AutotuneSpec
open ModelLookup RunLog Config Agentd Commands
open Pull hiding Display

variable {W : Type}

section property
variable (collate : String → String)

/-- The store of that side carries the call out, with that reply, and holds that afterwards. -/
def Answers (side : Side) (op : StorageCall) (db : Database) (reply : op.Reply) (db' : Database) :
    Prop :=
  ∃ time, side.serve collate ⟨time, op⟩ db = (.ok reply, db')

/-- The store behind MySQL's troubles: it may have carried out a call whose reply is lost. -/
def Behind (op : StorageCall) (db db' : Database) : Prop :=
  db' = db ∨ ∃ reply, Answers collate .primary op db reply db'

/-- The store of that side has answered the call. -/
inductive Took (op : StorageCall) (s : Stores) : Backend → Side → op.Reply → Stores → Prop
  | primary (settings : MySqlConfig) {reply : op.Reply} {db' : Database}
    (h : Answers collate .primary op s.primary reply db') :
    Took op s (.fallback settings) .primary reply ⟨db', s.fallback, false⟩
  | fallback (settings : MySqlConfig) {reply : op.Reply} {server db' : Database}
    (hserver : Behind collate op s.primary server)
    (h : Answers collate .fallback op s.fallback reply db') :
    Took op s (.fallback settings) .fallback reply ⟨server, db', true⟩
  | sqlite {reply : op.Reply} {db' : Database}
    (h : Answers collate .fallback op s.fallback reply db') :
    Took op s .sqlite .fallback reply { s with fallback := db' }

/-- No store has answered the call. -/
inductive Failed (op : StorageCall) (s : Stores) : Backend → Stores → Prop
  | both (settings : MySqlConfig) {server : Database} (hserver : Behind collate op s.primary server) :
    Failed op s (.fallback settings) ⟨server, s.fallback, true⟩
  | sqlite : Failed op s .sqlite s

/-- A note is shown when SQLite answered in the place of MySQL. -/
def note (backend : Backend) (side : Side) (line : Line) : List Line :=
  match backend, side with
  | .fallback _, .fallback => [line]
  | _, _ => []

/-- The table of the session stars one row, that of the winning config. -/
def OneStar (session : TuningSession) : Prop :=
  ((benchmarkRows session).filter BenchmarkRow.starred).map BenchmarkRow.config =
    [session.winner.config]

/-- The config that a session comes to. -/
def tunedConfig (session : TuningSession) : TunedConfig :=
  { modelId := session.modelId, config := session.winner.config }

/-- What these lines leave on the screen, up to the first that the terminal refuses. -/
def written (display : Display) (shown : List Line) : List Line → List Line × Except Exn Unit
  | [] => (shown, .ok ())
  | line :: lines =>
    match display.line shown line with
    | some message => (shown, .error (.exception message))
    | none => written display (shown ++ [line]) lines

/-- What a command shows that prints these lines and then ends like that, and how it ends. -/
def output (display : Display) (lines : List Line) (last : Except Exn Exit) :
    List Line × Except Exn Exit :=
  ((written display [] lines).1, (written display [] lines).2.bind fun _ => last)

/-- The terminal takes all of these lines. -/
def Takes (display : Display) (lines : List Line) : Prop := (written display [] lines).2 = .ok ()

/-- The lock of the model has been carried out in the store of that side: the newest config that it
has of the model is locked now, if it has one. -/
def Locked (modelId : String) (side : Side) (s s' : Stores) : Prop :=
  (side.of s').tunedConfigs =
    lockNewestOf (side.collation collate) modelId (side.of s).tunedConfigs

/-- The config has been put down in the store of that side. -/
def Saved (config : TunedConfig) (side : Side) (s s' : Stores) : Prop :=
  ∃ time, (side.of s').tunedConfigs = (side.of s).tunedConfigs.insert time (tunedColumns config)

/-- What a command shows and how it ends, by what it has done to the stores. -/
inductive Reports (display : Display) (backend : Backend) (s : Stores) :
    Asked → List Line × Except Exn Exit → Stores → Prop
  | broken {asked : Asked} (exc : Exn) (h : asked.spins.isSome) :
    Reports display backend s asked ([], .error exc) s
  | notRunning {asked : Asked} (h : asked.spins.isSome) :
    Reports display backend s asked (output display [runtimeDown] (.ok (.systemExit 1))) s
  | unread {asked : Asked} {op : StorageCall} {s' : Stores} (exc : Exn) (h : asked.reads = some op)
      (hfailed : Failed collate op s backend s') : Reports display backend s asked ([], .error exc) s'
  | ran {modelId prompt runtime : String} {result : RunResult} {side : Side} {record : RunRecord}
      {s' : Stores}
      (h : Took collate (.saveRun (recordOf modelId prompt runtime result)) s backend side record s') :
    Reports display backend s (.run modelId prompt)
      (output display (runLines result ++ note backend side savedLocally) (.ok .finished)) s'
  | runUnsaved {modelId prompt runtime : String} {result : RunResult} {s' : Stores} (exc : Exn)
      (h : Failed collate (.saveRun (recordOf modelId prompt runtime result)) s backend s') :
    Reports display backend s (.run modelId prompt) ([], .error exc) s'
  | history {modelId : Option String} {limit : ℤ} {side : Side} {runs : List RunRecord} {s' : Stores}
      (h : Took collate (.listRuns modelId limit) s backend side runs s') :
    Reports display backend s (.history modelId limit)
      (output display (note backend side localHistory ++ [historyLine runs]) (.ok .finished)) s'
  | measured {session : TuningSession} {dryRun : Bool} (hstar : OneStar session)
      (h : ¬ (session.outcome = .acceptedNew ∧ dryRun = false)) :
    Reports display backend s (.tune session.modelId dryRun)
      (output display (sessionLines session session.modelId ++
        [if session.outcome = .acceptedNew then dryRunText else noChange]) (.ok .finished)) s
  | unshown {session : TuningSession} (hstar : OneStar session)
      (hrefused : ¬ Takes display (sessionLines session session.modelId))
      (haccepted : session.outcome = .acceptedNew) :
    Reports display backend s (.tune session.modelId false)
      (output display (sessionLines session session.modelId) (.ok .finished)) s
  | tuned {session : TuningSession} {side : Side} {config : TunedConfig} {s₁ s' : Stores}
      (hstar : OneStar session) (hshown : Takes display (sessionLines session session.modelId))
      (haccepted : session.outcome = .acceptedNew)
      (h : Took collate (.saveTunedConfig (tunedConfig session)) s backend side config s₁)
      (hsaved : Saved (tunedConfig session) side s s₁)
      (hnoted : (∃ side' event,
          Took collate (.saveAutopilotEvent (adjustEvent session)) s₁ backend side' event s') ∨
        Failed collate (.saveAutopilotEvent (adjustEvent session)) s₁ backend s') :
    Reports display backend s (.tune session.modelId false)
      (output display (sessionLines session session.modelId ++
        [saved session.modelId session.winner.config]) (.ok .finished)) s'
  | untuned {session : TuningSession} {s' : Stores} (exc : Exn) (hstar : OneStar session)
      (hshown : Takes display (sessionLines session session.modelId))
      (haccepted : session.outcome = .acceptedNew)
      (h : Failed collate (.saveTunedConfig (tunedConfig session)) s backend s') :
    Reports display backend s (.tune session.modelId false)
      (sessionLines session session.modelId, .error exc) s'
  | noTunedConfig {modelId : String} {side : Side} {s' : Stores}
      (h : Took collate (.getTunedConfig modelId) s backend side none s') :
    Reports display backend s (.disable modelId)
      (output display [noTunedConfig modelId] (.ok .finished)) s'
  | locked {modelId : String} {config : TunedConfig} {side side' : Side} {s₁ s' : Stores}
      (h : Took collate (.getTunedConfig modelId) s backend side (some config) s₁)
      (hlock : Took collate (.lockConfig modelId) s₁ backend side' () s')
      (hlocked : Locked collate modelId side' s s') :
    Reports display backend s (.disable modelId)
      (output display [locked modelId] (.ok .finished)) s'
  | unlocked {modelId : String} {config : TunedConfig} {side : Side} {s₁ s' : Stores} (exc : Exn)
      (h : Took collate (.getTunedConfig modelId) s backend side (some config) s₁)
      (hlock : Failed collate (.lockConfig modelId) s₁ backend s') :
    Reports display backend s (.disable modelId) ([], .error exc) s'
  | noSavedConfig {modelId : String} {side : Side} {s' : Stores}
      (h : Took collate (.getTunedConfig modelId) s backend side none s') :
    Reports display backend s (.status modelId)
      (output display [noSavedConfig modelId] (.ok .finished)) s'
  | statusUnshown {modelId : String} {config : TunedConfig} {side : Side} {s' : Stores}
      (h : Took collate (.getTunedConfig modelId) s backend side (some config) s')
      (hrefused : ¬ Takes display (configLines config)) :
    Reports display backend s (.status modelId)
      (output display (configLines config) (.ok .finished)) s'
  | status {modelId : String} {config : TunedConfig} {side side' : Side}
      {events : List AutopilotEvent} {s₁ s' : Stores}
      (h : Took collate (.getTunedConfig modelId) s backend side (some config) s₁)
      (hshown : Takes display (configLines config))
      (hevents : Took collate (.listAutopilotEvents modelId 10) s₁ backend side' events s') :
    Reports display backend s (.status modelId)
      (output display (configLines config ++ [eventsLine events]) (.ok .finished)) s'
  | statusUnread {modelId : String} {config : TunedConfig} {side : Side} {s₁ s' : Stores}
      (exc : Exn) (h : Took collate (.getTunedConfig modelId) s backend side (some config) s₁)
      (hshown : Takes display (configLines config))
      (hevents : Failed collate (.listAutopilotEvents modelId 10) s₁ backend s') :
    Reports display backend s (.status modelId) (configLines config, .error exc) s'

/-- What a command tells of a run. -/
structure Figures where
  modelId : String
  prompt : String
  tokensGenerated : ℤ
  totalDurationS : ℚ
  tokensPerSec : Option ℚ
  deriving DecidableEq

def figures (r : RunRecord) : Figures :=
  ⟨r.modelId, r.prompt, r.tokensGenerated, r.totalDurationS, truthy r.tokensPerSec⟩

/-- A run that a store has put down: the columns are what the store makes of the record. -/
structure LoggedRun where
  side : Side
  record : RunRecord
  columns : RunColumns
  stored : side.stored record = some columns

/-- The run that a command has told of to its end, and the store that it has named. -/
def told (server : Bool) : Asked → List Line × Except Exn Exit → List (Side × Figures)
  | .run modelId prompt, (.text _ :: .timing tokens duration rate :: notes, .ok _) =>
    [(if server && notes.isEmpty then .primary else .fallback,
      ⟨modelId, prompt, tokens, duration, rate⟩)]
  | _, _ => []

section executions
variable {W : Type}

def toldBy (r : Execution W) : List (Side × Figures) :=
  told (storageBackend r.invocation.environ = "mysql") r.invocation.asked (r.shown, r.result)

/-- The run that a command has logged: the one that it has told of, or one whose output the
terminal has refused. -/
inductive Logs (r : Execution W) : List LoggedRun → Prop
  | told {runs : List LoggedRun}
    (h : runs.map (fun run => (run.side, figures run.record)) = toldBy r) : Logs r runs
  | refused {line : Line} {message : String} (run : LoggedRun)
    (hasked : r.invocation.asked = .run run.record.modelId run.record.prompt)
    (hrefused : r.invocation.display.line r.shown line = some message)
    (hresult : r.result = .error (.exception message)) : Logs r [run]

/-- The store could not be set up and nothing was done, or the output is true of the stores. -/
inductive Honest (r : Execution W) : Prop
  | unopened (exc : Exn) (hopened : opened r.invocation = .error exc)
    (shown : r.shown = []) (result : r.result = .error exc) (after : r.after = r.before)
  | reported (backend : Backend) (hopened : opened r.invocation = .ok backend)
    (reports : Reports collate r.invocation.display backend
      { r.before with lastUsedFallback := false } r.invocation.asked (r.shown, r.result) r.after)

/-- A command that needs the runtime and does not find it changes no store, and says so if nothing
else has stopped it before. -/
structure NothingDone (catalog : Except Failure (List ModelSpec)) (text : Message)
    (r : Execution W) : Prop where
  unchanged : ∀ side : Side, side.of r.after = side.of r.before
  told : catalog.isOk → (opened r.invocation).isOk → r.invocation.display.spinner text = none →
    (r.shown, r.result) = output r.invocation.display [runtimeDown] (.ok (.systemExit 1))

end executions

def columnsOf (side : Side) (runs : List LoggedRun) : List RunColumns :=
  (runs.filter fun run => run.side = side).map LoggedRun.columns

def logOf (db : Database) : List RunColumns := db.runRecords.rows.map Row.columns

/-- The logs of runs grow by these runs, each in its store: that of SQLite by nothing else, that
of MySQL also by runs whose reply was lost. -/
structure Logged (runs : List LoggedRun) (s s' : Stores) : Prop where
  sqlite : logOf s'.fallback = logOf s.fallback ++ columnsOf .fallback runs
  mysql : ∃ rows, logOf s'.primary = logOf s.primary ++ rows ∧ (columnsOf .primary runs).Sublist rows

end property

section calls
variable {collate : String → String} {env : Environment W} {backend : Backend} {h : Host W}

lemma faulty_cases (collate : String → String) (fault : Option Fault) (c : TimedCall) (db : Database) :
    (∃ reply db', faulty collate fault .primary c db = (.ok reply, db') ∧
        Answers collate .primary c.op db reply db') ∨
      ∃ message db', faulty collate fault .primary c db = (.error (Failure.ofMessage message), db') ∧
        Behind collate c.op db db' := by
  have hcomes := serve_comes collate .primary c db
  generalize hserve : Side.primary.serve collate c db = out at hcomes
  cases fault with
  | none =>
    cases hcomes with
    | served htaken reply => exact .inl ⟨reply, _, hserve, c.time, hserve⟩
    | refused hrefused message => exact .inr ⟨message, db, hserve, .inl rfl⟩
  | some fault =>
    cases fault with
    | refused message => exact .inr ⟨message, db, rfl, .inl rfl⟩
    | replyLost message =>
      refine .inr ⟨message, out.2, by simp [faulty, hserve], ?_⟩
      cases hcomes with
      | served htaken reply => exact .inr ⟨reply, c.time, hserve⟩
      | refused hrefused message => exact .inl rfl

lemma refusing_cases (collate : String → String) (refusal : Option String) (c : TimedCall)
    (db : Database) :
    (∃ reply db', faulty collate (refusal.map .refused) .fallback c db = (.ok reply, db') ∧
        Answers collate .fallback c.op db reply db') ∨
      ∃ message, faulty collate (refusal.map .refused) .fallback c db =
        (.error (Failure.ofMessage message), db) := by
  cases refusal with
  | none =>
    have hcomes := serve_comes collate .fallback c db
    generalize hserve : Side.fallback.serve collate c db = out at hcomes
    cases hcomes with
    | served htaken reply => exact .inl ⟨reply, _, hserve, c.time, hserve⟩
    | refused hrefused message => exact .inr ⟨message, hserve⟩
  | some message => exact .inr ⟨message, rfl⟩

/-- A storage call is answered by one of the stores, or raises. -/
lemma storageCall_cases (collate : String → String) (backend : Backend) (trouble : Trouble)
    (op : StorageCall) (s : Stores) :
    (∃ side reply, (storageCall collate backend trouble op s).1 = .ok reply ∧
      Took collate op s backend side reply (storageCall collate backend trouble op s).2) ∨
    (∃ message, (storageCall collate backend trouble op s).1 = .error (Failure.ofMessage message)) ∧
      Failed collate op s backend (storageCall collate backend trouble op s).2 := by
  have hlocal := refusing_cases collate trouble.fallback ⟨trouble.fallbackTime, op⟩ s.fallback
  unfold storageCall
  cases backend with
  | sqlite =>
    dsimp only
    rcases hlocal with ⟨reply, db', hlocal, hanswers⟩ | ⟨message, hlocal⟩
    · rw [hlocal]
      exact .inl ⟨.fallback, reply, rfl, .sqlite hanswers⟩
    · rw [hlocal]
      exact .inr ⟨⟨message, rfl⟩, .sqlite⟩
  | fallback settings =>
    dsimp only [Failover.call]
    rcases faulty_cases collate trouble.primary ⟨trouble.primaryTime, op⟩ s.primary with
      ⟨reply, db', hserver, hanswers⟩ | ⟨_, server, hserver, hbehind⟩
    · rw [hserver]
      exact .inl ⟨.primary, reply, rfl, .primary settings hanswers⟩
    · rw [hserver]
      rcases hlocal with ⟨reply, db', hlocal, hanswers⟩ | ⟨message, hlocal⟩
      · simp only [hlocal]
        exact .inl ⟨.fallback, reply, rfl, .fallback settings hbehind hanswers⟩
      · simp only [hlocal]
        exact .inr ⟨⟨message, rfl⟩, .both settings hbehind⟩

lemma hosted_offStore (c : Call) (h : Host W) (hc : c.OffStore) :
    ((hosted collate env backend).handle c h).2.stores = h.stores := by
  cases c with
  | storage op => exact absurd rfl (hc op)
  | _ => rfl

lemma offStore_ensures {α : Type} {p : Engine α} (hp : Only Call.OffStore p) :
    Ensures (hosted collate env backend) p h fun _ _ h' => h'.stores = h.stores :=
  (hp.frame Host.stores hosted_offStore).2

lemma hosted_storage (collate : String → String) (env : Environment W) (backend : Backend)
    (op : StorageCall) (h : Host W) :
    let out := (hosted collate env backend).handle (.storage op) h
    (∃ side reply, out.1 = .ok reply ∧ Took collate op h.stores backend side reply out.2.stores) ∨
      (∃ message, out.1 = .error (.exception message)) ∧
        Failed collate op h.stores backend out.2.stores := by
  rcases storageCall_cases collate backend (h.troubles.head?.getD {}) op h.stores with
    ⟨side, reply, hreply, htook⟩ | ⟨⟨message, hraised⟩, hfailed⟩
  · refine .inl ⟨side, reply, ?_, htook⟩
    simp only [hosted, hreply]
    rfl
  · refine .inr ⟨⟨message, ?_⟩, hfailed⟩
    simp only [hosted, hraised]
    rfl

lemma storage_ensures (op : StorageCall) :
    Ensures (hosted collate env backend) (Program.perform (I := services) (.storage op)) h
      fun r _ h' =>
        (∃ side reply, r = .ok reply ∧ Took collate op h.stores backend side reply h'.stores) ∨
        (∃ message, r = .error (.exception message)) ∧ Failed collate op h.stores backend h'.stores :=
  ensures_perform (hosted_storage collate env backend op h)

end calls

section terminal
variable {collate : String → String} {env : Environment W} {backend : Backend} {display : Display}
  {s : Console W}

lemma written_append (shown lines more : List Line) :
    written display shown (lines ++ more) =
      match written display shown lines with
      | (shown', .ok _) => written display shown' more
      | (shown', .error exc) => (shown', .error exc) := by
  induction lines generalizing shown with
  | nil => rfl
  | cons line lines ih =>
    simp only [List.cons_append, written]
    cases display.line shown line with
    | none => exact ih _
    | some message => rfl

/-- A terminal that takes all the lines shows all of them. -/
lemma written_ok {shown lines : List Line} (h : (written display shown lines).2 = .ok ()) :
    (written display shown lines).1 = shown ++ lines := by
  induction lines generalizing shown with
  | nil => exact (List.append_nil _).symm
  | cons line lines ih =>
    simp only [written] at h ⊢
    cases hline : display.line shown line with
    | none =>
      rw [hline] at h
      dsimp only at h ⊢
      rw [ih h, List.append_assoc, List.singleton_append]
    | some message =>
      rw [hline] at h
      cases h

/-- A terminal that does not has raised at one of them. -/
lemma written_error {shown lines : List Line} {exc : Exn}
    (h : (written display shown lines).2 = .error exc) : ∃ line message,
      display.line (written display shown lines).1 line = some message ∧
        exc = .exception message := by
  induction lines generalizing shown with
  | nil => cases h
  | cons line lines ih =>
    simp only [written] at h ⊢
    cases hline : display.line shown line with
    | none =>
      rw [hline] at h
      exact ih h
    | some message =>
      rw [hline] at h
      exact ⟨line, message, hline, (Except.error.inj h).symm⟩

lemma output_taken {lines : List Line} (h : Takes display lines) (last : Except Exn Exit) :
    output display lines last = (lines, last) := by
  unfold output
  rw [written_ok h, h]
  rfl

/-- A part of a command that prints these lines and then ends like that, and does nothing else. -/
def Tells {α : Type} (collate : String → String) (env : Environment W) (backend : Backend)
    (display : Display) (s : Console W) (lines : List Line) (last : Except Exn α)
    (p : Command α) : Prop :=
  Ensures (console collate env backend display) p s fun r _ s' =>
    r = ((written display s.shown lines).2.bind fun _ => last) ∧
      s' = { s with shown := (written display s.shown lines).1 }

section tells
variable {α β : Type} {lines more : List Line}

lemma tells_return (a : α) : Tells collate env backend display s [] (.ok a) (return a) :=
  ensures_pure ⟨rfl, rfl⟩

lemma tells_print (line : Line) : Tells collate env backend display s [line] (.ok ()) (print line) := by
  apply ensures_perform (I := terminal)
  simp only [console, written]
  cases display.line s.shown line with
  | none => exact ⟨rfl, rfl⟩
  | some message => exact ⟨rfl, rfl⟩

lemma Tells.bind {a : α} {last : Except Exn β} {p : Command α} {f : α → Command β}
    (hp : Tells collate env backend display s lines (.ok a) p)
    (hf : ∀ s' : Console W, s'.host = s.host → Tells collate env backend display s' more last (f a)) :
    Tells collate env backend display s (lines ++ more) last (p >>= f) := by
  unfold Tells at hp ⊢
  rw [written_append]
  generalize written display s.shown lines = out at hp ⊢
  obtain ⟨shown, raised⟩ := out
  apply hp.bind
  · rintro b t s' ⟨hb, rfl⟩
    cases raised with
    | ok _ =>
      cases hb
      exact hf _ rfl
    | error exc => cases hb
  · rintro exc t s' ⟨hexc, rfl⟩
    cases raised with
    | ok _ => cases hexc
    | error exc' =>
      cases hexc
      exact ⟨rfl, rfl⟩

/-- The last line of a command. -/
lemma tells_last (line : Line) :
    Tells collate env backend display s [line] (.ok Exit.finished) (do
      print line
      return .finished) :=
  (tells_print line).bind fun _ _ => tells_return _

lemma tells_printAll (lines : List Line) :
    Tells collate env backend display s lines (.ok ()) (printAll lines) := by
  induction lines generalizing s with
  | nil => exact tells_return ()
  | cons line lines ih => exact (tells_print line).bind fun _ _ => ih

/-- The note is shown if the flag says so. -/
lemma tells_printNote (line : Line) :
    Tells collate env backend display s (if s.host.stores.lastUsedFallback then [line] else []) (.ok ())
      (printNote line) := by
  have hflag : Ensures (console collate env backend display) lastUsedFallback s fun r _ s' =>
      r = .ok s.host.stores.lastUsedFallback ∧ s' = s := ensures_perform (I := terminal) ⟨rfl, rfl⟩
  apply hflag.bind_returned
  rintro t s' rfl
  cases s'.host.stores.lastUsedFallback with
  | true => exact tells_print line
  | false => exact tells_return ()

/-- A command that prints these lines after all else shows what can be shown of them. -/
lemma Tells.reports {stores : Stores} {asked : Asked} {last : Except Exn Exit} {p : Command Exit}
    (hp : Tells collate env backend display s lines last p) (hshown : s.shown = [])
    (h : Reports collate display backend stores asked (output display lines last) s.host.stores) :
    Ensures (console collate env backend display) p s fun r _ s' =>
      Reports collate display backend stores asked (s'.shown, r) s'.host.stores := by
  refine hp.mono ?_
  rintro r t s' ⟨rfl, rfl⟩
  rw [hshown]
  exact h

end tells

lemma ask_makes (collate : String → String) (env : Environment W) (backend : Backend)
    (display : Display) :
    Makes (hosted collate env backend) (console collate env backend display) Console.host
      Console.shown ask :=
  fun _ _ => ensures_attempt (I := terminal) ⟨rfl, rfl, rfl⟩

lemma engine_ensures {α : Type} {p : Engine α} {Q : Except Exn α → Host W → Prop}
    (hp : Ensures (hosted collate env backend) p s.host fun r _ h => Q r h) :
    Ensures (console collate env backend display) (engine p) s fun r _ s' =>
      Q r s'.host ∧ s'.shown = s.shown :=
  Ensures.within (ask_makes collate env backend display) hp

lemma spin_ensures (text : Message) :
    Ensures (console collate env backend display) (spin text) s fun r _ s' =>
      (r = .ok () ∨ ∃ message, display.spinner text = some message ∧
        r = .error (.exception message)) ∧ s' = s := by
  apply ensures_perform (I := terminal)
  simp only [console]
  cases display.spinner text with
  | none => exact ⟨.inl rfl, rfl⟩
  | some message => exact ⟨.inr ⟨message, rfl, rfl⟩, rfl⟩

/-- What a spinner shows while a block of the engine runs, and what the block leaves. -/
lemma tried_ensures {α : Type} {text : Message} {block : Engine α}
    {R : Except Exn α → Stores → Prop}
    (hblock : Ensures (hosted collate env backend) block s.host fun r _ h => R r h.stores)
    (hspin : ∀ message, display.spinner text = some message →
      R (.error (.exception message)) s.host.stores) :
    Ensures (console collate env backend display)
      (do
        spin text
        return some (← engine block)) s fun (r : Except Exn (Option α)) _ s' =>
        (∃ a, r = .ok (some a) ∧ R (.ok a) s'.host.stores ∧ s'.shown = s.shown) ∨
        ∃ exc, r = .error exc ∧ R (.error exc) s'.host.stores ∧ s'.shown = s.shown := by
  apply (spin_ensures text).bind
  · rintro _ t s' ⟨-, rfl⟩
    refine (engine_ensures hblock).bind ?_ fun exc _ _ h => .inr ⟨exc, rfl, h⟩
    intro a t' s'' h
    exact ensures_pure (.inl ⟨a, rfl, h⟩)
  · rintro exc t s' ⟨hexc, rfl⟩
    rcases hexc with hok | ⟨message, hspinner, hexc⟩
    · cases hok
    · cases hexc
      exact .inr ⟨_, rfl, hspin message hspinner, rfl⟩

/-- The line that says that the runtime is down, unless the terminal refuses it. -/
lemma printDown_ensures {α : Type} :
    Ensures (console collate env backend display)
      (print runtimeDown >>= fun _ => (return none : Command (Option α))) s fun r _ s' =>
        r = (written display s.shown [runtimeDown]).2.bind (fun _ => .ok none) ∧
        s' = { s with shown := (written display s.shown [runtimeDown]).1 } := by
  have htells : Tells collate env backend display s ([runtimeDown] ++ []) (.ok none)
      (print runtimeDown >>= fun _ => (return none : Command (Option α))) :=
    (tells_print runtimeDown).bind fun _ _ => tells_return none
  exact htells

/-- The block has run to its end and the command goes on, or a missing runtime is told, or another
exception ends it. -/
lemma orExit_ensures {α : Type} {text : Message} {block : Engine α} {k : Option α → Command Exit}
    {R : Except Exn α → Stores → Prop} {Q : Except Exn Exit → Console W → Prop}
    (hnone : k none = pure (.systemExit 1))
    (hblock : Ensures (hosted collate env backend) block s.host fun r _ h => R r h.stores)
    (hspin : ∀ message, display.spinner text = some message →
      R (.error (.exception message)) s.host.stores)
    (hreturned : ∀ a s', R (.ok a) s'.host.stores → s'.shown = s.shown →
      Ensures (console collate env backend display) (k (some a)) s' fun r _ s'' => Q r s'')
    (hdown : ∀ message (s' : Console W), R (.error (.runtimeUnavailable message)) s'.host.stores →
      s'.shown = s.shown →
      Q ((written display s'.shown [runtimeDown]).2.bind fun _ => .ok (.systemExit 1))
        { s' with shown := (written display s'.shown [runtimeDown]).1 })
    (hraised : ∀ exc (s' : Console W), isRuntimeUnavailable exc = false →
      R (.error exc) s'.host.stores → s'.shown = s.shown → Q (.error exc) s') :
    Ensures (console collate env backend display) (orExit text block >>= k) s fun r _ s' => Q r s' := by
  let R' : Except Exn (Option α) → Console W → Prop
    | .ok found, s' =>
      Ensures (console collate env backend display) (k found) s' fun r _ s'' => Q r s''
    | .error exc, s' => Q (.error exc) s'
  have hcaught : Ensures (console collate env backend display) (orExit text block) s
      fun r _ s' => R' r s' := by
    refine ensures_catching (tried_ensures hblock hspin) ?_ ?_ ?_
    · intro found t s' hpost
      rcases hpost with ⟨a, ha, hR, hshown⟩ | ⟨exc, hexc, -⟩
      · cases ha
        exact hreturned a s' hR hshown
      · cases hexc
    · intro exc t s' hpost hunavailable
      rcases hpost with ⟨a, ha, -⟩ | ⟨exc, hexc, hR, hshown⟩
      · cases ha
      · cases hexc
        cases exc with
        | runtimeUnavailable message =>
          have hQ := hdown message s' hR hshown
          refine printDown_ensures.mono ?_
          rintro r t' s'' ⟨rfl, rfl⟩
          generalize written display s'.shown [runtimeDown] = out at hQ ⊢
          obtain ⟨shown, raised⟩ := out
          cases raised with
          | ok _ =>
            change Ensures (console collate env backend display) (k none) _ _
            rw [hnone]
            exact ensures_pure hQ
          | error exc => exact hQ
        | exception message => cases hunavailable
        | interrupt => cases hunavailable
    · intro exc t s' hpost hother
      rcases hpost with ⟨a, ha, -⟩ | ⟨exc, hexc, hR, hshown⟩
      · cases ha
      · cases hexc
        exact hraised exc s' hother hR hshown
  exact hcaught.bind (fun _ _ _ h => h) fun _ _ _ h => h

end terminal

section engine
variable {collate : String → String} {env : Environment W} {backend : Backend} {h : Host W}
  {modelId prompt : String}

/-- What running a prompt may do to the stores. -/
def Ran (collate : String → String) (modelId prompt : String) (backend : Backend) (s : Stores) :
    Except Exn (RunResult × RunRecord) → Stores → Prop
  | .ok (result, _), s' => ∃ runtime side record,
      Took collate (.saveRun (recordOf modelId prompt runtime result)) s backend side record s'
  | .error exc, s' => s' = s ∨ (∃ message, exc = .exception message) ∧
      ∃ runtime result,
        Failed collate (.saveRun (recordOf modelId prompt runtime result)) s backend s'

lemma launch_ensures (modelSpec : Option ModelSpec) :
    Ensures (hosted collate env backend) (LauncherService.run modelId prompt modelSpec) h fun r _ h' =>
      Ran collate modelId prompt backend h.stores r h'.stores := by
  refine (offStore_ensures requireRuntime_offStore).bind ?_ fun _ _ _ h => .inl h
  intro _ t₁ d₁ h₁
  refine (offStore_ensures (runOptions_offStore modelSpec)).bind ?_ fun _ _ _ h => .inl (h.trans h₁)
  intro options t₂ d₂ h₂
  have hrun : Only Call.OffStore (adapterRun modelId prompt options) :=
    only_perform (I := services) fun _ h => by cases h
  refine (offStore_ensures hrun).bind ?_ fun _ _ _ h => .inl (h.trans (h₂.trans h₁))
  intro result t₃ d₃ h₃
  have hname : Only Call.OffStore adapterName := only_perform (I := services) fun _ h => by cases h
  refine (offStore_ensures hname).bind ?_ fun _ _ _ h => .inl (h.trans (h₃.trans (h₂.trans h₁)))
  intro runtime t₄ d₄ h₄
  have hstores : d₄.stores = h.stores := h₄.trans (h₃.trans (h₂.trans h₁))
  apply (storage_ensures (.saveRun (recordOf modelId prompt runtime result))).bind
  · intro record t d' hsave
    rw [hstores] at hsave
    rcases hsave with ⟨side, saved, -, htook⟩ | ⟨⟨message, hraised⟩, -⟩
    · exact ensures_pure ⟨runtime, side, saved, htook⟩
    · cases hraised
  · intro exc t d' hsave
    rw [hstores] at hsave
    rcases hsave with ⟨side, saved, hreply, -⟩ | ⟨⟨message, hraised⟩, hfailed⟩
    · cases hreply
    · cases hraised
      exact .inr ⟨⟨message, rfl⟩, runtime, result, hfailed⟩

lemma starred_configs (winner : Config) (results : List TuningCandidateResult) :
    ((results.map (benchmarkRow winner)).filter BenchmarkRow.starred).map BenchmarkRow.config =
      (results.map TuningCandidateResult.config).filter fun config => config = winner := by
  simp only [List.filter_map, List.map_map]
  rfl

/-- The table has one row for each config, and the winner is among them. -/
lemma oneStar_conclude {modelSpec : Option ModelSpec} {scanned : List HardwareProfile}
    {baseline : TuningCandidateResult} {candidates : List TuningCandidateResult}
    (htuned : Tuned modelSpec none scanned baseline candidates) :
    OneStar (conclude modelId baseline candidates) := by
  have hascending := CandidateSet.generateCandidates_ascending htuned.configs
  have hnodup : (candidates.map TuningCandidateResult.config).Nodup :=
    hascending.imp fun hlt heq => absurd hlt (by rw [heq]; exact lt_irrefl _)
  have hwinner := conclude_winner_mem modelId baseline candidates
  unfold OneStar benchmarkRows
  rw [conclude_baseline, conclude_candidates, starred_configs, List.map_cons]
  generalize (conclude modelId baseline candidates).winner = winner at hwinner ⊢
  generalize hothers : candidates.filter (fun c => c.config ≠ baseline.config) = others
  have hothers_nodup : (baseline.config :: others.map TuningCandidateResult.config).Nodup := by
    refine List.nodup_cons.mpr ⟨?_, ?_⟩
    · intro hmem
      obtain ⟨c, hc, hsame⟩ := List.mem_map.mp hmem
      rw [← hothers, List.mem_filter] at hc
      simp [hsame] at hc
    · rw [← hothers]
      exact hnodup.sublist (List.filter_sublist.map _)
  have hmem : winner.config ∈ baseline.config :: others.map TuningCandidateResult.config := by
    by_cases hsame : winner.config = baseline.config
    · rw [hsame]
      exact List.mem_cons_self
    · rcases List.mem_cons.mp hwinner with rfl | hcandidate
      · exact absurd rfl hsame
      · rw [← hothers]
        have hkept : winner ∈ candidates.filter fun c => c.config ≠ baseline.config :=
          List.mem_filter.mpr ⟨hcandidate, decide_eq_true hsame⟩
        exact List.mem_cons_of_mem _ (List.mem_map_of_mem hkept)
  rw [List.filter_eq, List.count_eq_one_of_mem hothers_nodup hmem]
  rfl

/-- The same call, off the storage, with the same reply. -/
def sameReplies : Coupling services Exn where
  pair c c' := c = c' ∧ c.OffStore
  replies _ _ r r' := HEq r r'

/-- The same world, with an empty store. -/
def OverHost (h : Host W) (t : System W) : Prop := t = ⟨h.world, {}⟩

/-- A pass over the hosted services gives the session that it gives over any store. -/
lemma tuneOnce_same (modelSpec : Option ModelSpec) :
    (exec (hosted collate env backend) (tuneOnce modelId modelSpec none) h).result =
      (exec (serving env) (tuneOnce modelId modelSpec none) ⟨h.world, {}⟩).result := by
  have hoff : Only Call.OffStore (tuneOnce modelId modelSpec none) :=
    (tuneOnce_only modelId modelSpec none).mono fun _ h => h.offStore
  have hcoupled : Coupled sameReplies Eq (tuneOnce modelId modelSpec none)
      (tuneOnce modelId modelSpec none) :=
    coupled_of_only hoff fun c hc => ⟨⟨rfl, hc⟩, fun _ _ hr => eq_of_heq hr⟩
  have hanswers (c c' : Call) (h : Host W) (t : System W) (hpair : sameReplies.pair c c')
      (ht : OverHost h t) :
      sameReplies.replies c c' ((hosted collate env backend).handle c h).1 ((serving env).handle c' t).1 ∧
        OverHost ((hosted collate env backend).handle c h).2 ((serving env).handle c' t).2 := by
    obtain ⟨rfl, hc⟩ := hpair
    obtain rfl := ht
    cases c with
    | storage op => exact absurd rfl (hc op)
    | _ => exact ⟨HEq.rfl, rfl⟩
  have hruns := hcoupled.two_runs (S := OverHost) hanswers (s := h) rfl
  exact hruns.result.eq

lemma tuneOnce_ensures (modelSpec : Option ModelSpec) :
    Ensures (hosted collate env backend) (tuneOnce modelId modelSpec none) h fun r _ h' =>
      h'.stores = h.stores ∧
        ∀ session : TuningSession, r = .ok session →
          session.modelId = modelId ∧ OneStar session := by
  have hoff : Only Call.OffStore (tuneOnce modelId modelSpec none) :=
    (tuneOnce_only modelId modelSpec none).mono fun _ h => h.offStore
  refine ⟨offStore_ensures hoff, fun session hsession => ?_⟩
  rw [tuneOnce_same] at hsession
  obtain ⟨baseline, candidates, rfl, htuned, -⟩ :=
    AutotuneSpec.tuneOnce_ensures modelId modelSpec none ⟨h.world, {}⟩ session hsession
  exact ⟨conclude_modelId modelId baseline candidates, oneStar_conclude htuned⟩

/-- Noting an adjustment never raises, whatever becomes of the note. -/
lemma noted_ensures (session : TuningSession) :
    Ensures (hosted collate env backend) (logEvent session.modelId "adjust"
      [("config", .config session.winner.config), ("reason", .message session.reason)]) h
      fun r _ h' => r = .ok () ∧
        ((∃ side event, Took collate (.saveAutopilotEvent (adjustEvent session)) h.stores backend side
            event h'.stores) ∨
          Failed collate (.saveAutopilotEvent (adjustEvent session)) h.stores backend h'.stores) := by
  apply ensures_attempt_bind
  rcases hosted_storage collate env backend (.saveAutopilotEvent {
      modelId := session.modelId
      eventType := "adjust"
      details := [("config", .config session.winner.config),
        ("reason", .message session.reason)] }) h with
    ⟨side, event, hreply, htook⟩ | ⟨⟨message, hraised⟩, hfailed⟩
  · rw [hreply]
    exact ensures_pure ⟨rfl, .inl ⟨side, event, htook⟩⟩
  · rw [hraised]
    exact ensures_pure ⟨rfl, .inr hfailed⟩

/-- Applying a session saves its config, and then notes the adjustment as far as it can. -/
lemma apply_ensures (session : TuningSession) :
    Ensures (hosted collate env backend) (apply session) h fun r _ h' => match r with
      | .ok config => ∃ side s₁,
          Took collate (.saveTunedConfig (tunedConfig session)) h.stores backend side config s₁ ∧
          ((∃ side' event, Took collate (.saveAutopilotEvent (adjustEvent session)) s₁ backend side'
              event h'.stores) ∨
            Failed collate (.saveAutopilotEvent (adjustEvent session)) s₁ backend h'.stores)
      | .error _ =>
          Failed collate (.saveTunedConfig (tunedConfig session)) h.stores backend h'.stores := by
  apply (storage_ensures (.saveTunedConfig (tunedConfig session))).bind
  · intro saved t h₁ hsave
    rcases hsave with ⟨side, config, hreply, htook⟩ | ⟨⟨message, hraised⟩, -⟩
    · cases hreply
      apply (noted_ensures session).bind_returned
      intro t' h₂ hnoted
      exact ensures_pure ⟨side, h₁.stores, htook, hnoted⟩
    · cases hraised
  · intro exc t h₁ hsave
    rcases hsave with ⟨side, config, hreply, -⟩ | ⟨-, hfailed⟩
    · cases hreply
    · exact hfailed

end engine

section commands
variable {collate : String → String} {env : Environment W} {backend : Backend} {display : Display}
  {catalog : Except Failure (List ModelSpec)} {s : Console W}

section took
variable {op : StorageCall} {s s' : Stores} {side : Side} {reply : op.Reply}

lemma Answers.effect {db db' : Database} (h : Answers collate side op db reply db') :
    ∃ time, side.Takes op = true ∧ db' = side.effect collate ⟨time, op⟩ db := by
  obtain ⟨time, hserve⟩ := h
  have hcomes := serve_comes collate side ⟨time, op⟩ db
  rw [hserve] at hcomes
  cases hcomes with
  | served htaken reply => exact ⟨time, htaken, rfl⟩

lemma Behind.effect {db db' : Database} (h : Behind collate op db db') :
    db' = db ∨ ∃ time, db' = Side.primary.effect collate ⟨time, op⟩ db := by
  rcases h with hsame | ⟨reply, hanswers⟩
  · exact .inl hsame
  · obtain ⟨time, -, heffect⟩ := hanswers.effect
    exact .inr ⟨time, heffect⟩

/-- The store that has answered holds what the call makes of it. -/
lemma Took.effect (h : Took collate op s backend side reply s') :
    ∃ time, side.Takes op = true ∧ side.of s' = side.effect collate ⟨time, op⟩ (side.of s) := by
  cases h with
  | primary settings hanswers => exact hanswers.effect
  | fallback settings hserver hanswers => exact hanswers.effect
  | sqlite hanswers => exact hanswers.effect

/-- The stores after a read hold what they held. -/
lemma Took.same (h : Took collate op s backend side reply s')
    (hop : ∀ (side : Side) time db, side.effect collate ⟨time, op⟩ db = db) (side' : Side) :
    side'.of s' = side'.of s := by
  have hanswered {side : Side} {db db' : Database} (h : Answers collate side op db reply db') :
      db' = db := by
    obtain ⟨time, -, heffect⟩ := h.effect
    rw [heffect, hop]
  cases h with
  | primary settings hanswers =>
    cases side' with
    | primary => exact hanswered hanswers
    | fallback => rfl
  | fallback settings hserver hanswers =>
    cases side' with
    | primary =>
      rcases hserver.effect with hsame | ⟨time, heffect⟩
      · exact hsame
      · exact heffect.trans (hop _ _ _)
    | fallback => exact hanswered hanswers
  | sqlite hanswers =>
    cases side' with
    | primary => rfl
    | fallback => exact hanswered hanswers

/-- The flag says whether SQLite has answered in the place of MySQL. -/
lemma Took.note (h : Took collate op s backend side reply s') (hs : s.lastUsedFallback = false)
    (line : Line) : note backend side line = if s'.lastUsedFallback then [line] else [] := by
  cases h with
  | primary settings hanswers => rfl
  | fallback settings hserver hanswers => rfl
  | sqlite hanswers =>
    dsimp only
    rw [hs]
    rfl

end took

/-- A command that has just been started. -/
structure Fresh (s : Console W) : Prop where
  shown : s.shown = []
  flag : s.host.stores.lastUsedFallback = false

lemma catalog_ensures :
    Ensures (console collate env backend display) (engine (loadCatalog catalog)) s fun _ _ s' =>
      s'.host.stores = s.host.stores ∧ s'.shown = s.shown :=
  engine_ensures (Q := fun _ h => h.stores = s.host.stores) (ensures_lift rfl)

lemma run_reports (hs : Fresh s) (modelId prompt : String) :
    Ensures (console collate env backend display) (run catalog modelId prompt) s fun r _ s' =>
      Reports collate display backend s.host.stores (.run modelId prompt) (s'.shown, r)
        s'.host.stores := by
  refine catalog_ensures.bind ?_ ?_
  · intro known t₁ s₁ h₁
    obtain ⟨hstores, hshown⟩ := h₁
    rw [hs.shown] at hshown
    refine orExit_ensures rfl (launch_ensures (findModelSpec known modelId))
      (fun message _ => .inl rfl) ?_ ?_ ?_
    · rintro ⟨result, record⟩ s₂ hran hshown₂
      obtain ⟨runtime, side, saved, htook⟩ := hran
      rw [hstores] at htook
      rw [hshown] at hshown₂
      have htold : Tells collate env backend display s₂ (runLines result ++ note backend side savedLocally)
          (.ok Exit.finished) (do
            printAll (runLines result)
            printNote savedLocally
            return .finished) := by
        refine (tells_printAll (runLines result)).bind fun s₃ hhost => ?_
        rw [htook.note hs.flag savedLocally, ← hhost, ← List.append_nil (ite _ _ _)]
        exact (tells_printNote savedLocally).bind fun _ _ => tells_return _
      exact htold.reports hshown₂ (.ran htook)
    · intro message s₂ hran hshown₂
      rw [hshown₂, hshown]
      rcases hran with hsame | ⟨⟨_, hother⟩, -⟩
      · dsimp only
        rw [hsame, hstores]
        exact .notRunning rfl
      · cases hother
    · intro exc s₂ _ hran hshown₂
      rw [hshown₂, hshown]
      rw [hstores] at hran
      rcases hran with hsame | ⟨-, runtime, result, hfailed⟩
      · rw [hsame]
        exact .broken exc rfl
      · exact .runUnsaved exc hfailed
  · intro exc t₁ s₁ h₁
    rw [h₁.1, h₁.2, hs.shown]
    exact .broken exc rfl

lemma history_reports (hs : Fresh s) (modelId : Option String) (limit : ℤ) :
    Ensures (console collate env backend display) (history modelId limit) s fun r _ s' =>
      Reports collate display backend s.host.stores (.history modelId limit) (s'.shown, r)
        s'.host.stores := by
  apply (engine_ensures (storage_ensures (.listRuns modelId limit))).bind
  · intro runs t₁ s₁ h₁
    obtain ⟨⟨side, listed, hreply, htook⟩ | ⟨⟨message, hraised⟩, -⟩, hshown⟩ := h₁
    · cases hreply
      rw [hs.shown] at hshown
      have htold : Tells collate env backend display s₁
          (note backend side localHistory ++ [historyLine runs]) (.ok Exit.finished) (do
            printNote localHistory
            print (historyLine runs)
            return .finished) := by
        rw [htook.note hs.flag localHistory]
        refine (tells_printNote localHistory).bind fun _ _ => ?_
        exact tells_last (historyLine runs)
      exact htold.reports hshown (.history htook)
    · cases hraised
  · intro exc t₁ s₁ h₁
    obtain ⟨⟨side, listed, hreply, -⟩ | ⟨-, hfailed⟩, hshown⟩ := h₁
    · cases hreply
    · rw [hshown, hs.shown]
      exact .unread exc rfl hfailed

lemma disable_reports (hs : Fresh s) (modelId : String) :
    Ensures (console collate env backend display) (autopilotDisable modelId) s fun r _ s' =>
      Reports collate display backend s.host.stores (.disable modelId) (s'.shown, r) s'.host.stores := by
  apply (engine_ensures (storage_ensures (.getTunedConfig modelId))).bind
  · intro found t₁ s₁ h₁
    obtain ⟨⟨side, reply, hreply, htook⟩ | ⟨⟨message, hraised⟩, -⟩, hshown⟩ := h₁
    · cases hreply
      rw [hs.shown] at hshown
      cases found with
      | none => exact (tells_last _).reports hshown (.noTunedConfig htook)
      | some config =>
        apply (engine_ensures (storage_ensures (.lockConfig modelId))).bind
        · intro _ t₂ s₂ h₂
          obtain ⟨⟨side', _, hreply, hlock⟩ | ⟨⟨message, hraised⟩, -⟩, hshown₂⟩ := h₂
          · cases hreply
            refine (tells_last _).reports (hshown₂.trans hshown) (.locked htook hlock ?_)
            obtain ⟨time, -, heffect⟩ := hlock.effect
            rw [htook.same (fun _ _ _ => rfl) side'] at heffect
            exact congrArg Database.tunedConfigs heffect
          · cases hraised
        · intro exc t₂ s₂ h₂
          obtain ⟨⟨side', _, hreply', -⟩ | ⟨-, hfailed⟩, hshown₂⟩ := h₂
          · cases hreply'
          · rw [hshown₂, hshown]
            exact .unlocked exc htook hfailed
    · cases hraised
  · intro exc t₁ s₁ h₁
    obtain ⟨⟨side, reply, hreply, -⟩ | ⟨-, hfailed⟩, hshown⟩ := h₁
    · cases hreply
    · rw [hshown, hs.shown]
      exact .unread exc rfl hfailed

/-- Lines and what follows them: the rest is done when the terminal has taken all of these. -/
lemma printAll_bind {lines : List Line} {rest : Command Exit} {stores : Stores} {asked : Asked}
    (hshown : s.shown = [])
    (hrefused : ¬ Takes display lines →
      Reports collate display backend stores asked (output display lines (.ok .finished)) s.host.stores)
    (htaken : Takes display lines → ∀ s' : Console W, s'.host = s.host → s'.shown = lines →
      Ensures (console collate env backend display) rest s' fun r _ s'' =>
        Reports collate display backend stores asked (s''.shown, r) s''.host.stores) :
    Ensures (console collate env backend display) (printAll lines >>= fun _ => rest) s fun r _ s' =>
      Reports collate display backend stores asked (s'.shown, r) s'.host.stores := by
  have hprinted : Tells collate env backend display s lines (.ok ()) (printAll lines) :=
    tells_printAll lines
  unfold Tells at hprinted
  rw [hshown] at hprinted
  cases hwritten : (written display [] lines).2 with
  | ok _ =>
    rw [hwritten, written_ok hwritten] at hprinted
    apply Ensures.bind_returned hprinted
    rintro t s' rfl
    exact htaken hwritten _ rfl rfl
  | error exc =>
    have houtput := hrefused fun htaken => by
      unfold Takes at htaken
      rw [hwritten] at htaken
      cases htaken
    unfold output at houtput
    rw [hwritten] at hprinted houtput
    apply hprinted.bind
    · rintro _ t s' ⟨hok, -⟩
      cases hok
    · rintro _ t s' ⟨hexc, rfl⟩
      cases hexc
      exact houtput

/-- The last lines of a command, after lines that the terminal has taken. -/
lemma Tells.reports_after {lines more : List Line} {last : Except Exn Exit} {p : Command Exit}
    {stores : Stores} {asked : Asked} (hp : Tells collate env backend display s more last p)
    (htaken : Takes display lines) (hshown : s.shown = lines)
    (h : Reports collate display backend stores asked (output display (lines ++ more) last)
      s.host.stores) :
    Ensures (console collate env backend display) p s fun r _ s' =>
      Reports collate display backend stores asked (s'.shown, r) s'.host.stores := by
  refine hp.mono ?_
  rintro r t s' ⟨rfl, rfl⟩
  have hlines : written display [] lines = (lines, .ok ()) := Prod.ext (written_ok htaken) htaken
  unfold output at h
  rw [written_append, hlines] at h
  rw [hshown]
  exact h

lemma status_reports (hs : Fresh s) (modelId : String) :
    Ensures (console collate env backend display) (autopilotStatus modelId) s fun r _ s' =>
      Reports collate display backend s.host.stores (.status modelId) (s'.shown, r)
        s'.host.stores := by
  apply (engine_ensures (storage_ensures (.getTunedConfig modelId))).bind
  · intro found t₁ s₁ h₁
    obtain ⟨⟨side, reply, hreply, htook⟩ | ⟨⟨message, hraised⟩, -⟩, hshown⟩ := h₁
    · cases hreply
      rw [hs.shown] at hshown
      cases found with
      | none => exact (tells_last _).reports hshown (.noSavedConfig htook)
      | some config =>
        apply printAll_bind hshown fun hrefused => .statusUnshown htook hrefused
        intro htaken s₂ hhost hshown₂
        apply (engine_ensures (storage_ensures (.listAutopilotEvents modelId 10))).bind
        · intro events t₃ s₃ h₃
          obtain ⟨⟨side', listed, hreply', hevents⟩ | ⟨⟨message, hraised⟩, -⟩, hshown₃⟩ := h₃
          · cases hreply'
            rw [hhost] at hevents
            exact (tells_last _).reports_after htaken (hshown₃.trans hshown₂)
              (.status htook htaken hevents)
          · cases hraised
        · intro exc t₃ s₃ h₃
          obtain ⟨⟨side', listed, hreply', -⟩ | ⟨-, hfailed⟩, hshown₃⟩ := h₃
          · cases hreply'
          · rw [hhost] at hfailed
            rw [hshown₃, hshown₂]
            exact .statusUnread exc htook htaken hfailed
    · cases hraised
  · intro exc t₁ s₁ h₁
    obtain ⟨⟨side, reply, hreply, -⟩ | ⟨-, hfailed⟩, hshown⟩ := h₁
    · cases hreply
    · rw [hshown, hs.shown]
      exact .unread exc rfl hfailed

/-- A session that is not to be saved. -/
lemma measured_reports {stores : Stores} {session : TuningSession} {dryRun : Bool}
    (hstar : OneStar session) (h : ¬ (session.outcome = .acceptedNew ∧ dryRun = false))
    (hshown : s.shown = []) (hstores : s.host.stores = stores) :
    Ensures (console collate env backend display) (do
        printAll (sessionLines session session.modelId)
        applyOr session.modelId dryRun session
        return .finished) s fun r _ s' =>
      Reports collate display backend stores (.tune session.modelId dryRun) (s'.shown, r)
        s'.host.stores := by
  have happly : applyOr session.modelId dryRun session =
      print (if session.outcome = .acceptedNew then dryRunText else noChange) := by
    unfold applyOr
    by_cases haccepted : session.outcome = .acceptedNew
    · have hdry : dryRun = true := by simpa [haccepted] using h
      rw [if_pos haccepted, if_pos haccepted, hdry]
      rfl
    · rw [if_neg haccepted, if_neg haccepted]
  rw [happly]
  have htold : Tells collate env backend display s (sessionLines session session.modelId ++
      [if session.outcome = .acceptedNew then dryRunText else noChange]) (.ok Exit.finished) (do
        printAll (sessionLines session session.modelId)
        print (if session.outcome = .acceptedNew then dryRunText else noChange)
        return .finished) :=
    (tells_printAll _).bind fun _ _ => tells_last _
  apply htold.reports hshown
  rw [hstores]
  exact .measured hstar h

/-- A session that is to be saved, when its lines have been shown. -/
lemma accepted_reports {stores : Stores} {session : TuningSession} (hstar : OneStar session)
    (haccepted : session.outcome = .acceptedNew) (hshown : s.shown = [])
    (hstores : s.host.stores = stores) :
    Ensures (console collate env backend display) (do
        printAll (sessionLines session session.modelId)
        applyOr session.modelId false session
        return .finished) s fun r _ s' =>
      Reports collate display backend stores (.tune session.modelId false) (s'.shown, r)
        s'.host.stores := by
  refine printAll_bind hshown (fun hrefused => ?_) fun htaken s₁ hhost hshown₁ => ?_
  · rw [hstores]
    exact .unshown hstar hrefused haccepted
  · have happly : applyOr session.modelId false session = (do
        let _ ← engine (apply session)
        print (saved session.modelId session.winner.config)) := by
      unfold applyOr
      rw [if_pos haccepted]
      rfl
    rw [happly, Program.bind_assoc]
    apply (engine_ensures (apply_ensures session)).bind
    · intro config t₂ s₂ h₂
      obtain ⟨⟨side, s₃, htook, hnoted⟩, hshown₂⟩ := h₂
      rw [hhost, hstores] at htook
      obtain ⟨time, -, heffect⟩ := htook.effect
      exact (tells_last _).reports_after htaken (hshown₂.trans hshown₁)
        (.tuned hstar htaken haccepted htook ⟨time, congrArg Database.tunedConfigs heffect⟩ hnoted)
    · intro exc t₂ s₂ h₂
      obtain ⟨hfailed, hshown₂⟩ := h₂
      rw [hhost, hstores] at hfailed
      rw [hshown₂, hshown₁]
      exact .untuned exc hstar htaken haccepted hfailed

lemma tune_reports (hs : Fresh s) (modelId : String) (dryRun : Bool) :
    Ensures (console collate env backend display) (tune catalog modelId dryRun) s fun r _ s' =>
      Reports collate display backend s.host.stores (.tune modelId dryRun) (s'.shown, r)
        s'.host.stores := by
  refine catalog_ensures.bind ?_ ?_
  · intro known t₁ s₁ h₁
    obtain ⟨hstores, hshown⟩ := h₁
    rw [hs.shown] at hshown
    refine orExit_ensures rfl (R := fun r stores => stores = s₁.host.stores ∧
        ∀ session : TuningSession, r = .ok session → session.modelId = modelId ∧ OneStar session)
      (tuneOnce_ensures (findModelSpec known modelId)) (fun _ _ => ⟨rfl, fun _ h => by cases h⟩)
      ?_ ?_ ?_
    · rintro session s₂ ⟨hsame, hsession⟩ hshown₂
      obtain ⟨rfl, hstar⟩ := hsession session rfl
      by_cases hsaved : session.outcome = .acceptedNew ∧ dryRun = false
      · obtain ⟨haccepted, rfl⟩ := hsaved
        exact accepted_reports hstar haccepted (hshown₂.trans hshown) (hsame.trans hstores)
      · exact measured_reports hstar hsaved (hshown₂.trans hshown) (hsame.trans hstores)
    · rintro message s₂ ⟨hsame, -⟩ hshown₂
      rw [hshown₂, hshown]
      dsimp only
      rw [hsame, hstores]
      exact .notRunning rfl
    · rintro exc s₂ - ⟨hsame, -⟩ hshown₂
      rw [hshown₂, hshown, hsame, hstores]
      exact .broken exc rfl
  · intro exc t₁ s₁ h₁
    rw [h₁.1, h₁.2, hs.shown]
    exact .broken exc rfl

/-- What every command may show. -/
lemma command_reports (hs : Fresh s) (asked : Asked) :
    Ensures (console collate env backend display) (command catalog asked) s fun r _ s' =>
      Reports collate display backend s.host.stores asked (s'.shown, r) s'.host.stores := by
  cases asked with
  | run modelId prompt => exact run_reports hs modelId prompt
  | history modelId limit => exact history_reports hs modelId limit
  | tune modelId dryRun => exact tune_reports hs modelId dryRun
  | disable modelId => exact disable_reports hs modelId
  | status modelId => exact status_reports hs modelId

lemma execute_honest (collate : String → String) (env : Environment W)
    (catalog : Except Failure (List ModelSpec)) (x : Invocation) (w : W) (s : Stores) :
    Honest collate (execute collate env catalog x w s).1 := by
  unfold execute
  cases hopened : opened x with
  | error exc => exact .unopened exc hopened rfl rfl rfl
  | ok backend =>
    let started : Console W := ⟨⟨w, { s with lastUsedFallback := false }, x.troubles⟩, []⟩
    have hstarted : Fresh started := ⟨rfl, rfl⟩
    exact .reported backend hopened (command_reports hstarted x.asked)

end commands

section down
variable {collate : String → String} {env : Environment W} {backend : Backend} {display : Display}
  {catalog : Except Failure (List ModelSpec)} {s : Console W} {α : Type}

/-- The runtime is found to be missing before anything is done. -/
lemma require_down {h : Host W} (hdown : (env.isAvailable h.world).1 = .ok false)
    (f : Unit → Engine α) :
    Ensures (hosted collate env backend) (requireRuntime >>= f) h fun r _ h' =>
      h'.stores = h.stores ∧ ∃ message, r = .error (.runtimeUnavailable message) := by
  have havailable : Ensures (hosted collate env backend) isAvailable h fun r _ h' =>
      r = .ok false ∧ h'.stores = h.stores := ensures_perform (I := services) ⟨hdown, rfl⟩
  have hrequire : Ensures (hosted collate env backend) requireRuntime h fun r _ h' =>
      h'.stores = h.stores ∧ ∃ message, r = .error (.runtimeUnavailable message) := by
    apply havailable.bind
    · rintro available t h₁ ⟨havailable, hstores⟩
      cases havailable
      have hname : Ensures (hosted collate env backend) adapterName h₁ fun r _ h' =>
          r = .ok env.name ∧ h'.stores = h₁.stores := ensures_perform (I := services) ⟨rfl, rfl⟩
      apply hname.bind
      · rintro name t' h₂ ⟨-, hsame⟩
        exact ensures_raise ⟨hsame.trans hstores, _, rfl⟩
      · rintro exc t' h₂ ⟨hname, -⟩
        cases hname
    · rintro exc t h₁ ⟨havailable, -⟩
      cases havailable
  apply hrequire.bind
  · rintro _ t h₁ ⟨-, message, hraised⟩
    cases hraised
  · rintro exc t h₁ ⟨hstores, message, hraised⟩
    cases hraised
    exact ⟨hstores, message, rfl⟩

/-- What a command comes to that finds the runtime missing, if the spinner is shown. -/
def Undone (display : Display) (text : Message) (stores : Stores) (r : Except Exn Exit)
    (s' : Console W) : Prop :=
  s'.host.stores = stores ∧ (display.spinner text = none →
    (s'.shown, r) = output display [runtimeDown] (.ok (.systemExit 1)))

lemma orExit_down {text : Message} {f : Unit → Engine α} {k : Option α → Command Exit}
    (hdown : (env.isAvailable s.host.world).1 = .ok false) (hshown : s.shown = [])
    (hnone : k none = pure (.systemExit 1)) :
    Ensures (console collate env backend display) (orExit text (requireRuntime >>= f) >>= k) s
      fun r _ s' => Undone display text s.host.stores r s' := by
  let R : Except Exn α → Stores → Prop := fun r stores => stores = s.host.stores ∧
    ((∃ message, r = .error (.runtimeUnavailable message)) ∨
      ∃ message, display.spinner text = some message ∧ r = .error (.exception message))
  refine orExit_ensures (R := R) hnone ?_ (fun message hspinner => ⟨rfl, .inr ⟨message, hspinner, rfl⟩⟩)
    ?_ ?_ ?_
  · exact (require_down hdown f).mono fun r _ h' hR => ⟨hR.1, .inl hR.2⟩
  · rintro a s' ⟨-, ⟨message, hraised⟩ | ⟨message, -, hraised⟩⟩ -
    · cases hraised
    · cases hraised
  · rintro message s' ⟨hstores, -⟩ hsame
    rw [hsame, hshown]
    exact ⟨hstores, fun _ => rfl⟩
  · rintro exc s' hother ⟨hstores, ⟨message, hexc⟩ | ⟨message, hrefused, -⟩⟩ -
    · cases hexc
      cases hother
    · refine ⟨hstores, fun hspinner => ?_⟩
      rw [hrefused] at hspinner
      cases hspinner

/-- The catalog is loaded before anything else. -/
lemma loaded_ensures : Ensures (console collate env backend display) (engine (loadCatalog catalog)) s
    fun r _ s' => (catalog.isOk → ∃ known, r = .ok known) ∧ s'.host = s.host ∧ s'.shown = s.shown := by
  have hloaded : Ensures (hosted collate env backend) (loadCatalog catalog) s.host fun r _ h =>
      (catalog.isOk → ∃ known, r = .ok known) ∧ h = s.host := by
    apply ensures_lift
    refine ⟨fun hok => ?_, rfl⟩
    obtain ⟨known, hknown⟩ := MySqlStore.exists_ok hok
    exact ⟨known, by rw [hknown]; rfl⟩
  refine (engine_ensures hloaded).mono ?_
  rintro r t s' ⟨⟨hok, hhost⟩, hshown⟩
  exact ⟨hok, hhost, hshown⟩

/-- The commands that need the runtime begin alike. -/
lemma loaded_down {text : Message} {f : List ModelSpec → Unit → Engine α}
    {k : List ModelSpec → Option α → Command Exit} (hs : Fresh s)
    (hdown : (env.isAvailable s.host.world).1 = .ok false)
    (hnone : ∀ known, k known none = pure (.systemExit 1)) :
    Ensures (console collate env backend display)
      (engine (loadCatalog catalog) >>= fun known =>
        orExit text (requireRuntime >>= f known) >>= k known) s fun r _ s' =>
      s'.host.stores = s.host.stores ∧ (catalog.isOk → display.spinner text = none →
        (s'.shown, r) = output display [runtimeDown] (.ok (.systemExit 1))) := by
  apply loaded_ensures.bind
  · rintro known t s₁ ⟨-, hhost, hshown⟩
    rw [← hhost] at hdown ⊢
    refine (orExit_down hdown (hshown.trans hs.shown) (hnone known)).mono ?_
    rintro r t' s' ⟨hstores, htold⟩
    exact ⟨hstores, fun _ => htold⟩
  · rintro exc t s₁ ⟨hok, hhost, -⟩
    refine ⟨by rw [hhost], fun hcatalog => ?_⟩
    obtain ⟨known, hknown⟩ := hok hcatalog
    cases hknown

/-- A command that needs the runtime and finds it missing. -/
lemma command_down {asked : Asked} {text : Message} (hs : Fresh s) (hspins : asked.spins = some text)
    (hdown : (env.isAvailable s.host.world).1 = .ok false) :
    Ensures (console collate env backend display) (command catalog asked) s fun r _ s' =>
      s'.host.stores = s.host.stores ∧ (catalog.isOk → display.spinner text = none →
        (s'.shown, r) = output display [runtimeDown] (.ok (.systemExit 1))) := by
  cases asked with
  | run modelId prompt =>
    cases hspins
    exact loaded_down hs hdown fun _ => rfl
  | tune modelId dryRun =>
    cases hspins
    exact loaded_down hs hdown fun _ => rfl
  | _ => cases hspins

lemma execute_nothingDone (collate : String → String) {env : Environment W}
    (catalog : Except Failure (List ModelSpec)) {x : Invocation} {w : W} {text : Message}
    (hspins : x.asked.spins = some text) (hdown : (env.isAvailable w).1 = .ok false) (s : Stores) :
    NothingDone catalog text (execute collate env catalog x w s).1 := by
  unfold execute
  cases hopened : opened x with
  | error exc =>
    exact ⟨fun _ => rfl, fun _ hopen => by simp [hopened, Except.isOk, Except.toBool] at hopen⟩
  | ok backend =>
    let started : Console W := ⟨⟨w, { s with lastUsedFallback := false }, x.troubles⟩, []⟩
    have hstarted : Fresh started := ⟨rfl, rfl⟩
    have hdone : Ensures (console collate env backend x.display) (command catalog x.asked) started _ :=
      command_down hstarted hspins hdown
    obtain ⟨hstores, htold⟩ := hdone
    refine ⟨fun side => ?_, fun hcatalog _ hspinner => htold hcatalog hspinner⟩
    have hafter := congrArg (fun stores => side.of stores) hstores
    cases side with
    | primary => exact hafter
    | fallback => exact hafter

end down

section logs
variable {collate : String → String} {op : StorageCall} {backend : Backend} {display : Display}
  {side : Side} {reply : op.Reply} {s s' s₁ : Stores}

/-- The runs that a call saves. -/
def savedRuns : StorageCall → List RunRecord
  | .saveRun record => [record]
  | _ => []

lemma effect_log (collate : String → String) (side : Side) (c : TimedCall) (db : Database) :
    logOf (side.effect collate c db) = logOf db ++ (savedRuns c.op).filterMap side.stored := by
  obtain ⟨time, op⟩ := c
  cases op with
  | saveRun record =>
    simp only [logOf, Side.effect, Side.runStep, savedRuns]
    cases hstored : side.stored record with
    | none => simp [hstored]
    | some columns => simp [hstored]
  | _ => exact (List.append_nil _).symm

lemma columnsOf_append (side : Side) (runs more : List LoggedRun) :
    columnsOf side (runs ++ more) = columnsOf side runs ++ columnsOf side more := by
  simp [columnsOf]

lemma logged_refl (s : Stores) : Logged [] s s :=
  ⟨(List.append_nil _).symm, [], (List.append_nil _).symm, List.Sublist.refl _⟩

lemma Logged.trans {runs more : List LoggedRun} (h : Logged runs s s₁) (h' : Logged more s₁ s') :
    Logged (runs ++ more) s s' := by
  obtain ⟨hsqlite, rows, hmysql, hsub⟩ := h
  obtain ⟨hsqlite', rows', hmysql', hsub'⟩ := h'
  refine ⟨?_, rows ++ rows', ?_, ?_⟩
  · rw [hsqlite', hsqlite, columnsOf_append, List.append_assoc]
  · rw [hmysql', hmysql, List.append_assoc]
  · rw [columnsOf_append]
    exact hsub.append hsub'

lemma Behind.log {db db' : Database} (h : Behind collate op db db') :
    ∃ rows, logOf db' = logOf db ++ rows := by
  rcases h.effect with rfl | ⟨time, rfl⟩
  · exact ⟨[], (List.append_nil _).symm⟩
  · exact ⟨_, effect_log collate .primary ⟨time, op⟩ db⟩

/-- The runs that a store puts down when it takes a call. -/
lemma exists_logged (h : side.Takes op = true) : ∃ runs : List LoggedRun,
    runs.map (fun run => (run.side, run.record)) = (savedRuns op).map (fun record => (side, record)) ∧
      ∀ side', columnsOf side' runs =
        if side' = side then (savedRuns op).filterMap side.stored else [] := by
  cases op with
  | saveRun record =>
    obtain ⟨columns, hstored⟩ := Option.isSome_iff_exists.mp h
    refine ⟨[⟨side, record, columns, hstored⟩], rfl, fun side' => ?_⟩
    by_cases hside : side' = side
    · simp [columnsOf, savedRuns, hstored, hside]
    · simp [columnsOf, hside, Ne.symm hside]
  | _ => exact ⟨[], rfl, fun side' => by simp [columnsOf, savedRuns]⟩

/-- The logs grow by the runs of a call that has been answered. -/
lemma Took.logged (h : Took collate op s backend side reply s') : ∃ runs : List LoggedRun,
    runs.map (fun run => (run.side, run.record)) = (savedRuns op).map (fun record => (side, record)) ∧
      Logged runs s s' := by
  have htaken := h.effect
  obtain ⟨-, htaken, -⟩ := htaken
  obtain ⟨runs, hruns, hcolumns⟩ := exists_logged htaken
  refine ⟨runs, hruns, ?_⟩
  cases h with
  | primary settings hanswers =>
    obtain ⟨time, -, rfl⟩ := hanswers.effect
    refine ⟨?_, _, effect_log collate .primary ⟨time, op⟩ s.primary, ?_⟩
    · rw [hcolumns, if_neg (by decide), List.append_nil]
    · rw [hcolumns, if_pos rfl]
  | fallback settings hserver hanswers =>
    obtain ⟨time, -, rfl⟩ := hanswers.effect
    obtain ⟨rows, hrows⟩ := hserver.log
    refine ⟨?_, rows, hrows, ?_⟩
    · rw [hcolumns, if_pos rfl, effect_log]
    · rw [hcolumns, if_neg (by decide)]
      exact List.nil_sublist rows
  | sqlite hanswers =>
    obtain ⟨time, -, rfl⟩ := hanswers.effect
    refine ⟨?_, [], (List.append_nil _).symm, ?_⟩
    · rw [hcolumns, if_pos rfl, effect_log]
    · rw [hcolumns, if_neg (by decide)]

/-- A call that saves no run leaves no run in the log. -/
lemma Took.logged_nothing (h : Took collate op s backend side reply s') (hop : savedRuns op = []) :
    Logged [] s s' := by
  obtain ⟨runs, hruns, hlogged⟩ := h.logged
  rw [hop, List.map_nil, List.map_eq_nil_iff] at hruns
  rwa [hruns] at hlogged

lemma Failed.logged (h : Failed collate op s backend s') : Logged [] s s' := by
  cases h with
  | both settings hserver =>
    obtain ⟨rows, hrows⟩ := hserver.log
    exact ⟨(List.append_nil _).symm, rows, hrows, List.nil_sublist _⟩
  | sqlite => exact logged_refl s

/-- The settings say whether there is a MySQL store. -/
lemma opened_server {x : Invocation} (hopened : opened x = .ok backend) :
    decide (storageBackend x.environ = "mysql") = (backend != .sqlite) := by
  have hstorage : getStorage x.environ = .ok backend := by
    unfold opened at hopened
    cases hsettings : getStorage x.environ with
    | error exc =>
      rw [hsettings] at hopened
      cases hopened
    | ok found =>
      rw [hsettings] at hopened
      cases hunopened : x.unopened with
      | some message => simp [hunopened, bind, Except.bind] at hopened
      | none => simpa [hunopened, bind, Except.bind, pure, Except.pure] using hopened
  unfold getStorage at hstorage
  split_ifs at hstorage with hmysql
  · cases hsettings : mysqlConfig x.environ with
    | error exc =>
      rw [hsettings] at hstorage
      cases hstorage
    | ok settings =>
      rw [hsettings] at hstorage
      cases hstorage
      exact decide_eq_true hmysql
  · cases hstorage
    exact decide_eq_false hmysql

/-- Without MySQL it is SQLite that answers. -/
lemma Took.side_of_sqlite (h : Took collate op s backend side reply s') (hbackend : backend = .sqlite) :
    side = .fallback := by
  cases h with
  | primary settings hanswers => cases hbackend
  | fallback settings hserver hanswers => rfl
  | sqlite hanswers => rfl

/-- The run that is told to the end is the one that the store has saved. -/
lemma told_ran {modelId prompt runtime : String} {result : RunResult} {record : RunRecord}
    (h : Took collate (.saveRun (recordOf modelId prompt runtime result)) s backend side record s') :
    told (backend != .sqlite) (.run modelId prompt)
        (runLines result ++ note backend side savedLocally, .ok .finished) =
      [(side, figures (recordOf modelId prompt runtime result))] := by
  cases backend with
  | fallback settings => cases side <;> rfl
  | sqlite =>
    rw [h.side_of_sqlite rfl]
    rfl

/-- Nothing is told of a run when the runtime is missing. -/
lemma told_notRunning (server : Bool) (asked : Asked) :
    told server asked (output display [runtimeDown] (.ok (.systemExit 1))) = [] := by
  cases asked with
  | run modelId prompt =>
    simp only [output, written]
    cases display.line [] runtimeDown with
    | none => rfl
    | some message => rfl
  | _ => rfl

/-- The logs have grown by the run that has been told of, or by one whose telling the terminal has
refused. -/
def LoggedAs (display : Display) (backend : Backend) (asked : Asked)
    (out : List Line × Except Exn Exit) (s s' : Stores) : Prop :=
  (∃ runs : List LoggedRun, runs.map (fun run => (run.side, figures run.record)) =
      told (backend != .sqlite) asked out ∧ Logged runs s s') ∨
    ∃ (run : LoggedRun) (line : Line) (message : String),
      asked = .run run.record.modelId run.record.prompt ∧ display.line out.1 line = some message ∧
        out.2 = .error (.exception message) ∧ Logged [run] s s'

lemma loggedAs_nothing {asked : Asked} {out : List Line × Except Exn Exit}
    (htold : told (backend != .sqlite) asked out = []) (h : Logged [] s s') :
    LoggedAs display backend asked out s s' := .inl ⟨[], htold.symm, h⟩

lemma ran_logged {modelId prompt runtime : String} {result : RunResult} {record : RunRecord}
    (h : Took collate (.saveRun (recordOf modelId prompt runtime result)) s backend side record s') :
    LoggedAs display backend (.run modelId prompt)
      (output display (runLines result ++ note backend side savedLocally) (.ok .finished)) s s' := by
  obtain ⟨runs, hruns, hlogged⟩ := h.logged
  obtain ⟨run, rfl, hrun⟩ := List.map_eq_singleton_iff.mp hruns
  obtain ⟨hside, hrecord⟩ := Prod.mk.inj hrun
  cases hwritten : (written display [] (runLines result ++ note backend side savedLocally)).2 with
  | ok _ =>
    refine .inl ⟨[run], ?_, hlogged⟩
    rw [output_taken hwritten, told_ran h, List.map_singleton, hside, hrecord]
  | error exc =>
    obtain ⟨line, message, hrefused, rfl⟩ := written_error hwritten
    refine .inr ⟨run, line, message, by rw [hrecord]; rfl, hrefused, ?_, hlogged⟩
    simp only [output, hwritten]
    rfl

/-- What a command tells of is what the logs grow by, unless the terminal has refused to show a
run. -/
lemma reports_logged {asked : Asked} {out : List Line × Except Exn Exit}
    (h : Reports collate display backend s asked out s') :
    LoggedAs display backend asked out s s' := by
  cases h with
  | broken exc hspins => exact loggedAs_nothing (by cases asked <;> rfl) (logged_refl s)
  | notRunning hspins => exact loggedAs_nothing (told_notRunning _ _) (logged_refl s)
  | unread exc hreads hfailed => exact loggedAs_nothing (by cases asked <;> rfl) hfailed.logged
  | ran htook => exact ran_logged htook
  | runUnsaved exc hfailed => exact loggedAs_nothing rfl hfailed.logged
  | history htook => exact loggedAs_nothing rfl (htook.logged_nothing rfl)
  | measured hstar hnot => exact loggedAs_nothing rfl (logged_refl s)
  | unshown hstar hrefused haccepted => exact loggedAs_nothing rfl (logged_refl s)
  | tuned hstar hshown haccepted htook hsaved hnoted =>
    have hconfig := htook.logged_nothing rfl
    rcases hnoted with ⟨side', event, hevent⟩ | hevent
    · exact loggedAs_nothing rfl (hconfig.trans (hevent.logged_nothing rfl))
    · exact loggedAs_nothing rfl (hconfig.trans hevent.logged)
  | untuned exc hstar hshown haccepted hfailed => exact loggedAs_nothing rfl hfailed.logged
  | noTunedConfig htook => exact loggedAs_nothing rfl (htook.logged_nothing rfl)
  | locked htook hlock hlocked =>
    exact loggedAs_nothing rfl ((htook.logged_nothing rfl).trans (hlock.logged_nothing rfl))
  | unlocked exc htook hlock =>
    exact loggedAs_nothing rfl ((htook.logged_nothing rfl).trans hlock.logged)
  | noSavedConfig htook => exact loggedAs_nothing rfl (htook.logged_nothing rfl)
  | statusUnshown htook hrefused => exact loggedAs_nothing rfl (htook.logged_nothing rfl)
  | status htook hshown hevents =>
    exact loggedAs_nothing rfl ((htook.logged_nothing rfl).trans (hevents.logged_nothing rfl))
  | statusUnread exc htook hshown hevents =>
    exact loggedAs_nothing rfl ((htook.logged_nothing rfl).trans hevents.logged)

lemma Honest.logged {r : Execution W} (h : Honest collate r) :
    ∃ runs, Logs r runs ∧ Logged runs r.before r.after := by
  cases h with
  | unopened exc hopened hshown hresult hafter =>
    have htold : toldBy r = [] := by
      unfold toldBy
      rw [hshown]
      cases r.invocation.asked <;> rfl
    refine ⟨[], .told htold.symm, ?_⟩
    rw [hafter]
    exact logged_refl r.before
  | reported backend hopened hreports =>
    rcases reports_logged hreports with ⟨runs, hruns, hsqlite, hmysql⟩ |
      ⟨run, line, message, hasked, hrefused, hresult, hsqlite, hmysql⟩
    · rw [← opened_server hopened] at hruns
      exact ⟨runs, .told hruns, hsqlite, hmysql⟩
    · exact ⟨[run], .refused run hasked hrefused hresult, hsqlite, hmysql⟩

lemma execute_found (collate : String → String) (env : Environment W)
    (catalog : Except Failure (List ModelSpec)) (x : Invocation) (w : W) (s : Stores) :
    (execute collate env catalog x w s).1.before = s ∧
      (execute collate env catalog x w s).1.world = w ∧
      (execute collate env catalog x w s).1.invocation = x := by
  unfold execute
  split <;> exact ⟨rfl, rfl, rfl⟩

end logs

/-- Everything that was shown is true of the stores, a missing runtime has changed nothing, and the
logs of runs have grown by the runs that were told of, or whose telling the terminal has refused,
each once and in order. -/
structure Accounted (collate : String → String) (env : Environment W)
    (catalog : Except Failure (List ModelSpec)) (records : List (Execution W)) (s s' : Stores) :
    Prop where
  honest : ∀ r ∈ records, Honest collate r
  missing : ∀ r ∈ records, ∀ text, r.invocation.asked.spins = some text →
    (env.isAvailable r.world).1 = .ok false → NothingDone catalog text r
  logged : ∃ runs, List.Forall₂ Logs records runs ∧ Logged runs.flatten s s'

lemma accounted_cons {env : Environment W} {catalog : Except Failure (List ModelSpec)}
    {r : Execution W} {records : List (Execution W)} {s' : Stores} {collate : String → String}
    (h : Honest collate r)
    (hmissing : ∀ text, r.invocation.asked.spins = some text →
      (env.isAvailable r.world).1 = .ok false → NothingDone catalog text r)
    (hrest : Accounted collate env catalog records r.after s') :
    Accounted collate env catalog (r :: records) r.before s' := by
  obtain ⟨run, hlogs, hlogged⟩ := h.logged
  obtain ⟨hhonest, hrestMissing, runs, hall, hlater⟩ := hrest
  refine ⟨List.forall_mem_cons.mpr ⟨h, hhonest⟩, List.forall_mem_cons.mpr ⟨hmissing, hrestMissing⟩,
    run :: runs, .cons hlogs hall, ?_⟩
  rw [List.flatten_cons]
  exact hlogged.trans hlater

end LlmMax.CommandReports
