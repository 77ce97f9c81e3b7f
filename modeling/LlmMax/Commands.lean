import LlmMax.Agentd
import LlmMax.AutopilotCommand
import LlmMax.Config
import LlmMax.EffectEmbedding

/-! The commands that run, tune, lock and look back, over the store that the settings choose. -/
namespace LlmMax.Commands
open Domain BenchMetrics AutotuneState Storage EffectProgram EffectBlocks EffectEmbedding Services
open Failover SqlStorage SqlFallback AutotuneEngine AutotuneSpec ModelLookup RunLog Config Pull
open Agentd AutopilotCommand

variable {W : Type}

section stores

/-- The clocks of the databases at a storage call, and what goes wrong with it: MySQL refuses it, or
carries it out and raises all the same; SQLite, whose operations are transactions, refuses it. -/
structure Trouble where
  primaryTime : String := ""
  fallbackTime : String := ""
  primary : Option Fault := none
  fallback : Option String := none

/-- The machine that a command runs on, with the troubles of the storage calls to come. -/
structure Host (W : Type) where
  world : W
  stores : Stores
  troubles : List Trouble

variable (collate : String → String)

/-- A store under a fault. -/
def faulty (fault : Option Fault) (side : Side) (c : TimedCall) (db : Database) :
    Except Failure c.op.Reply × Database :=
  match fault with
  | none => side.serve collate c db
  | some (.refused message) => (.error (Failure.ofMessage message), db)
  | some (.replyLost message) => (.error (Failure.ofMessage message), (side.serve collate c db).2)

def storageCall (backend : Backend) (trouble : Trouble) (op : StorageCall) (s : Stores) :
    Except Failure op.Reply × Stores :=
  let onFallback :=
    faulty collate (trouble.fallback.map .refused) .fallback ⟨trouble.fallbackTime, op⟩
  match backend with
  | .sqlite => ((onFallback s.fallback).1, { s with fallback := (onFallback s.fallback).2 })
  | .fallback _ =>
    Failover.call (faulty collate trouble.primary .primary ⟨trouble.primaryTime, op⟩) onFallback s

/-- The services of a command whose settings choose that store. -/
def hosted (env : Environment W) (backend : Backend) : Handler services Exn (Host W) where
  handle c h :=
    match c with
    | .storage op =>
      let out := storageCall collate backend (h.troubles.head?.getD {}) op h.stores
      (out.1.mapError Subtype.val, { h with stores := out.2, troubles := h.troubles.tail })
    | c =>
      let out := (serving env).handle c ⟨h.world, {}⟩
      (out.1, { h with world := out.2.world })

end stores

section terminal

/-- A row of the benchmark table. -/
structure BenchmarkRow where
  config : Config
  starred : Bool
  tokensPerSec : Option ℚ
  p50LatencyS : Option ℚ
  p95LatencyS : Option ℚ
  status : String

/-- A row of the run history. -/
structure RunRow where
  createdAt : String
  modelId : String
  tokensGenerated : ℤ
  totalDurationS : ℚ
  tokensPerSec : Option ℚ
  deriving DecidableEq

structure EventRow where
  createdAt : String
  eventType : String
  details : List (String × Detail)

/-- What a command prints in one go: a text, the figures of a run, or a table. -/
inductive Line
  | text (message : Message)
  | timing (tokensGenerated : ℤ) (totalDurationS : ℚ) (tokensPerSec : Option ℚ)
  | benchmarks (modelId : String) (rows : List BenchmarkRow)
  | runs (rows : List RunRow)
  | events (rows : List EventRow)

/-- A terminal may refuse a line after those it shows, or the text of a spinner, with the message
of what it raises. -/
structure Display where
  line : List Line → Line → Option String
  spinner : Message → Option String

inductive Act
  | service (c : Call)
  /-- `getattr(storage, "last_used_fallback", False)`. -/
  | lastUsedFallback
  | spin (text : Message)
  | print (line : Line)

def terminal : Interface where
  Call := Act
  Reply
    | .service c => c.Reply
    | .lastUsedFallback => Bool
    | .spin _ => Unit
    | .print _ => Unit

abbrev Command := Program terminal Exn

structure Console (W : Type) where
  host : Host W
  shown : List Line

def console (collate : String → String) (env : Environment W) (backend : Backend)
    (display : Display) : Handler terminal Exn (Console W) where
  handle
    | .service c, s =>
      let out := (hosted collate env backend).handle c s.host
      (out.1, { s with host := out.2 })
    | .lastUsedFallback, s => (.ok s.host.stores.lastUsedFallback, s)
    | .spin text, s =>
      match display.spinner text with
      | some message => (.error (.exception message), s)
      | none => (.ok (), s)
    | .print line, s =>
      match display.line s.shown line with
      | some message => (.error (.exception message), s)
      | none => (.ok (), { s with shown := s.shown ++ [line] })

def ask (c : Call) : Command (Except Exn c.Reply) := Program.attempt (I := terminal) (.service c)

/-- A part of the command that only uses the services. -/
def engine {α : Type} (p : Engine α) : Command α := within ask p

def lastUsedFallback : Command Bool := Program.perform (I := terminal) .lastUsedFallback

/-- `with console.status(text)`. -/
def spin (text : Message) : Command Unit := Program.perform (I := terminal) (.spin text)

def print (line : Line) : Command Unit := Program.perform (I := terminal) (.print line)

end terminal

section texts

def runningText (modelId : String) : Message := [.text "Running ", .text modelId, .text "..."]

def benchmarkingText (modelId : String) : Message :=
  [.text "Benchmarking ", .text modelId, .text " (this runs several prompts per config)..."]

def runtimeDown : Line := .text runtimeDownText

def savedLocally : Line :=
  .text [.text
    "[yellow]Note:[/yellow] MySQL was unreachable — this run was saved to local SQLite instead."]

def localHistory : Line :=
  .text [.text
    "[yellow]Note:[/yellow] MySQL was unreachable — showing local SQLite history instead.\n"]

def noHistory : Line :=
  .text [.text "No run history yet — try [bold]llm-max run <model>[/bold] first."]

def winningConfig : Line := .text [.text "[dim]* = winning config[/dim]"]

def dryRunText : Line := .text [.text "\n[dim]Dry run — config not saved.[/dim]"]

def saved (modelId : String) (config : Config) : Line :=
  .text [.text "\n[green]Saved.[/green] ", .text modelId, .text " will now run with ",
    .config config, .text "."]

def noChange : Line := .text [.text "\nNo change made."]

def noTunedConfig (modelId : String) : Line :=
  .text [.text "No tuned config exists yet for [bold]", .text modelId,
    .text "[/bold] — run [bold]llm-max tune[/bold] first."]

def locked (modelId : String) : Line :=
  .text [.text "[green]Locked.[/green] Autopilot will skip ", .text modelId,
    .text " until unlocked."]

def noSavedConfig (modelId : String) : Line :=
  .text [.text "No tuned config saved yet for [bold]", .text modelId, .text "[/bold]."]

def configLines (config : TunedConfig) : List Line :=
  [.text [.text "Current config: [bold]", .config config.config, .text "[/bold]"],
    .text [.text "Locked: ", .text (if config.isLocked then "yes" else "no")],
    .text [.text "Saved at: ", .text (config.createdAt.getD "None"), .text "\n"]]

def noEvents : Line := .text [.text "[dim]No autopilot events logged yet.[/dim]"]

/-- `x or "-"` of a creation time. -/
def orDash (createdAt : Option String) : String :=
  match createdAt with
  | none => "-"
  | some time => if time = "" then "-" else time

/-- A number that is shown only if it is truthy. -/
def truthy (q : Option ℚ) : Option ℚ := q.filter fun q => q ≠ 0

def runRow (r : RunRecord) : RunRow :=
  ⟨orDash r.createdAt, r.modelId, r.tokensGenerated, r.totalDurationS, truthy r.tokensPerSec⟩

def eventRow (e : AutopilotEvent) : EventRow := ⟨orDash e.createdAt, e.eventType, e.details⟩

def runLines (result : RunResult) : List Line :=
  [.text [.text result.response],
    .timing result.tokensGenerated result.totalDurationS (truthy result.tokensPerSec)]

def historyLine (runs : List RunRecord) : Line :=
  if runs = [] then noHistory else .runs (runs.map runRow)

def eventsLine (events : List AutopilotEvent) : Line :=
  if events = [] then noEvents else .events (events.map eventRow)

def benchmarkRow (winner : Config) (candidate : TuningCandidateResult) : BenchmarkRow :=
  let b := candidate.benchmark
  { config := candidate.config
    starred := candidate.config = winner
    tokensPerSec := truthy b.tokensPerSec
    p50LatencyS := truthy b.p50LatencyS
    p95LatencyS := truthy b.p95LatencyS
    status := if b.oomOccurred then "OOM" else if !b.succeeded then "failed" else "ok" }

/-- The rows of a session: the baseline, and the candidates with another config. -/
def benchmarkRows (session : TuningSession) : List BenchmarkRow :=
  (session.baseline :: session.candidates.filter fun c => c.config ≠ session.baseline.config).map
    (benchmarkRow session.winner.config)

/-- `_print_tuning_session`. -/
def sessionLines (session : TuningSession) (modelId : String) : List Line :=
  [.text (sessionText session ++ [.text "\n"]), .benchmarks modelId (benchmarkRows session),
    winningConfig]

end texts

section commands
variable (catalog : Except Failure (List ModelSpec))

def printAll : List Line → Command Unit
  | [] => return ()
  | line :: lines => do
    print line
    printAll lines

/-- A note for the case that the last storage call was answered by the fallback. -/
def printNote (line : Line) : Command Unit := do
  if ← lastUsedFallback then print line

/-- `except RuntimeUnavailableError` around a block with a spinner, which ends the command. -/
def orExit {α : Type} (text : Message) (block : Engine α) : Command (Option α) :=
  catching isRuntimeUnavailable
    (fun _ => do
      print runtimeDown
      return none)
    (do
      spin text
      return some (← engine block))

def run (modelId prompt : String) : Command Exit := do
  let known ← engine (loadCatalog catalog)
  let modelSpec := findModelSpec known modelId
  match ← orExit (runningText modelId) (LauncherService.run modelId prompt modelSpec) with
  | none => return .systemExit 1
  | some (result, _) =>
    printAll (runLines result)
    printNote savedLocally
    return .finished

def history (modelId : Option String) (limit : ℤ) : Command Exit := do
  let runs ← engine (Program.perform (I := services) (.storage (.listRuns modelId limit)))
  printNote localHistory
  print (historyLine runs)
  return .finished

/-- What becomes of the session of a tuning. -/
def applyOr (modelId : String) (dryRun : Bool) (session : TuningSession) : Command Unit := do
  if session.outcome = .acceptedNew then
    if dryRun then print dryRunText
    else
      let _ ← engine (apply session)
      print (saved modelId session.winner.config)
  else print noChange

def tune (modelId : String) (dryRun : Bool) : Command Exit := do
  let known ← engine (loadCatalog catalog)
  let modelSpec := findModelSpec known modelId
  match ← orExit (benchmarkingText modelId) (tuneOnce modelId modelSpec none) with
  | none => return .systemExit 1
  | some session =>
    printAll (sessionLines session modelId)
    applyOr modelId dryRun session
    return .finished

def autopilotDisable (modelId : String) : Command Exit := do
  match ← engine (getTunedConfig modelId) with
  | none => print (noTunedConfig modelId)
  | some _ =>
    engine (lockConfig modelId)
    print (locked modelId)
  return .finished

def autopilotStatus (modelId : String) : Command Exit := do
  match ← engine (getTunedConfig modelId) with
  | none => print (noSavedConfig modelId)
  | some config =>
    printAll (configLines config)
    let events ←
      engine (Program.perform (I := services) (.storage (.listAutopilotEvents modelId 10)))
    print (eventsLine events)
  return .finished

/-- What the user asks for. -/
inductive Asked
  | run (modelId prompt : String)
  | history (modelId : Option String) (limit : ℤ)
  | tune (modelId : String) (dryRun : Bool)
  | disable (modelId : String)
  | status (modelId : String)

/-- The text of the spinner while the command uses the runtime. -/
def Asked.spins : Asked → Option Message
  | .run modelId _ => some (runningText modelId)
  | .tune modelId _ => some (benchmarkingText modelId)
  | _ => none

/-- The read that the command starts with. -/
def Asked.reads : Asked → Option StorageCall
  | .history modelId limit => some (.listRuns modelId limit)
  | .disable modelId | .status modelId => some (.getTunedConfig modelId)
  | _ => none

def command : Asked → Command Exit
  | .run modelId prompt => run catalog modelId prompt
  | .history modelId limit => history modelId limit
  | .tune modelId dryRun => tune catalog modelId dryRun
  | .disable modelId => autopilotDisable modelId
  | .status modelId => autopilotStatus modelId

end commands

section execution

/-- A command with its settings, its terminal, what opening the SQLite database raises, and the
troubles of its storage calls. -/
structure Invocation where
  environ : Environ
  asked : Asked
  display : Display
  unopened : Option String := none
  troubles : List Trouble

/-- A command that has been executed: the world it found, what it has shown, how it ended, and the
stores. -/
structure Execution (W : Type) where
  invocation : Invocation
  world : W
  before : Stores
  shown : List Line
  result : Except Exn Exit
  after : Stores

/-- The store of the command: the settings are read first, and SQLite is opened in any case. -/
def opened (x : Invocation) : Except Exn Backend := do
  let backend ← getStorage x.environ
  match x.unopened with
  | some message => .error (.exception message)
  | none => return backend

/-- One command: its store is set up before anything else. -/
def execute (collate : String → String) (env : Environment W)
    (catalog : Except Failure (List ModelSpec)) (x : Invocation) (w : W) (s : Stores) :
    Execution W × W :=
  match opened x with
  | .error exc => (⟨x, w, s, [], .error exc, s⟩, w)
  | .ok backend =>
    let out := exec (console collate env backend x.display) (command catalog x.asked)
      ⟨⟨w, { s with lastUsedFallback := false }, x.troubles⟩, []⟩
    (⟨x, w, s, out.state.shown, out.result, out.state.host.stores⟩, out.state.host.world)

/-- One command after the other. -/
def executeAll (collate : String → String) (env : Environment W)
    (catalog : Except Failure (List ModelSpec)) :
    List Invocation → W → Stores → List (Execution W) × Stores
  | [], _, s => ([], s)
  | x :: rest, w, s =>
    let out := execute collate env catalog x w s
    let later := executeAll collate env catalog rest out.2 out.1.after
    (out.1 :: later.1, later.2)

end execution

end LlmMax.Commands
