import LlmMax.BenchMetrics
import LlmMax.Generator
import LlmMax.JsonParser

/-! Pulling a model: the adapter's generator of progress events, the launcher's and the
route's around it, and the command that prints them. -/
namespace LlmMax.Pull
open Domain BenchMetrics Generators JsonText JsonParser

/-- A runtime as one pull meets it. -/
structure RuntimeAdapter where
  name : String
  isAvailable : Bool
  pull : String → Generator Exn Json

/-- The streamed reply of the runtime. -/
structure Response where
  raiseForStatus : Except Exn Unit
  iterLines : Generator Exn String

/-- The events of the lines that are not empty, each read only when it is asked for. -/
def parseLines (loads : String → Except Exn Json) : Generator Exn String → Generator Exn Json
  | .done => .done
  | .raise e => .raise e
  | .yield line rest =>
    if line = "" then parseLines loads rest
    else match loads line with
      | .error e => .raise e
      | .ok event => .yield event (parseLines loads rest)

/-- `json.loads(line)`. -/
def loadsLine (reading : Reading) (invalid : String → String) (line : String) : Except Exn Json :=
  match loads reading line.toList with
  | some json => .ok json
  | none => .error (.exception (invalid line))

/-- `OllamaAdapter.pull`, over the request and the parser of its reply. -/
def ollamaPull (post : String → Except Exn Response) (loads : String → Except Exn Json)
    (modelId : String) : Generator Exn Json :=
  match post modelId with
  | .error e => .raise e
  | .ok resp =>
    match resp.raiseForStatus with
    | .error e => .raise e
    | .ok _ => parseLines loads resp.iterLines

def ollamaAdapter (isAvailable : Bool) (post : String → Except Exn Response)
    (loads : String → Except Exn Json) : RuntimeAdapter where
  name := "ollama"
  isAvailable := isAvailable
  pull := ollamaPull post loads

/-- `LauncherService.pull`. -/
def launcherPull (adapter : RuntimeAdapter) (modelId : String) : Generator Exn Json :=
  if adapter.isAvailable then adapter.pull modelId
  else .raise (.runtimeUnavailable (adapter.name ++ " runtime is not available"))

def errorEvent (message : String) : Json := .obj [(text "error", .str (text message))]

/-- Of all exceptions the route turns one into a last line. -/
def onException : Exn → Generator Exn (List Char)
  | .runtimeUnavailable message => .yield (line (errorEvent message)) .done
  | e => .raise e

/-- The route's generator. -/
def eventStream (events : Generator Exn Json) : Generator Exn (List Char) :=
  (events.map line).handle onException

/-- What has been sent when the stream ends or breaks off. -/
def streamBody (adapter : RuntimeAdapter) (modelId : String) : List Char :=
  (eventStream (launcherPull adapter modelId)).delivered.flatten

inductive Output
  | print (text : Message)
  | status (status : Json)
  | addTask (key : Text) (total : Json)
  | update (key : Text) (completed : Json)

/-- What is on the screen, and the keys of the progress bars. -/
structure Screen where
  output : List Output := []
  tasks : List Text := []

/-- The terminal may refuse an output, with the message of what it raises. -/
abbrev Display := List Output → Output → Option String

namespace Screen

def display (terminal : Display) (out : Output) (screen : Screen) : Screen × Option Exn :=
  match terminal screen.output out with
  | some message => (screen, some (.exception message))
  | none => ({ screen with output := screen.output ++ [out] }, none)

/-- The next step, unless this one raised. -/
def andThen (ran : Screen × Option Exn) (next : Screen → Screen × Option Exn) :
    Screen × Option Exn :=
  match ran.2 with
  | some e => (ran.1, some e)
  | none => next ran.1

/-- The bar of a layer, created when the layer is first heard of. -/
def progress (terminal : Display) (key : Text) (total completed : Json) (screen : Screen) :
    Screen × Option Exn :=
  if key ∈ screen.tasks then screen.display terminal (.update key completed)
  else andThen (screen.display terminal (.addTask key total)) fun screen =>
    { screen with tasks := key :: screen.tasks }.display terminal (.update key completed)

end Screen

/-- `value or 0`. -/
def orZero (value : Json) : Json :=
  if value.truthy then value else .number ⟨['0'], true, by decide⟩

/-- One turn of the command's loop. -/
def pullEvent (terminal : Display) (screen : Screen) (event : Json) : Screen × Option Exn :=
  match event with
  | .obj fields =>
    let status := (fields.lookup (text "status")).getD (.str [])
    let digest := (fields.lookup (text "digest")).getD .null
    let total := (fields.lookup (text "total")).getD .null
    let completed := (fields.lookup (text "completed")).getD .null
    if digest.truthy && total.truthy then
      match digest with
      | .str digest =>
        screen.progress terminal (digest.take 12) total (orZero completed)
      | _ => (screen, some (.exception "TypeError"))
    else if status.truthy then screen.display terminal (.status status)
    else (screen, none)
  | _ => (screen, some (.exception "AttributeError"))

inductive Exit
  | finished
  | systemExit (code : ℕ)
  | raised (e : Exn)
  deriving DecidableEq

def pullingText (modelId : String) : Message :=
  [.text "Pulling [bold]", .text modelId, .text "[/bold] via Ollama..."]

def unavailableText : Message :=
  [.text ("[red]Ollama doesn't seem to be running[/red] " ++
    "(expected at http://localhost:11434). Install/start it and retry.")]

def doneText (modelId : String) : Message :=
  [.text "[green]Done.[/green] Run it with: llm-max run ", .text modelId]

/-- The command ends with that, unless the terminal refuses the text. -/
def Screen.finish (terminal : Display) (text : Message) (exit : Exit) (screen : Screen) :
    Screen × Exit :=
  let shown := screen.display terminal (.print text)
  match shown.2 with
  | some e => (shown.1, .raised e)
  | none => (shown.1, exit)

/-- The `pull` command. -/
def pullCommand (terminal : Display) (adapter : RuntimeAdapter) (modelId : String) :
    Screen × Exit :=
  let started := Screen.display terminal (.print (pullingText modelId)) {}
  match started.2 with
  | some e => (started.1, .raised e)
  | none =>
    let looped := (launcherPull adapter modelId).forEach (pullEvent terminal) started.1
    match looped.2 with
    | none => looped.1.finish terminal (doneText modelId) .finished
    | some (.runtimeUnavailable _) => looped.1.finish terminal unavailableText (.systemExit 1)
    | some e => (looped.1, .raised e)

end LlmMax.Pull
