import LlmMax.Rounding

/-! The adapter for Ollama's REST API: whether the server is there, and the figures of a run. -/
namespace LlmMax.OllamaAdapter
open Domain BenchMetrics Services Rounding

/-- The payload of `POST /api/generate`. -/
structure GenerateRequest where
  model : String
  prompt : String
  stream : Bool := false
  options : Option Config := none

/-- The reply, as far as the adapter reads it; durations are in nanoseconds. -/
structure GenerateReply where
  response : Option String := none
  evalCount : Option ℕ := none
  evalDuration : Option ℕ := none
  raw : String := ""

structure Response where
  raiseForStatus : Except Exn Unit
  json : Except Exn GenerateReply

inductive GetError
  | requestException
  | other (exc : Exn)

/-- The server and the clock, with any behaviour over any state. -/
structure Ollama (W : Type) where
  /-- The status code of `GET /api/tags`. -/
  tags : W → Except GetError ℕ × W
  generate : GenerateRequest → W → Except Exn Response × W
  perfCounter : W → ℚ

variable {W : Type}

def isAvailable (server : Ollama W) (w : W) : Except Exn Bool × W :=
  let out := server.tags w
  (match out.1 with
    | .ok status => .ok (status == 200)
    | .error .requestException => .ok false
    | .error (.other exc) => .error exc, out.2)

/-- Tokens per second, if the reply says how long they took. -/
def tokensPerSec (reply : GenerateReply) : Option ℚ :=
  let evalCount := reply.evalCount.getD 0
  let evalDuration := reply.evalDuration.getD 0
  if evalDuration = 0 then none else some (evalCount / (evalDuration / 10 ^ 9))

/-- The result of a run: a rate of zero is left out, and the others are rounded. -/
def figures (elapsed : ℚ) (reply : GenerateReply) : RunResult where
  response := reply.response.getD ""
  totalDurationS := roundTo 3 elapsed
  tokensGenerated := reply.evalCount.getD 0
  tokensPerSec := (tokensPerSec reply).bind fun rate =>
    if rate = 0 then none else some (roundTo 2 rate)
  raw := reply.raw

/-- The run of a prompt, with what is made of the time it took and of the reply. -/
def run (report : ℚ → GenerateReply → RunResult) (server : Ollama W) (modelId prompt : String)
    (options : Option Config) (w : W) : Except Exn RunResult × W :=
  let out := server.generate
    { model := modelId, prompt := prompt, options := options.bind Config.orNone } w
  let elapsed := server.perfCounter out.2 - server.perfCounter w
  (do
    let resp ← out.1
    resp.raiseForStatus
    let data ← resp.json
    return report elapsed data, out.2)

/-- A machine whose runtime is the server. -/
def environment (report : ℚ → GenerateReply → RunResult) (server : Ollama W)
    (machine : Environment W) : Environment W :=
  { machine with
    name := "ollama"
    isAvailable := isAvailable server
    run := run report server }

/-- The same figures before they are rounded. A rate that would be rounded to zero is left out as
well. -/
def unrounded (elapsed : ℚ) (reply : GenerateReply) : RunResult where
  response := reply.response.getD ""
  totalDurationS := elapsed
  tokensGenerated := reply.evalCount.getD 0
  tokensPerSec := (tokensPerSec reply).bind fun rate =>
    if roundTo 2 rate = 0 then none else some rate
  raw := reply.raw

lemma tokensPerSec_nonneg {reply : GenerateReply} {rate : ℚ} (h : tokensPerSec reply = some rate) :
    0 ≤ rate := by
  unfold tokensPerSec at h
  dsimp only at h
  split_ifs at h
  cases h
  positivity

end LlmMax.OllamaAdapter
