import LlmMax.EffectInterrupts
import LlmMax.Operations
import LlmMax.Pull

/-! The `autopilot enable` command, which runs until Ctrl+C, and what an interrupt leaves behind,
at whatever call of whatever operation it comes. -/
namespace LlmMax.AutopilotCommand
open Domain BenchMetrics AutotuneState Storage EffectProgram Services BenchRunner LauncherConfig
open AutotuneDecision AutotuneEngine Operations Pull

/-- The label of an outcome, and its style. -/
def outcomeStyle : TuningOutcome → String × String
  | .acceptedNew => ("Applied new config", "bold green")
  | .keptBaseline => ("Kept existing config", "yellow")
  | .rolledBack => ("Rolled back", "bold red")
  | .locked => ("Locked — skipped", "dim")
  | .rateLimited => ("Rate limited — skipped", "dark_orange")

def sessionText (session : TuningSession) : Message :=
  let (label, style) := outcomeStyle session.outcome
  .text ("[" ++ style ++ "]" ++ label ++ "[/" ++ style ++ "] — ") :: session.reason

def startingText (modelId : String) (interval : ℤ) : Message :=
  [.text "Starting autopilot for [bold]", .text modelId, .text "[/bold] (checking every ",
    .number (some interval), .text "s). Press Ctrl+C to stop.\n"]

def runtimeDownText : Message :=
  [.text "[red]Ollama doesn't seem to be running[/red] (expected at http://localhost:11434)."]

def stoppedText : Message := [.text "\nAutopilot stopped."]

/-- The options of the command. -/
structure EnableOptions where
  modelId : String
  modelSpec : Option ModelSpec := none
  interval : ℤ := 3600
  maxIterations : Option ℤ := none

def EnableOptions.args (options : EnableOptions) : AutopilotArgs where
  modelId := options.modelId
  modelSpec := options.modelSpec
  intervalSeconds := options.interval
  maxIterations := options.maxIterations

/-- The sessions that the loop over the generator has dealt with. -/
def handledSessions {σ : Type} (t : List (Step services Exn σ)) : List TuningSession :=
  t.filterMap fun
    | ⟨_, .yielded session, .ok _⟩ => some session
    | _ => none

/-- How a command ends: what it has shown, its exit, and the state. -/
structure Ended (σ : Type) where
  shown : List Message
  exit : Exit
  state : σ

/-- The `autopilot enable` command, over at most that many sessions. The generator ends after a
locked one, as the loop of the command does. -/
def enable {σ : Type} (H : Handler services Exn σ) (options : EnableOptions) (draws : ℕ) (s : σ) :
    Ended σ :=
  let out := exec H (autopilotLoop options.args draws (.start options.args)) s
  let shown := startingText options.modelId options.interval ::
    (handledSessions out.steps).map sessionText
  match out.result with
  | .ok _ => ⟨shown, .finished, out.state⟩
  | .error (.runtimeUnavailable _) => ⟨shown ++ [runtimeDownText], .systemExit 1, out.state⟩
  | .error .interrupt => ⟨shown ++ [stoppedText], .finished, out.state⟩
  | .error e => ⟨shown, .raised e, out.state⟩

section property
variable {σ : Type} (H : Handler services Exn σ)

/-- The command is stopped at the call of that number of the loop. -/
structure StoppedAt (options : EnableOptions) (draws : ℕ) (s : σ) (late : Bool) (n : ℕ)
    (ended : Ended (σ × ℕ)) : Prop where
  within : n < (exec H (autopilotLoop options.args draws (.start options.args)) s).steps.length
  shown : ended.shown = startingText options.modelId options.interval ::
    (handledSessions
      ((exec H (autopilotLoop options.args draws (.start options.args)) s).steps.take n)).map
        sessionText ++ [stoppedText]
  exit : ended.exit = .finished
  state : (exec H (autopilotLoop options.args draws (.start options.args)) s).passed[
    if late then n + 1 else n]? = some ended.state.1

/-- The command ends as if there were no interrupt. -/
structure Unstopped (options : EnableOptions) (draws : ℕ) (s : σ) (n : ℕ)
    (ended : Ended (σ × ℕ)) : Prop where
  before : (exec H (autopilotLoop options.args draws (.start options.args)) s).steps.length ≤ n
  shown : ended.shown = (enable H options draws s).shown
  exit : ended.exit = (enable H options draws s).exit
  state : ended.state.1 = (enable H options draws s).state

/-- At whatever call an interrupt comes, nothing catches it and no call follows it: every
operation stops in a state that it would have passed through, with the steps it would have made,
and the command shows the sessions up to there and says that it has stopped. -/
structure StopsCleanly (late : Bool) (n : ℕ) : Prop where
  operation : ∀ (operation : Operation) (s : σ),
    CutAt .interrupt late n (exec H operation.program s)
        (exec (interrupting .interrupt late H) operation.program (s, n)) ∨
      Uncut n (exec H operation.program s)
        (exec (interrupting .interrupt late H) operation.program (s, n))
  command : ∀ (options : EnableOptions) (draws : ℕ) (s : σ),
    StoppedAt H options draws s late n
        (enable (interrupting .interrupt late H) options draws (s, n)) ∨
      Unstopped H options draws s n
        (enable (interrupting .interrupt late H) options draws (s, n))

end property

section transparent

lemma runPrompts_transparent (modelId : String) (options : Option Config) (prompts : List String)
    (latencies rates : List ℚ) (attempted : ℕ) :
    Transparent .interrupt (runPrompts modelId options prompts latencies rates attempted) := by
  induction prompts generalizing latencies rates attempted with
  | nil => exact transparent_lift _
  | cons prompt prompts ih =>
    refine transparent_attempt_bind (I := services) rfl fun r => ?_
    cases r with
    | ok result => exact ih _ _ _
    | error exc => cases exc <;> trivial

lemma logEvent_transparent (modelId eventType : String) (details : List (String × Detail)) :
    Transparent .interrupt (logEvent modelId eventType details) := by
  refine transparent_attempt_bind (I := services) rfl fun r => ?_
  cases r with
  | ok _ => trivial
  | error exc => cases exc <;> trivial

lemma call_transparent (c : Call) :
    Transparent .interrupt (Program.perform (I := services) (ε := Exn) c) :=
  transparent_perform (I := services) c

lemma requireRuntime_transparent : Transparent .interrupt requireRuntime := by
  apply (call_transparent .isAvailable).bind
  intro available
  split_ifs
  · trivial
  · exact (call_transparent .adapterName).bind fun _ => transparent_raise _

lemma measure_transparent (modelId : String) (config : Config) :
    Transparent .interrupt (measure modelId config) := by
  apply (runPrompts_transparent _ _ _ _ _ _).bind
  intro benchmark
  exact (call_transparent (.measured benchmark)).bind fun _ => transparent_pure _

lemma measureCandidates_transparent (modelId : String) (baseline : TuningCandidateResult)
    (configs : List Config) :
    Transparent .interrupt (measureCandidates modelId baseline configs) := by
  induction configs with
  | nil => trivial
  | cons config configs ih =>
    unfold measureCandidates
    split_ifs
    · exact ih.bind fun _ => transparent_pure _
    · apply (measure_transparent modelId config).bind
      intro benchmark
      exact ih.bind fun _ => transparent_pure _

lemma tuneOnce_transparent (modelId : String) (modelSpec : Option ModelSpec)
    (baselineConfig : Option Config) :
    Transparent .interrupt (tuneOnce modelId modelSpec baselineConfig) := by
  apply requireRuntime_transparent.bind
  intro _
  have hbaseline : Transparent .interrupt (baselineOr modelSpec baselineConfig) := by
    cases baselineConfig with
    | some config => trivial
    | none =>
      cases modelSpec with
      | none => trivial
      | some model => exact (call_transparent .scanHardware).bind fun _ => transparent_pure _
  apply hbaseline.bind
  intro config
  apply (measure_transparent modelId config).bind
  intro benchmark
  apply (transparent_lift (generateCandidates config)).bind
  intro configs
  exact (measureCandidates_transparent _ _ configs).bind fun _ => transparent_pure _

lemma apply_transparent (session : TuningSession) : Transparent .interrupt (apply session) := by
  apply (call_transparent _).bind
  intro saved
  exact (logEvent_transparent _ _ _).bind fun _ => transparent_pure _

lemma rateLimited_transparent (cap : Option ℤ) (timestamps : List ℚ) :
    Transparent .interrupt (rateLimited cap timestamps) := by
  cases cap with
  | none => trivial
  | some limit => exact (call_transparent .now).bind fun _ => transparent_pure _

lemma tuneForward_transparent (args : AutopilotArgs) (l : LoopState)
    (baselineConfig : Option Config) :
    Transparent .interrupt (tuneForward args l baselineConfig) := by
  apply (tuneOnce_transparent _ _ _).bind
  intro session
  split_ifs
  · apply (rateLimited_transparent _ _).bind
    intro limited
    split_ifs
    · exact (logEvent_transparent _ _ _).bind fun _ => transparent_pure _
    · apply (apply_transparent session).bind
      intro _
      exact (call_transparent .now).bind fun _ => transparent_pure _
  · trivial

lemma iterate_transparent (args : AutopilotArgs) (l : LoopState) :
    Transparent .interrupt (iterate args l) := by
  apply (call_transparent _).bind
  intro existing
  cases existing with
  | none => exact tuneForward_transparent args l none
  | some existing =>
    dsimp only
    split_ifs
    · exact (logEvent_transparent _ _ _).bind fun _ => transparent_pure _
    · have hactive : Transparent .interrupt (checkActive args l existing.config) := by
        unfold checkActive
        split_ifs
        · trivial
        · apply (measure_transparent _ _).bind
          intro benchmark
          dsimp only
          split_ifs <;> trivial
      apply hactive.bind
      intro revert
      cases revert with
      | none => exact tuneForward_transparent args l _
      | some r =>
        apply (call_transparent _).bind
        intro _
        apply (call_transparent .now).bind
        intro time
        exact (logEvent_transparent _ _ _).bind fun _ => transparent_pure _

lemma autopilotLoop_transparent (args : AutopilotArgs) (draws : ℕ) (l : LoopState) :
    Transparent .interrupt (autopilotLoop args draws l) := by
  induction draws generalizing l with
  | zero => trivial
  | succ draws ih =>
    unfold autopilotLoop
    split_ifs
    · apply (iterate_transparent args l).bind
      rintro ⟨session, l'⟩
      apply (call_transparent _).bind
      intro _
      split_ifs
      · trivial
      · have hadvance : Transparent .interrupt (advance args l') := by
          unfold advance
          dsimp only
          split_ifs
          · exact (call_transparent _).bind fun _ => transparent_pure _
          · trivial
        exact hadvance.bind ih
    · trivial

lemma run_transparent (modelId prompt : String) (modelSpec : Option ModelSpec) :
    Transparent .interrupt (LauncherService.run modelId prompt modelSpec) := by
  apply requireRuntime_transparent.bind
  intro _
  have hoptions : Transparent .interrupt (LauncherService.runOptions modelSpec) := by
    cases modelSpec with
    | none => trivial
    | some model => exact (call_transparent .scanHardware).bind fun _ => transparent_pure _
  apply hoptions.bind
  intro options
  apply (call_transparent _).bind
  intro result
  apply (call_transparent .adapterName).bind
  intro runtime
  exact (call_transparent _).bind fun _ => transparent_pure _

/-- No operation catches an interrupt. -/
lemma operation_transparent (operation : Operation) :
    Transparent .interrupt operation.program := by
  cases operation with
  | tune modelId modelSpec dryRun =>
    have htune : Transparent .interrupt (Operations.tune modelId modelSpec dryRun) := by
      apply (tuneOnce_transparent _ _ _).bind
      intro session
      split_ifs
      · exact (apply_transparent session).bind fun _ => transparent_pure _
      · trivial
    exact htune.bind fun _ => transparent_pure _
  | run modelId prompt modelSpec =>
    exact (run_transparent _ _ _).bind fun _ => transparent_pure _
  | pass args l => exact (iterate_transparent args l).bind fun _ => transparent_pure _
  | autopilot args more => exact autopilotLoop_transparent args (more + 1) (.start args)
  | disable modelId =>
    have hdisable : Transparent .interrupt (autopilotDisable modelId) := by
      apply (call_transparent _).bind
      intro existing
      cases existing with
      | none => trivial
      | some _ => exact (call_transparent _).bind fun _ => transparent_pure _
    exact hdisable.bind fun _ => transparent_pure _

end transparent

section command
variable {σ : Type} {H : Handler services Exn σ} {late : Bool} {n : ℕ}

lemma handledSessions_forget (t : List (Step services Exn (σ × ℕ))) :
    handledSessions (t.map Step.forget) = handledSessions t := by
  unfold handledSessions
  rw [List.filterMap_map]
  apply List.filterMap_congr
  rintro ⟨before, call, reply⟩ _
  cases call with
  | yielded session => cases reply <;> rfl
  | _ => rfl

lemma handledSessions_cut (t : List (Step services Exn σ)) (s : σ) (c : Call) :
    handledSessions (t ++ [⟨s, c, .error .interrupt⟩]) = handledSessions t := by
  unfold handledSessions
  rw [List.filterMap_append]
  cases c <;> simp

lemma enable_interrupted (options : EnableOptions) (draws : ℕ) (s : σ) :
    StoppedAt H options draws s late n
        (enable (interrupting .interrupt late H) options draws (s, n)) ∨
      Unstopped H options draws s n
        (enable (interrupting .interrupt late H) options draws (s, n)) := by
  have hloop := exec_interrupting H late
    (autopilotLoop_transparent options.args draws (.start options.args)) s n
  unfold enable
  rcases hloop with hcut | huncut
  · left
    obtain ⟨x, hx, hsteps⟩ := hcut.steps
    have hshown := congrArg handledSessions hsteps
    rw [handledSessions_forget, handledSessions_cut] at hshown
    simp only [hcut.result, hshown]
    refine ⟨?_, rfl, rfl, hcut.state⟩
    exact (List.getElem?_eq_some_iff.mp hx).1
  · right
    have hshown := congrArg handledSessions huncut.steps
    rw [handledSessions_forget] at hshown
    refine ⟨huncut.before, ?_, ?_, ?_⟩
    all_goals
      unfold enable
      simp only [huncut.result, hshown]
      split <;> first | rfl | exact huncut.state

end command

theorem interrupts_stop {σ : Type} (H : Handler services Exn σ) (late : Bool) (n : ℕ) :
    StopsCleanly H late n where
  operation := fun operation s => exec_interrupting H late (operation_transparent operation) s n
  command := enable_interrupted

end LlmMax.AutopilotCommand
