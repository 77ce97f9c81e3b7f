import LlmMax.JsonSound
import LlmMax.Pull

/-! Which failures of a pull reach the reader of the stream and of the command. -/
namespace LlmMax.PullFailures
open Domain BenchMetrics Generators Generators.Generator JsonText JsonParser JsonRoundTrip JsonSound
  Pull

variable (adapter : RuntimeAdapter) (modelId : String)

/-- What the adapter gets to deliver. -/
def deliveredEvents : List Json := (launcherPull adapter modelId).delivered

/-- An event that says the pull has failed. -/
def ReportsError (event : Json) : Prop := ∃ error, event.get (text "error") = some error

/-- The runtime is not there, or raises, or reports an error among the events. -/
inductive Failed : Prop
  | unavailable (h : adapter.isAvailable = false)
  | raised (e : Exn) (available : adapter.isAvailable) (h : (adapter.pull modelId).failure = some e)
  | reported (event : Json) (available : adapter.isAvailable)
      (h : event ∈ (adapter.pull modelId).delivered) (error : ReportsError event)

/-- Each event is a line of the stream, an error line follows if the pull failed, and the
command says it is done only if it did not. -/
structure Surfaces (terminal : Display) : Prop where
  failed_stream : Failed adapter modelId → ∃ message, lines (streamBody adapter modelId) =
    (deliveredEvents adapter modelId ++ [errorEvent message]).map dumps
  stream : ¬ Failed adapter modelId →
    lines (streamBody adapter modelId) = (deliveredEvents adapter modelId).map dumps
  command : Output.print (doneText modelId) ∈ (pullCommand terminal adapter modelId).1.output →
    ¬ Failed adapter modelId

/-- The last thing the launcher's generator does is what the front ends look for. -/
def Expected : Prop :=
  adapter.isAvailable = false ∨
    (∃ message, (adapter.pull modelId).failure = some (.runtimeUnavailable message)) ∨
    (adapter.pull modelId).failure = none ∧
      ∀ event ∈ (adapter.pull modelId).delivered, ¬ ReportsError event

variable {adapter modelId}

/-- What the stream sends after the events, by how they ended. -/
def errorLines : Option Exn → List Json
  | some (.runtimeUnavailable message) => [errorEvent message]
  | _ => []

lemma delivered_eventStream (events : Generator Exn Json) :
    (eventStream events).delivered =
      (events.delivered ++ errorLines events.failure).map line := by
  rw [eventStream, delivered_handle, delivered_map, failure_map, List.map_append]
  congr 1
  rcases events.failure with _ | e
  · rfl
  · cases e <;> rfl

lemma lines_streamBody (adapter : RuntimeAdapter) (modelId : String) :
    lines (streamBody adapter modelId) = (deliveredEvents adapter modelId ++
      errorLines (launcherPull adapter modelId).failure).map dumps := by
  rw [streamBody, delivered_eventStream, ← List.flatMap_def, lines_flatMap_line, deliveredEvents]

lemma launcherPull_available (modelId : String) (h : adapter.isAvailable) :
    launcherPull adapter modelId = adapter.pull modelId := by
  simp [launcherPull, h]

lemma launcherPull_unavailable (modelId : String) (h : adapter.isAvailable = false) :
    launcherPull adapter modelId =
      .raise (.runtimeUnavailable (adapter.name ++ " runtime is not available")) := by
  simp [launcherPull, h]

/-- The command has not said that it is done. -/
def Unfinished (modelId : String) (screen : Screen) : Prop :=
  Output.print (doneText modelId) ∉ screen.output

lemma display_unfinished {terminal : Display} {out : Output} {screen : Screen}
    (hout : out ≠ .print (doneText modelId)) (h : Unfinished modelId screen) :
    Unfinished modelId (screen.display terminal out).1 := by
  unfold Screen.display
  split
  · exact h
  · simpa [Unfinished, hout.symm] using h

lemma progress_unfinished {terminal : Display} {key : Text} {total completed : Json}
    {screen : Screen} (h : Unfinished modelId screen) :
    Unfinished modelId (screen.progress terminal key total completed).1 := by
  unfold Screen.progress
  split_ifs
  · exact display_unfinished (by simp) h
  · have hbar : Unfinished modelId (screen.display terminal (.addTask key total)).1 :=
      display_unfinished (by simp) h
    unfold Screen.andThen
    split
    · exact hbar
    · exact display_unfinished (by simp) hbar

lemma pullEvent_unfinished (terminal : Display) (screen : Screen) (event : Json)
    (h : Unfinished modelId screen) : Unfinished modelId (pullEvent terminal screen event).1 := by
  unfold pullEvent
  split
  · dsimp only
    split_ifs
    · split
      · exact progress_unfinished h
      · exact h
    · exact display_unfinished (by simp) h
    · exact h
  · exact h

lemma finish_output {terminal : Display} {text : Message} {exit : Exit} {screen : Screen} :
    (screen.finish terminal text exit).1 = (screen.display terminal (.print text)).1 := by
  unfold Screen.finish
  dsimp only
  split <;> rfl

/-- The command says that it is done only after the whole pull, of which nothing was raised. -/
lemma failure_of_done {terminal : Display}
    (h : Output.print (doneText modelId) ∈ (pullCommand terminal adapter modelId).1.output) :
    (launcherPull adapter modelId).failure = none := by
  have hstart : Unfinished modelId (Screen.display terminal (.print (pullingText modelId)) {}).1 :=
    display_unfinished (by simp [pullingText, doneText]) (by simp [Unfinished])
  have hloop := forEach_keeps (pullEvent_unfinished terminal)
    (launcherPull adapter modelId) hstart
  unfold pullCommand at h
  dsimp only at h
  split at h
  · exact absurd h hstart
  · split at h
    next hnone => exact failure_of_forEach hnone
    · rw [finish_output] at h
      exact absurd h (display_unfinished (by simp [unavailableText, doneText]) hloop)
    · exact absurd h hloop

lemma failed_of_failure {e : Exn} (h : (launcherPull adapter modelId).failure = some e) :
    Failed adapter modelId := by
  cases havailable : adapter.isAvailable with
  | false => exact .unavailable havailable
  | true =>
    rw [launcherPull_available modelId havailable] at h
    exact .raised e havailable h

lemma surfaces_of_unavailable {message : String}
    (h : (launcherPull adapter modelId).failure = some (.runtimeUnavailable message))
    (terminal : Display) : Surfaces adapter modelId terminal where
  failed_stream := by
    intro _
    exact ⟨message, by rw [lines_streamBody, h]; rfl⟩
  stream := by
    intro hnot
    exact absurd (failed_of_failure h) hnot
  command := by
    intro hdone
    rw [failure_of_done hdone] at h
    cases h

lemma surfaces_of_success (hnot : ¬ Failed adapter modelId) (terminal : Display) :
    Surfaces adapter modelId terminal where
  failed_stream := by
    intro hfailed
    exact absurd hfailed hnot
  stream := by
    intro _
    cases hfailure : (launcherPull adapter modelId).failure with
    | none => simp [lines_streamBody, hfailure, errorLines]
    | some e => exact absurd (failed_of_failure hfailure) hnot
  command := by
    intro _
    exact hnot

/-- Without the last line the stream of a failed pull is one line short. -/
lemma not_surfaces (terminal : Display) (hfailed : Failed adapter modelId)
    (hsilent : errorLines (launcherPull adapter modelId).failure = []) :
    ¬ Surfaces adapter modelId terminal := by
  intro h
  obtain ⟨message, hlines⟩ := h.failed_stream hfailed
  rw [lines_streamBody, hsilent] at hlines
  simpa using congrArg List.length hlines

lemma failed_iff_reported (havailable : adapter.isAvailable)
    (h : (adapter.pull modelId).failure = none) : Failed adapter modelId ↔
      ∃ event ∈ (adapter.pull modelId).delivered, ReportsError event := by
  constructor
  · intro hfailed
    cases hfailed with
    | unavailable hnot => simp [havailable] at hnot
    | raised e _ hraised => simp [h] at hraised
    | reported event _ hmem herror => exact ⟨event, hmem, herror⟩
  · intro hreported
    obtain ⟨event, hmem, herror⟩ := hreported
    exact .reported event havailable hmem herror

/-- A pull surfaces its failure exactly if it ends as the front ends expect. -/
theorem surfaces_iff (terminal : Display) (adapter : RuntimeAdapter) (modelId : String) :
    Surfaces adapter modelId terminal ↔ Expected adapter modelId := by
  cases havailable : adapter.isAvailable with
  | false =>
    have hpull := launcherPull_unavailable modelId havailable
    have hsurfaces := surfaces_of_unavailable (by rw [hpull]; rfl) terminal
    exact iff_of_true hsurfaces (.inl havailable)
  | true =>
    have hpull := launcherPull_available modelId havailable
    unfold Expected
    simp only [havailable, Bool.true_eq_false, false_or]
    cases hfailure : (adapter.pull modelId).failure with
    | none =>
      have hsilent : errorLines (launcherPull adapter modelId).failure = [] := by
        rw [hpull, hfailure]
        rfl
      have hreported := failed_iff_reported havailable hfailure
      constructor
      · intro hsurfaces
        refine .inr ⟨rfl, ?_⟩
        intro event hmem herror
        exact not_surfaces terminal (hreported.mpr ⟨event, hmem, herror⟩) hsilent hsurfaces
      · intro hexpected
        apply surfaces_of_success
        intro hfailed
        obtain ⟨event, hmem, herror⟩ := hreported.mp hfailed
        rcases hexpected with ⟨message, hmessage⟩ | ⟨-, hquiet⟩
        · cases hmessage
        · exact hquiet event hmem herror
    | some e =>
      have hraised : (launcherPull adapter modelId).failure = some e := hpull ▸ hfailure
      have hfailed := failed_of_failure hraised
      cases e with
      | runtimeUnavailable message =>
        exact iff_of_true (surfaces_of_unavailable hraised terminal) (.inl ⟨message, rfl⟩)
      | exception message =>
        exact iff_of_false (not_surfaces terminal hfailed (by rw [hraised]; rfl)) (by simp)
      | interrupt =>
        exact iff_of_false (not_surfaces terminal hfailed (by rw [hraised]; rfl)) (by simp)

/-- What the runtime says of a model that it cannot find. -/
def manifestLine : String :=
  "\x7b\x22error\x22:\x22pull model manifest: file does not exist\x22\x7d"

/-- The runtime streams one line, which says that the pull has failed. -/
def reporting : RuntimeAdapter :=
  ollamaAdapter true (fun _ => .ok ⟨.ok (), .yield manifestLine .done⟩)
    (loadsLine (verbatim 0) fun line => line)

lemma errorEvent_wellFormed (reading : Reading) (message : String) :
    WellFormed reading 0 (errorEvent message) :=
  ⟨reading.outermost, List.nodup_singleton _, joined_text _, joined_text _, trivial⟩

lemma loads_manifestLine : loads (verbatim 0) manifestLine.toList =
    some (errorEvent "pull model manifest: file does not exist") := by
  have hdumps : (loads (verbatim 0) manifestLine.toList).map dumps =
      some (dumps (errorEvent "pull model manifest: file does not exist")) := by decide +kernel
  obtain ⟨event, hloads, hevent⟩ := Option.map_eq_some_iff.mp hdumps
  rw [hloads, dumps_inj (loads_wellFormed hloads) (errorEvent_wellFormed _ _) hevent]

lemma pull_reporting (modelId : String) : reporting.pull modelId =
    .yield (errorEvent "pull model manifest: file does not exist") .done := by
  have hline : manifestLine ≠ "" := by decide
  simp only [reporting, ollamaAdapter, ollamaPull, parseLines, hline, if_false, loadsLine,
    loads_manifestLine]

lemma reporting_failed : Failed reporting "llama3" := by
  refine .reported (errorEvent "pull model manifest: file does not exist") rfl ?_ ⟨_, rfl⟩
  rw [pull_reporting]
  exact List.mem_cons_self

/-- The command passes over an event that has an error and nothing else. -/
lemma pullEvent_error (terminal : Display) (screen : Screen) (message : String) :
    pullEvent terminal screen (errorEvent message) = (screen, none) := by
  have hstatus : (text "status" == text "error") = false := by decide
  have hdigest : (text "digest" == text "error") = false := by decide
  simp [pullEvent, errorEvent, List.lookup_cons, hstatus, hdigest, Json.truthy]

/-- The stream ends with the event, and the command says that it is done. -/
theorem done_of_failed : ¬ ∀ (terminal : Display) (adapter : RuntimeAdapter) (modelId : String),
    Surfaces adapter modelId terminal := by
  intro h
  have hpull : launcherPull reporting "llama3" =
      .yield (errorEvent "pull model manifest: file does not exist") .done := by
    rw [launcherPull_available "llama3" rfl, pull_reporting]
  have hdone : Output.print (doneText "llama3") ∈
      (pullCommand (fun _ _ => none) reporting "llama3").1.output := by
    simp [pullCommand, hpull, forEach, pullEvent_error, Screen.display, Screen.finish]
  exact (h (fun _ _ => none) reporting "llama3").command hdone reporting_failed

end LlmMax.PullFailures
