import LlmMax.PullFailures

/-! From the reply of the runtime to the reader of the daemon's stream. -/
namespace LlmMax.PullRelay
open Domain BenchMetrics Generators Generators.Generator JsonText JsonParser JsonRoundTrip JsonSound
  Pull PullFailures

variable (reading : Reading) (invalid : String → String)

/-- What the reader of the stream reads, line by line. -/
def received (body : List Char) : List (Option Json) := (lines body).map (loads reading)

/-- The lines of the reply that are not empty, of the pull that was asked for. -/
def replyLines (isAvailable : Bool) (post : String → Except Exn Response) (modelId : String) :
    List String :=
  match isAvailable, post modelId with
  | true, .ok resp =>
    match resp.raiseForStatus with
    | .ok _ => resp.iterLines.delivered.filter (· ≠ "")
    | .error _ => []
  | _, _ => []

/-- What the runtime says, line by line. -/
def sent (isAvailable : Bool) (post : String → Except Exn Response) (modelId : String) :
    List (Option Json) :=
  (replyLines isAvailable post modelId).map fun line => loads reading line.toList

variable {reading invalid}

section parsing

lemma loadsLine_eq_ok {line : String} {json : Json} :
    loadsLine reading invalid line = .ok json ↔ loads reading line.toList = some json := by
  unfold loadsLine
  split <;> simp_all

/-- The events are those of the lines up to the first that is none. -/
lemma delivered_parseLines (ls : Generator Exn String) :
    (parseLines (loadsLine reading invalid) ls).delivered.map some =
      ((ls.delivered.filter (· ≠ "")).map fun line => loads reading line.toList).takeWhile
        Option.isSome := by
  induction ls with
  | done => rfl
  | raise e => rfl
  | yield line rest ih =>
    rw [parseLines, delivered]
    split_ifs with hempty
    · rw [ih, List.filter_cons_of_neg (by simpa using hempty)]
    · rw [List.filter_cons_of_pos (by simpa using hempty), List.map_cons]
      cases hline : loads reading line.toList with
      | none => simp [loadsLine, hline, delivered]
      | some event => simp [loadsLine, hline, delivered, ih]

lemma failure_parseLines (ls : Generator Exn String) :
    (parseLines (loadsLine reading invalid) ls).failure = none ↔
      ls.failure = none ∧ ∀ line ∈ ls.delivered.filter (· ≠ ""),
        (loads reading line.toList).isSome := by
  induction ls with
  | done => simp [parseLines, Generator.failure, delivered]
  | raise e => simp [parseLines, Generator.failure]
  | yield line rest ih =>
    rw [parseLines, delivered, Generator.failure]
    split_ifs with hempty
    · rw [ih, List.filter_cons_of_neg (by simpa using hempty)]
    · rw [List.filter_cons_of_pos (by simpa using hempty), List.forall_mem_cons]
      cases hline : loads reading line.toList with
      | none => simp [loadsLine, hline, Generator.failure]
      | some event => simp only [loadsLine, hline, Generator.failure, ih, Option.isSome_some,
          true_and]

lemma parseLines_wellFormed (ls : Generator Exn String) :
    ∀ event ∈ (parseLines (loadsLine reading invalid) ls).delivered, WellFormed reading 0 event := by
  induction ls with
  | done => simp [parseLines, delivered]
  | raise e => simp [parseLines, delivered]
  | yield line rest ih =>
    rw [parseLines]
    split_ifs
    · exact ih
    · cases hline : loadsLine reading invalid line with
      | error e => simp [delivered]
      | ok event => exact List.forall_mem_cons.mpr ⟨loads_wellFormed (loadsLine_eq_ok.mp hline), ih⟩

end parsing

section relay
variable {isAvailable : Bool} {post : String → Except Exn Response} {modelId : String}

/-- There is a reply to read, to a request that was made. -/
inductive Replied (isAvailable : Bool) (post : String → Except Exn Response) (modelId : String)
    (ls : Generator Exn String) : Prop
  | ok (available : isAvailable) (resp : Response) (posted : post modelId = .ok resp)
      (status : resp.raiseForStatus = .ok ()) (reply : resp.iterLines = ls)

lemma launcherPull_replied {ls : Generator Exn String}
    (h : Replied isAvailable post modelId ls) :
    launcherPull (ollamaAdapter isAvailable post (loadsLine reading invalid)) modelId =
      parseLines (loadsLine reading invalid) ls ∧
    replyLines isAvailable post modelId = ls.delivered.filter (· ≠ "") := by
  obtain ⟨rfl, resp, hposted, hstatus, rfl⟩ := h
  simp [launcherPull, ollamaAdapter, ollamaPull, replyLines, hposted, hstatus]

variable (reading invalid) in
lemma launcherPull_silent (h : ¬ ∃ ls, Replied isAvailable post modelId ls) :
    (∃ e, launcherPull (ollamaAdapter isAvailable post (loadsLine reading invalid)) modelId =
      .raise e) ∧ replyLines isAvailable post modelId = [] := by
  cases isAvailable with
  | false => exact ⟨⟨_, rfl⟩, by simp [replyLines]⟩
  | true =>
    cases hposted : post modelId with
    | error e => simp [launcherPull, ollamaAdapter, ollamaPull, replyLines, hposted]
    | ok resp =>
      cases hstatus : resp.raiseForStatus with
      | error e => simp [launcherPull, ollamaAdapter, ollamaPull, replyLines, hposted, hstatus]
      | ok _ => exact absurd ⟨_, .ok rfl resp hposted hstatus rfl⟩ h

lemma delivered_wellFormed : ∀ event ∈ deliveredEvents
    (ollamaAdapter isAvailable post (loadsLine reading invalid)) modelId,
      WellFormed reading 0 event := by
  unfold deliveredEvents
  by_cases h : ∃ ls, Replied isAvailable post modelId ls
  · obtain ⟨ls, hreplied⟩ := h
    rw [(launcherPull_replied hreplied).1]
    exact parseLines_wellFormed ls
  · obtain ⟨⟨e, hpull⟩, -⟩ := launcherPull_silent reading invalid h
    rw [hpull]
    rintro event ⟨⟩

lemma delivered_eq_sent : (deliveredEvents
    (ollamaAdapter isAvailable post (loadsLine reading invalid)) modelId).map some =
      (sent reading isAvailable post modelId).takeWhile Option.isSome := by
  unfold deliveredEvents sent
  by_cases h : ∃ ls, Replied isAvailable post modelId ls
  · obtain ⟨ls, hreplied⟩ := h
    obtain ⟨hpull, hreply⟩ := launcherPull_replied hreplied
    rw [hpull, hreply]
    exact delivered_parseLines ls
  · obtain ⟨⟨e, hpull⟩, hreply⟩ := launcherPull_silent reading invalid h
    rw [hpull, hreply]
    rfl

lemma failure_eq_none : (launcherPull
    (ollamaAdapter isAvailable post (loadsLine reading invalid)) modelId).failure = none ↔
      ∃ ls, Replied isAvailable post modelId ls ∧ ls.failure = none ∧
        ∀ document ∈ sent reading isAvailable post modelId, document.isSome := by
  unfold sent
  rw [List.forall_mem_map]
  by_cases h : ∃ ls, Replied isAvailable post modelId ls
  · obtain ⟨ls, hreplied⟩ := h
    obtain ⟨hpull, hreply⟩ := launcherPull_replied hreplied
    rw [hpull, hreply, failure_parseLines]
    constructor
    · rintro ⟨hfailure, hlines⟩
      exact ⟨ls, hreplied, hfailure, hlines⟩
    · rintro ⟨ls', hreplied', hfailure, hlines⟩
      obtain ⟨-, resp, hposted, -, rfl⟩ := hreplied
      obtain ⟨-, resp', hposted', -, rfl⟩ := hreplied'
      obtain rfl : resp = resp' := Except.ok.inj (hposted.symm.trans hposted')
      exact ⟨hfailure, hlines⟩
  · obtain ⟨⟨e, hpull⟩, -⟩ := launcherPull_silent reading invalid h
    rw [hpull]
    constructor
    · rintro ⟨⟩
    · rintro ⟨ls, hreplied, -⟩
      exact absurd ⟨ls, hreplied⟩ h

lemma errorLines_wellFormed (raised : Option Exn) :
    ∀ event ∈ errorLines raised, WellFormed reading 0 event := by
  unfold errorLines
  split
  · simpa using errorEvent_wellFormed reading _
  · simp

/-- Well formed documents arrive. -/
lemma loads_lines {docs : List Json} (h : ∀ doc ∈ docs, WellFormed reading 0 doc) :
    (docs.map dumps).map (loads reading) = docs.map some := by
  rw [List.map_map]
  exact List.map_congr_left fun doc hdoc => loads_dumps (h doc hdoc)

end relay

/-- The reader is handed what the runtime said, up to the first line that is no JSON, and then
the error line, if there is one; nothing is raised only if all was said and all of it was JSON. -/
structure Relays (reading : Reading) (invalid : String → String) (isAvailable : Bool)
    (post : String → Except Exn Response) (modelId : String) : Prop where
  handed :
    let adapter := ollamaAdapter isAvailable post (loadsLine reading invalid)
    received reading (streamBody adapter modelId) =
      (sent reading isAvailable post modelId).takeWhile Option.isSome ++
        (errorLines (launcherPull adapter modelId).failure).map some
  complete : (launcherPull
    (ollamaAdapter isAvailable post (loadsLine reading invalid)) modelId).failure = none ↔
      ∃ ls, Replied isAvailable post modelId ls ∧ ls.failure = none ∧
        ∀ document ∈ sent reading isAvailable post modelId, document.isSome

theorem stream_relays (reading : Reading) (invalid : String → String) (isAvailable : Bool)
    (post : String → Except Exn Response) (modelId : String) :
    Relays reading invalid isAvailable post modelId where
  handed := by
    intro adapter
    have hwell : ∀ event ∈ deliveredEvents adapter modelId ++
        errorLines (launcherPull adapter modelId).failure, WellFormed reading 0 event :=
      List.forall_mem_append.mpr ⟨delivered_wellFormed, errorLines_wellFormed _⟩
    have hevents := loads_lines hwell
    rw [received, lines_streamBody, hevents, List.map_append, delivered_eq_sent]
  complete := failure_eq_none

end LlmMax.PullRelay
