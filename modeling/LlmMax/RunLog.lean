import LlmMax.AutopilotProtocol
import LlmMax.EffectSchedules
import LlmMax.FallbackLock

/-! The log of runs while requests and autopilots take turns call by call and MySQL comes and goes:
each run that gets through is put down once, in the store that served its save. -/
namespace LlmMax.RunLog
open Domain BenchMetrics AutotuneState Storage EffectProgram EffectThreads EffectSchedules Services
open SqlTable SqlStorage TunedHistory SqlFallback FallbackLock History AutotuneEngine AutotuneSpec
open AutopilotPass AutopilotRun AutopilotProtocol Operations

variable {W : Type}

abbrev LogEvent (W : Type) := Event services Exn (Deployment W)

def recordOf (modelId prompt runtime : String) (result : RunResult) : RunRecord where
  modelId := modelId
  runtime := runtime
  prompt := prompt
  tokensGenerated := result.tokensGenerated
  totalDurationS := result.totalDurationS
  tokensPerSec := result.tokensPerSec

/-- The event saves that record of a run. -/
def Saves (record : RunRecord) (e : LogEvent W) : Prop := e.step.call = .storage (.saveRun record)

/-- The runtime answers the prompt. -/
def Answered (modelId prompt : String) (result : RunResult) (e : LogEvent W) : Prop :=
  ∃ before options, e.step = ⟨before, .adapterRun modelId prompt options, .ok result⟩

/-- The time and the columns that an event puts down in the log of that store. -/
def putDown (side : Side) (e : LogEvent W) : Option (String × RunColumns) :=
  match e.step.call with
  | .storage (.saveRun record) =>
    let save := e.step.before.next (.saveRun record)
    if save.side = some side then (side.stored record).map fun columns => (save.call.time, columns)
    else none
  | _ => none

/-- The log of a store has grown by these rows, with new keys, and is as it was before them. -/
def Grows (side : Side) (s s' : Stores) (rows : List (String × RunColumns)) : Prop :=
  ∃ added, (side.of s').runRecords.rows = (side.of s).runRecords.rows ++ added ∧
    added.map stamp = rows

section property
variable (env : Environment W) (operations : List Operation)

/-- A record that is to be saved tells of an answer that its own thread got, which is a run, and
the thread has tried to save no other. -/
structure Backed (past : List (LogEvent W)) (e : LogEvent W) (modelId prompt : String)
    (modelSpec : Option ModelSpec) (result : RunResult) : Prop where
  run : operations[e.thread]? = some (.run modelId prompt modelSpec)
  saved : Saves (recordOf modelId prompt env.name result) e
  answered : ∃ f ∈ past, f.thread = e.thread ∧ Answered modelId prompt result f
  first : ∀ f ∈ past, f.thread = e.thread → ∀ record, ¬ Saves record f

/-- Every record that is to be saved is backed. -/
def SavesBacked (past : List (LogEvent W)) (e : LogEvent W) : Prop :=
  (∃ record, Saves record e) →
    ∃ modelId prompt modelSpec result, Backed env operations past e modelId prompt modelSpec result

/-- The log of each store grows by what was put down there and by nothing else, a record is saved
for a run only, once and with the figures of its answer, and the record of a run that has returned
has been put down. -/
structure Logged (d : Deployment W) (events : List (LogEvent W)) (left : List (Engine Unit))
    (d' : Deployment W) : Prop where
  grows : ∀ side : Side, Grows side d.stores d'.stores (events.filterMap (putDown side))
  backed : Each (SavesBacked env operations) [] events
  returned : ∀ i modelId prompt modelSpec,
    operations[i]? = some (.run modelId prompt modelSpec) → left[i]? = some (.ret ()) →
      ∃ e ∈ events, e.thread = i ∧ ∃ side, (putDown side e).isSome

end property

section protocol

/-- How far a run has come. -/
inductive Stage
  | asking
  | ran (result : RunResult)
  | named (result : RunResult) (runtime : String)
  | saved
  | refused

/-- One answer, and then one record of it. -/
def runProtocol (modelId prompt : String) : Protocol services Exn Stage where
  allowed stage c := match c with
    | .adapterRun m p _ => stage = .asking ∧ m = modelId ∧ p = prompt
    | .storage (.saveRun record) => ∃ result runtime,
      stage = .named result runtime ∧ record = recordOf modelId prompt runtime result
    | _ => True
  move stage c := match c with
    | .adapterRun _ _ _ => fun
      | .ok result => .ran result
      | .error _ => stage
    | .adapterName => fun
      | .ok runtime => match stage with
        | .ran result => .named result runtime
        | stage => stage
      | .error _ => stage
    | .storage (.saveRun _) => fun
      | .ok _ => .saved
      | .error _ => .refused
    | _ => fun _ => stage

def SaveFree (c : Call) : Prop := ∀ record, c ≠ .storage (.saveRun record)

/-- No record at all. -/
def asideProtocol : Protocol services Exn Stage where
  allowed _ c := SaveFree c
  move stage _ _ := stage

def protocolOf : Option Operation → Protocol services Exn Stage
  | some (.run modelId prompt _) => runProtocol modelId prompt
  | _ => asideProtocol

/-- What a thread has done when it returns. -/
def endOf : Option Operation → Unit → Stage → Prop
  | some (.run _ _ _), _, stage => stage = .saved
  | _, _, _ => True

lemma aside_complies {α : Type} {p : Engine α} (h : Only SaveFree p) (stage : Stage) :
    Complies asideProtocol (fun _ _ => True) stage p :=
  (complies_of_only (P := asideProtocol) h fun _ hc => ⟨hc, fun _ => rfl⟩).mono fun _ _ _ => trivial

lemma run_complies (modelId prompt : String) (modelSpec : Option ModelSpec) :
    Complies (runProtocol modelId prompt) (fun _ stage => stage = .saved) .asking
      (Operation.run modelId prompt modelSpec).program := by
  have hrequire : Complies (runProtocol modelId prompt) (fun _ stage => stage = .asking) .asking
      requireRuntime := by
    apply complies_of_only requireRuntime_only
    rintro c (rfl | rfl)
    · exact ⟨trivial, fun _ => rfl⟩
    · refine ⟨trivial, fun r => ?_⟩
      cases r <;> rfl
  have hoptions : Complies (runProtocol modelId prompt) (fun _ stage => stage = .asking) .asking
      (LauncherService.runOptions modelSpec) := by
    cases modelSpec with
    | none => exact complies_pure rfl
    | some model =>
      have hscan : Complies (runProtocol modelId prompt) (fun _ stage => stage = .asking) .asking
          scanHardware := complies_perform (I := services) trivial fun _ => rfl
      exact hscan.bind fun _ _ h => complies_pure h
  have hanswer (options : Option Config) : Complies (runProtocol modelId prompt)
      (fun result stage => stage = .ran result) .asking (adapterRun modelId prompt options) :=
    complies_perform (I := services) ⟨rfl, rfl, rfl⟩ fun _ => rfl
  have hname (result : RunResult) : Complies (runProtocol modelId prompt)
      (fun runtime stage => stage = .named result runtime) (.ran result) adapterName :=
    complies_perform (I := services) trivial fun _ => rfl
  have hsave (result : RunResult) (runtime : String) : Complies (runProtocol modelId prompt)
      (fun _ stage => stage = .saved) (.named result runtime)
      (saveRun (recordOf modelId prompt runtime result)) :=
    complies_perform (I := services) ⟨result, runtime, rfl, rfl⟩ fun _ => rfl
  have hrun : Complies (runProtocol modelId prompt) (fun _ stage => stage = .saved) .asking
      (LauncherService.run modelId prompt modelSpec) := by
    apply hrequire.bind
    rintro _ _ rfl
    apply hoptions.bind
    rintro options _ rfl
    apply (hanswer options).bind
    rintro result _ rfl
    apply (hname result).bind
    rintro runtime _ rfl
    exact (hsave result runtime).bind fun _ _ h => complies_pure h
  exact hrun.bind fun _ _ h => complies_pure h

lemma saveFree_of_offStore {c : Call} (h : c.OffStore) : SaveFree c := fun _ => h _

lemma saveFree_of_committing {c : Call} (h : Committing c) : SaveFree c := by
  rintro record rfl
  rcases h with h | ⟨config, h⟩ | ⟨event, h⟩ <;> cases h

lemma saveFree_of_iterating {c : Call} (h : Iterating c) : SaveFree c := by
  rcases h with (hmeasuring | rfl | ⟨m, rfl⟩) | hcommitting
  · exact saveFree_of_offStore hmeasuring.offStore
  · rintro record ⟨⟩
  · rintro record ⟨⟩
  · exact saveFree_of_committing hcommitting

lemma tune_saveFree (modelId : String) (modelSpec : Option ModelSpec) (dryRun : Bool) :
    Only SaveFree (Operations.tune modelId modelSpec dryRun) := by
  have honce : Only SaveFree (tuneOnce modelId modelSpec none) :=
    (tuneOnce_only modelId modelSpec none).mono fun c hc => saveFree_of_offStore hc.offStore
  have happly (session : TuningSession) : Only SaveFree (apply session) :=
    (apply_only session).mono fun _ hc => saveFree_of_committing hc
  apply honce.bind
  intro session
  split_ifs
  · exact (happly session).bind fun _ => only_pure _
  · exact only_pure _

lemma disable_saveFree (modelId : String) : Only SaveFree (autopilotDisable modelId) := by
  have hread : Only SaveFree (getTunedConfig modelId) :=
    only_perform (I := services) (by rintro record ⟨⟩)
  have hlock : Only SaveFree (lockConfig modelId) :=
    only_perform (I := services) (by rintro record ⟨⟩)
  apply hread.bind
  intro existing
  cases existing with
  | none => exact only_pure _
  | some config => exact hlock.bind fun _ => only_pure _

lemma loop_complies (args : AutopilotArgs) (draws : ℕ) (l : LoopState) (stage : Stage) :
    Complies asideProtocol (fun _ _ => True) stage (autopilotLoop args draws l) := by
  apply autopilotLoop_complies_of
  · intro stage l
    exact aside_complies ((iterate_only l).mono fun _ hc => saveFree_of_iterating hc) stage
  · intro stage c hc
    refine ⟨?_, fun _ => rfl⟩
    rintro record rfl
    cases hc

/-- Every operation obeys the protocol of its kind. -/
lemma operation_complies (operation : Operation) :
    Complies (protocolOf (some operation)) (endOf (some operation)) .asking operation.program := by
  have hdrop {α : Type} {p : Engine α} (h : Only SaveFree p) :
      Complies asideProtocol (fun _ _ => True) .asking (p >>= fun _ => pure ()) :=
    aside_complies (h.bind fun _ => only_pure _) .asking
  cases operation with
  | run modelId prompt modelSpec => exact run_complies modelId prompt modelSpec
  | tune modelId modelSpec dryRun => exact hdrop (tune_saveFree modelId modelSpec dryRun)
  | pass args l => exact hdrop ((iterate_only l).mono fun _ hc => saveFree_of_iterating hc)
  | autopilot args more => exact loop_complies args (more + 1) (.start args) .asking
  | disable modelId => exact hdrop (disable_saveFree modelId)

end protocol

section served
variable {collate : String → String} {env : Environment W} {d : Deployment W}

lemma grows_refl (side : Side) (s : Stores) : Grows side s s [] :=
  ⟨[], (List.append_nil _).symm, rfl⟩

lemma Grows.trans {side : Side} {s s₁ s' : Stores} {rows rows' : List (String × RunColumns)}
    (h : Grows side s s₁ rows) (h' : Grows side s₁ s' rows') : Grows side s s' (rows ++ rows') := by
  obtain ⟨added, hadded, hrows⟩ := h
  obtain ⟨added', hadded', hrows'⟩ := h'
  refine ⟨added ++ added', ?_, ?_⟩
  · rw [hadded', hadded, List.append_assoc]
  · rw [List.map_append, hrows, hrows']

/-- The log of a store grows by what a call puts down there. -/
lemma effect_grows (collate : String → String) (side : Side) (c : TimedCall) (db : Database) :
    ∃ added, (side.effect collate c db).runRecords.rows = db.runRecords.rows ++ added ∧
      added.map stamp = match c.op with
        | .saveRun record => (side.stored record).toList.map fun columns => (c.time, columns)
        | _ => [] := by
  obtain ⟨time, op⟩ := c
  cases op with
  | saveRun record =>
    simp only [Side.effect, Side.runStep]
    cases side.stored record with
    | none => exact ⟨[], (List.append_nil _).symm, rfl⟩
    | some columns => exact ⟨_, rfl, rfl⟩
  | _ => exact ⟨[], (List.append_nil _).symm, rfl⟩

end served

section invariant
variable {collate : String → String} {env : Environment W} {operations : List Operation}
  {d : Deployment W} {past : List (LogEvent W)} {i : ℕ}

/-- The thread has saved no record. -/
def Unsaved (past : List (LogEvent W)) (i : ℕ) : Prop :=
  ∀ f ∈ past, f.thread = i → ∀ record, ¬ Saves record f

/-- The thread is a run and has got that answer. -/
def HasRun (operations : List Operation) (past : List (LogEvent W)) (i : ℕ) (result : RunResult) :
    Prop :=
  ∃ modelId prompt modelSpec, operations[i]? = some (.run modelId prompt modelSpec) ∧
    ∃ f ∈ past, f.thread = i ∧ Answered modelId prompt result f

/-- What a stage says about the events so far. -/
def Held (env : Environment W) (operations : List Operation) (past : List (LogEvent W)) (i : ℕ) :
    Stage → Prop
  | .asking => Unsaved past i
  | .ran result => Unsaved past i ∧ HasRun operations past i result
  | .named result runtime => Unsaved past i ∧ HasRun operations past i result ∧ runtime = env.name
  | .saved => ∃ e ∈ past, e.thread = i ∧ ∃ side, (putDown side e).isSome
  | .refused => True

/-- The logs hold what was saved, and each thread is where its stage says. -/
structure Kept (env : Environment W) (operations : List Operation) (d : Deployment W)
    (past : List (LogEvent W)) (stages : ℕ → Stage) (d' : Deployment W) : Prop where
  grows : ∀ side : Side, Grows side d.stores d'.stores (past.filterMap (putDown side))
  held : ∀ i, Held env operations past i (stages i)

lemma Unsaved.append {e : LogEvent W} (h : Unsaved past i)
    (he : e.thread = i → ∀ record, ¬ Saves record e) : Unsaved (past ++ [e]) i := by
  intro f hf hthread
  rcases List.mem_append.mp hf with hf | hf
  · exact h f hf hthread
  · obtain rfl := List.mem_singleton.mp hf
    exact he hthread

lemma HasRun.append {e : LogEvent W} {result : RunResult} (h : HasRun operations past i result) :
    HasRun operations (past ++ [e]) i result := by
  obtain ⟨modelId, prompt, modelSpec, hrun, f, hf, hanswered⟩ := h
  exact ⟨modelId, prompt, modelSpec, hrun, f, List.mem_append_left _ hf, hanswered⟩

/-- A stage stays true when another thread moves, or its own without saving. -/
lemma Held.append {e : LogEvent W} {stage : Stage} (h : Held env operations past i stage)
    (he : e.thread = i → ∀ record, ¬ Saves record e) :
    Held env operations (past ++ [e]) i stage := by
  cases stage with
  | asking => exact Unsaved.append h he
  | ran result => exact ⟨h.1.append he, h.2.append⟩
  | named result runtime => exact ⟨h.1.append he, h.2.1.append, h.2.2⟩
  | saved =>
    obtain ⟨f, hf, hsaved⟩ := h
    exact ⟨f, List.mem_append_left _ hf, hsaved⟩
  | refused => trivial

section step
variable {stages : ℕ → Stage} {d' : Deployment W} {c : Call}

/-- The event of a call that thread `i` makes. -/
def eventOf (collate : String → String) (env : Environment W) (d' : Deployment W) (i : ℕ) (c : Call) :
    LogEvent W :=
  ⟨i, d', c, ((resilient collate env).handle c d').1⟩

lemma not_saves {c : Call} (h : SaveFree c) (record : RunRecord) :
    ¬ Saves record (eventOf collate env d' i c) := h record

lemma putDown_save (i : ℕ) (record : RunRecord) (side : Side) :
    putDown side (eventOf collate env d' i (.storage (.saveRun record))) =
      if (d'.next (.saveRun record)).side = some side then
        (side.stored record).map fun columns => ((d'.next (.saveRun record)).call.time, columns)
      else none := rfl

/-- The log of a store grows by what a call puts down there. -/
lemma handled_grows (collate : String → String) (env : Environment W) (d' : Deployment W) (i : ℕ)
    (c : Call) (side : Side) :
    Grows side d'.stores ((resilient collate env).handle c d').2.stores
      (putDown side (eventOf collate env d' i c)).toList := by
  cases c with
  | storage op =>
    have hstep := attempted_side collate (d'.next op) d'.stores side
    by_cases hside : (d'.next op).side = some side
    · rw [if_pos hside] at hstep
      obtain ⟨added, hadded, hrows⟩ := effect_grows collate side (d'.next op).call (side.of d'.stores)
      rw [← hstep] at hadded
      refine ⟨added, hadded, hrows.trans ?_⟩
      cases op with
      | saveRun record =>
        rw [putDown_save, if_pos hside]
        change (side.stored record).toList.map _ = _
        cases side.stored record <;> rfl
      | _ => rfl
    · rw [if_neg hside] at hstep
      have hnothing : putDown side (eventOf collate env d' i (.storage op)) = none := by
        cases op with
        | saveRun record => rw [putDown_save, if_neg hside]
        | _ => rfl
      rw [hnothing]
      exact ⟨[], (congrArg (fun db => db.runRecords.rows) hstep).trans (List.append_nil _).symm, rfl⟩
  | _ => exact grows_refl side d'.stores

/-- A save that returns has put the record down in one of the stores. -/
lemma handled_save (collate : String → String) (env : Environment W) (d' : Deployment W) (i : ℕ)
    (record : RunRecord) {saved : RunRecord}
    (h : ((resilient collate env).handle (.storage (.saveRun record)) d').1 = .ok saved) :
    ∃ side, (putDown side (eventOf collate env d' i (.storage (.saveRun record)))).isSome := by
  cases hside : (d'.next (.saveRun record)).side with
  | none =>
    obtain ⟨⟨e, hraised⟩, -⟩ := attempted_refused collate hside d'.stores
    simp only [resilient, hraised] at h
    cases h
  | some side =>
    have htaken : (side.stored record).isSome = true := side_takes hside
    refine ⟨side, ?_⟩
    rw [putDown_save, if_pos hside, Option.isSome_map, htaken]

/-- The logs, after any call. -/
lemma grows_step (h : Kept env operations d past stages d') (i : ℕ) (c : Call) (side : Side) :
    Grows side d.stores ((resilient collate env).handle c d').2.stores
      ((past ++ [eventOf collate env d' i c]).filterMap (putDown side)) := by
  have hgrows := (h.grows side).trans (handled_grows collate env d' i c side)
  rw [List.filterMap_append]
  cases hput : putDown side (eventOf collate env d' i c) <;> simpa [hput] using hgrows

/-- The thread that moves, by the protocol of its operation. -/
lemma held_aside (h : Kept env operations d past stages d') (hallowed : SaveFree c) :
    SavesBacked env operations past (eventOf collate env d' i c) ∧
      Held env operations (past ++ [eventOf collate env d' i c]) i (stages i) := by
  refine ⟨?_, (h.held i).append fun _ => not_saves hallowed⟩
  rintro ⟨record, hsaves⟩
  exact absurd hsaves (not_saves hallowed record)

lemma held_run {modelId prompt : String} {modelSpec : Option ModelSpec}
    (h : Kept env operations d past stages d')
    (hrun : operations[i]? = some (.run modelId prompt modelSpec))
    (hallowed : (runProtocol modelId prompt).allowed (stages i) c) :
    SavesBacked env operations past (eventOf collate env d' i c) ∧
      Held env operations (past ++ [eventOf collate env d' i c]) i
        ((runProtocol modelId prompt).move (stages i) c ((resilient collate env).handle c d').1) := by
  have hheld := h.held i
  by_cases hsave : SaveFree c
  · obtain ⟨hbacked, hstay⟩ := held_aside h (i := i) hsave
    refine ⟨hbacked, ?_⟩
    cases c with
    | adapterRun m p options =>
      obtain ⟨hstage, rfl, rfl⟩ := hallowed
      rw [hstage] at hstay ⊢
      cases hreply : ((resilient collate env).handle (.adapterRun m p options) d').1 with
      | error e => exact hstay
      | ok result =>
        refine ⟨hstay, m, p, modelSpec, hrun, _, List.mem_append_right _ List.mem_cons_self, rfl,
          d', options, ?_⟩
        unfold eventOf
        rw [hreply]
    | adapterName =>
      cases hstage : stages i with
      | ran result =>
        rw [hstage] at hstay
        exact ⟨hstay.1, hstay.2, rfl⟩
      | _ => rwa [hstage] at hstay
    | storage op =>
      cases op with
      | saveRun record => exact absurd rfl (hsave record)
      | _ => exact hstay
    | _ => exact hstay
  · obtain ⟨record, rfl⟩ : ∃ record, c = .storage (.saveRun record) := by
      simpa [SaveFree] using hsave
    obtain ⟨result, runtime, hstage, rfl⟩ := hallowed
    rw [hstage] at hheld
    obtain ⟨hunsaved, hasRun, rfl⟩ := hheld
    obtain ⟨modelId', prompt', modelSpec', hrun', hanswered⟩ := hasRun
    obtain ⟨rfl, rfl, rfl⟩ := Operation.run.inj (Option.some.inj (hrun.symm.trans hrun'))
    constructor
    · intro _
      exact ⟨modelId, prompt, modelSpec, result, hrun, rfl, hanswered, hunsaved⟩
    · cases hreply : ((resilient collate env).handle
          (.storage (.saveRun (recordOf modelId prompt env.name result))) d').1 with
      | error e => trivial
      | ok saved =>
        obtain ⟨side, hput⟩ := handled_save collate env d' i _ hreply
        exact ⟨_, List.mem_append_right _ List.mem_cons_self, rfl, side, hput⟩

/-- One call of one thread. -/
lemma kept_step (h : Kept env operations d past stages d')
    (hallowed : (protocolOf operations[i]?).allowed (stages i) c) :
    SavesBacked env operations past (eventOf collate env d' i c) ∧
      Kept env operations d (past ++ [eventOf collate env d' i c])
        (Function.update stages i
          ((protocolOf operations[i]?).move (stages i) c ((resilient collate env).handle c d').1))
        ((resilient collate env).handle c d').2 := by
  have hmover : SavesBacked env operations past (eventOf collate env d' i c) ∧
      Held env operations (past ++ [eventOf collate env d' i c]) i
        ((protocolOf operations[i]?).move (stages i) c ((resilient collate env).handle c d').1) := by
    cases hoperation : operations[i]? with
    | none =>
      rw [hoperation] at hallowed
      exact held_aside h hallowed
    | some operation =>
      rw [hoperation] at hallowed
      cases operation with
      | run modelId prompt modelSpec => exact held_run h hoperation hallowed
      | _ => exact held_aside h hallowed
  refine ⟨hmover.1, fun side => grows_step h i c side, fun j => ?_⟩
  by_cases hij : j = i
  · subst hij
    rw [Function.update_self]
    exact hmover.2
  · rw [Function.update_of_ne hij]
    exact (h.held j).append fun hthread => absurd hthread.symm hij

end step

end invariant

/-- Whatever the operations, the order of their calls and the failures of the primary store,
no run that gets through is lost, doubled or made up. -/
theorem runs_logged (collate : String → String) (env : Environment W) (operations : List Operation)
    (schedule : List ℕ) (d : Deployment W) :
    let threads := operations.map Operation.program
    let left := leave (resilient collate env) schedule threads d
    Logged env operations d (interleave (resilient collate env) schedule threads d) left.1 left.2 := by
  intro threads left
  have hstart : Kept env operations d [] (fun _ => .asking) d := by
    refine ⟨fun side => ?_, fun i f hf => ?_⟩
    · exact grows_refl side d.stores
    · cases hf
  have hcomply : AllComply (fun i => protocolOf operations[i]?) (fun i => endOf operations[i]?)
      (fun _ => .asking) threads := by
    intro i p hp
    rw [List.getElem?_map, Option.map_eq_some_iff] at hp
    obtain ⟨operation, hoperation, rfl⟩ := hp
    dsimp only
    rw [hoperation]
    exact operation_complies operation
  have hends : Each (SavesBacked env operations) []
      (interleave (resilient collate env) schedule threads d) ∧ ∃ stages, Kept env operations d
        ([] ++ interleave (resilient collate env) schedule threads d) stages left.2 ∧
        AllComply (fun i => protocolOf operations[i]?) (fun i => endOf operations[i]?) stages left.1 :=
    interleave_leave (Kept env operations d)
      (fun past stages d' i c hkept hallowed => kept_step hkept hallowed) hstart hcomply
  obtain ⟨hbacked, stages, hkept, hleft⟩ := hends
  refine ⟨hkept.grows, hbacked, ?_⟩
  intro i modelId prompt modelSpec hrun hret
  have hend : stages i = .saved := by
    have hpost := hleft i _ hret
    dsimp only at hpost
    rw [hrun] at hpost
    exact hpost
  have hheld := hkept.held i
  rw [hend] at hheld
  exact hheld

end LlmMax.RunLog
