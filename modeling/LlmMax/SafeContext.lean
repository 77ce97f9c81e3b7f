import LlmMax.AutopilotProtocol
import LlmMax.Operations
import LlmMax.CandidateSet

/-! The contexts that tuning can lead to: from configs in the safe range, every config the
engine tries or stores is in the safe range again. -/
namespace LlmMax.SafeContext
open Domain BenchMetrics AutotuneState Storage EffectProgram EffectThreads History Services
open BenchRunner AutotuneDecision LauncherConfig AutotuneEngine AutotuneSpec AutopilotPass
open AutopilotRun AutopilotProtocol AutopilotConvergence Operations

/-- Empty, or nothing but a context size between the floor and the ceiling of the search. -/
def Safe (config : Config) : Prop :=
  config = ∅ ∨ ∃ ctx, config = Config.ofCtx ctx ∧ 512 ≤ ctx ∧ ctx ≤ 8192

def SafeOptions (options : Option Config) : Prop := ∀ config, options = some config → Safe config

lemma safe_ofCtx {ctx : ℚ} (hlow : 512 ≤ ctx) (hhigh : ctx ≤ 8192) : Safe (Config.ofCtx ctx) :=
  .inr ⟨ctx, rfl, hlow, hhigh⟩

lemma Safe.orNone {config : Config} (h : Safe config) : SafeOptions config.orNone := by
  intro other hother
  unfold Config.orNone at hother
  split_ifs at hother
  cases hother
  exact h

lemma Safe.contextOf_mem {config : Config} (h : Safe config) :
    512 ≤ contextOf config ∧ contextOf config ≤ 8192 := by
  rcases h with rfl | ⟨ctx, rfl, hlow, hhigh⟩
  · have hempty : contextOf ∅ = defaultBaselineCtx := rfl
    rw [hempty, defaultBaselineCtx]
    norm_num
  · rw [contextOf_ofCtx]
    exact ⟨hlow, hhigh⟩

/-- Halving and doubling stay in the range, from any number in it. -/
lemma Safe.candidates {config : Config} {configs : List Config} (h : Safe config)
    (hgen : generateCandidates config = .ok configs) : ∀ c ∈ configs, Safe c := by
  obtain ⟨hlow, hhigh⟩ := h.contextOf_mem
  intro c hc
  obtain ⟨ctx, rfl, hctx⟩ := generateCandidates_mem hgen hc
  have hfloor := Int.floor_le (contextOf config / 2)
  rcases hctx with rfl | rfl | rfl
  · exact safe_ofCtx hlow hhigh
  · exact safe_ofCtx (le_max_left _ _) (max_le (by norm_num [ctxFloor]) (by linarith))
  · exact safe_ofCtx (le_min (by norm_num [ctxCeiling]) (by linarith)) (min_le_left _ _)

lemma buildRunConfig_safe (model : ModelSpec) (hw : HardwareProfile) :
    Safe (buildRunConfig model hw) := by
  unfold buildRunConfig
  cases bestGpu hw.gpus with
  | none => exact .inl rfl
  | some gpu =>
    dsimp only
    unfold contextFor
    split_ifs
    · exact safe_ofCtx (by norm_num [generousCtx]) (by norm_num [generousCtx])
    · exact safe_ofCtx (by norm_num [moderateCtx]) (by norm_num [moderateCtx])
    · exact safe_ofCtx (by norm_num [conservativeCtx]) (by norm_num [conservativeCtx])

/-- What the engine may do with a config. -/
def SafeCall : Call → Prop
  | .adapterRun _ _ options => SafeOptions options
  | .storage (.saveTunedConfig config) => Safe config.config
  | _ => True

/-- The typestate says that every config of the model read so far was safe; as long as it
holds, the calls are safe. -/
def rangeProtocol (modelId : String) : Protocol services Exn Prop where
  allowed safe c := safe → SafeCall c ∧ ∀ m, c = .storage (.getTunedConfig m) → m = modelId
  move safe c := match c with
    | .storage (.getTunedConfig _) => fun
      | .ok (some stored) => safe ∧ Safe stored.config
      | _ => safe
    | _ => fun _ => safe

variable {m : String} {safe : Prop}

/-- Calls that the protocol has nothing to say about. -/
def Neutral : Call → Prop
  | .adapterRun _ _ _ | .storage (.saveTunedConfig _) | .storage (.getTunedConfig _) => False
  | _ => True

lemma rangeProtocol_neutral {c : Call} (h : Neutral c) :
    (rangeProtocol m).allowed safe c ∧ ∀ r, (rangeProtocol m).move safe c r = safe := by
  cases c with
  | adapterRun _ _ _ => cases h
  | storage op =>
    cases op with
    | saveTunedConfig _ => cases h
    | getTunedConfig _ => cases h
    | _ => exact ⟨fun _ => ⟨trivial, fun _ he => by cases he⟩, fun _ => rfl⟩
  | _ => exact ⟨fun _ => ⟨trivial, fun _ he => by cases he⟩, fun _ => rfl⟩

lemma only_neutral_complies {α : Type} {p : Engine α} (h : Only Neutral p) :
    Complies (rangeProtocol m) (fun _ safe' => safe' = safe) safe p :=
  complies_of_only h fun _ hc => rangeProtocol_neutral hc

section pass
variable {modelId : String}

lemma measure_complies {config : Config} (h : safe → Safe config) :
    Complies (rangeProtocol m) (fun _ safe' => safe' = safe) safe (measure modelId config) := by
  have hrun : Complies (rangeProtocol m) (fun _ safe' => safe' = safe) safe
      (runBenchmark modelId config.orNone) := by
    apply complies_of_only (runBenchmark_only modelId config.orNone)
    intro c hc
    obtain ⟨prompt, rfl⟩ := hc
    exact ⟨fun hsafe => ⟨(h hsafe).orNone, fun _ he => by cases he⟩, fun _ => rfl⟩
  apply hrun.bind
  intro b _ hb
  subst hb
  have hnote : Only Neutral (Program.perform (I := services) (ε := Exn) (.measured b)) :=
    only_perform (I := services) trivial
  exact only_neutral_complies (hnote.bind fun _ => only_pure b)

lemma measureCandidates_complies (baseline : TuningCandidateResult) {configs : List Config}
    (h : safe → ∀ c ∈ configs, Safe c) :
    Complies (rangeProtocol m) (fun candidates safe' => safe' = safe ∧
      candidates.map TuningCandidateResult.config = configs) safe
      (measureCandidates modelId baseline configs) := by
  induction configs with
  | nil => exact complies_pure ⟨rfl, rfl⟩
  | cons config configs ih =>
    have hrest : Complies (rangeProtocol m) (fun candidates safe' => safe' = safe ∧
        candidates.map TuningCandidateResult.config = configs) safe
        (measureCandidates modelId baseline configs) :=
      ih fun hsafe c hc => h hsafe c (List.mem_cons_of_mem _ hc)
    unfold measureCandidates
    split_ifs with hsame
    · apply hrest.bind
      intro rest _ hpost
      obtain ⟨rfl, hmap⟩ := hpost
      exact complies_pure ⟨rfl, by rw [List.map_cons, hmap, hsame]⟩
    · apply (measure_complies fun hsafe => h hsafe config List.mem_cons_self).bind
      intro b _ hb
      subst hb
      apply hrest.bind
      intro rest _ hpost
      obtain ⟨rfl, hmap⟩ := hpost
      exact complies_pure ⟨rfl, by rw [List.map_cons, hmap]⟩

lemma baselineOr_complies (modelSpec : Option ModelSpec) {baselineConfig : Option Config}
    (h : safe → SafeOptions baselineConfig) :
    Complies (rangeProtocol m) (fun config safe' => safe' = safe ∧ (safe → Safe config)) safe
      (baselineOr modelSpec baselineConfig) := by
  cases baselineConfig with
  | some config => exact complies_pure ⟨rfl, fun hsafe => h hsafe config rfl⟩
  | none =>
    cases modelSpec with
    | none => exact complies_pure ⟨rfl, fun _ => .inl rfl⟩
    | some model =>
      have hscan : Only Neutral scanHardware := only_perform (I := services) trivial
      apply (only_neutral_complies hscan).bind
      intro hw _ hpost
      subst hpost
      exact complies_pure ⟨rfl, fun _ => buildRunConfig_safe model hw⟩

/-- A pass from a safe config only tries safe configs, and its winner is one. -/
lemma tuneOnce_complies (modelSpec : Option ModelSpec) {baselineConfig : Option Config}
    (h : safe → SafeOptions baselineConfig) :
    Complies (rangeProtocol m) (fun session safe' => safe' = safe ∧
      (safe → Safe session.baseline.config ∧ Safe session.winner.config)) safe
      (tuneOnce modelId modelSpec baselineConfig) := by
  have hrequire : Only Neutral requireRuntime := by
    apply requireRuntime_only.mono
    intro c hc
    obtain rfl | rfl := hc
    · trivial
    · trivial
  apply (only_neutral_complies hrequire).bind
  intro _ _ hpost
  subst hpost
  apply (baselineOr_complies modelSpec h).bind
  intro config _ hpost
  obtain ⟨rfl, hconfig⟩ := hpost
  apply (measure_complies hconfig).bind
  intro benchmark _ hpost
  subst hpost
  cases hgen : generateCandidates config with
  | error e => trivial
  | ok configs =>
    have hconfigs : _ → ∀ c ∈ configs, Safe c := fun hsafe => (hconfig hsafe).candidates hgen
    apply (measureCandidates_complies ⟨config, benchmark⟩ hconfigs).bind
    intro candidates _ hpost
    obtain ⟨rfl, hmap⟩ := hpost
    refine complies_pure ⟨rfl, fun hsafe => ?_⟩
    rw [conclude_baseline]
    refine ⟨hconfig hsafe, ?_⟩
    have hmem := conclude_winner_mem modelId ⟨config, benchmark⟩ candidates
    rcases List.mem_cons.mp hmem with hwinner | hwinner
    · rw [hwinner]
      exact hconfig hsafe
    · apply hconfigs hsafe
      rw [← hmap]
      exact List.mem_map_of_mem hwinner

end pass

def SafeHistory (history : List TuningCandidateResult) : Prop := ∀ r ∈ history, Safe r.config

/-- The configs that a move can save or remember. -/
def SafeMove : Move → Prop
  | .skip _ => True
  | .revert _ target => Safe target
  | .keep session | .withhold session | .adopt session =>
    Safe session.baseline.config ∧ Safe session.winner.config

section loop
variable {args : AutopilotArgs} {l : LoopState}

lemma chooseForward_complies {baselineConfig : Option Config}
    (h : safe → SafeOptions baselineConfig) :
    Complies (rangeProtocol m) (fun move safe' => safe' = safe ∧ (safe → SafeMove move)) safe
      (chooseForward args l baselineConfig) := by
  apply (tuneOnce_complies args.modelSpec h).bind
  intro session _ hpost
  obtain ⟨rfl, hsession⟩ := hpost
  split_ifs with haccepted
  · have hlimit : Only Neutral (rateLimited args.maxAdjustmentsPerDay l.adjustmentTimestamps) := by
      apply (rateLimited_only _ _).mono
      intro c hc
      subst hc
      trivial
    apply (only_neutral_complies hlimit).bind
    intro limited _ hpost
    subst hpost
    apply complies_pure
    cases limited with
    | true => exact ⟨rfl, hsession⟩
    | false => exact ⟨rfl, hsession⟩
  · exact complies_pure ⟨rfl, hsession⟩

lemma checkActive_complies {config : Config} (hconfig : safe → Safe config)
    (hhistory : safe → SafeHistory l.history) :
    Complies (rangeProtocol m) (fun revert safe' => safe' = safe ∧
      (safe → ∀ probe target, revert = some (probe, target) → Safe target)) safe
      (checkActive args l config) := by
  unfold checkActive
  split_ifs with hnil
  · exact complies_pure ⟨rfl, fun _ probe target hrevert => by cases hrevert⟩
  · apply (measure_complies hconfig).bind
    intro b _ hpost
    subst hpost
    dsimp only
    split_ifs with hbroken
    · refine complies_pure ⟨rfl, ?_⟩
      intro hsafe probe target hrevert
      obtain ⟨target', htarget, heq⟩ := Option.map_eq_some_iff.mp hrevert
      cases heq
      obtain ⟨r, hr, rfl, -, -⟩ := rollbackTarget_eq_some htarget
      exact hhistory hsafe r hr
    · exact complies_pure ⟨rfl, fun _ probe target hrevert => by cases hrevert⟩

lemma choose_complies (hhistory : safe → SafeHistory l.history) :
    Complies (rangeProtocol args.modelId)
      (fun move safe' => safe' → SafeMove move ∧ SafeHistory l.history) safe (choose args l) := by
  have hread : Complies (rangeProtocol args.modelId)
      (fun stored safe' => safe' → safe ∧ ∀ c, stored = some c → Safe c.config) safe
      (getTunedConfig args.modelId) := by
    refine complies_perform (I := services) (fun _ => ⟨trivial, fun m hm => by cases hm; rfl⟩) ?_
    intro stored hsafe
    cases stored with
    | none => exact ⟨hsafe, fun c hc => by cases hc⟩
    | some c => exact ⟨hsafe.1, fun c hc => by cases hc; exact hsafe.2⟩
  apply hread.bind
  intro stored safe' hstored
  have hforward (baselineConfig : Option Config) (h : safe' → SafeOptions baselineConfig) :
      Complies (rangeProtocol args.modelId)
        (fun move safe'' => safe'' → SafeMove move ∧ SafeHistory l.history) safe'
        (chooseForward args l baselineConfig) := by
    apply (chooseForward_complies h).mono
    intro move _ hpost hsafe
    obtain ⟨rfl, hmove⟩ := hpost
    exact ⟨hmove hsafe, hhistory (hstored hsafe).1⟩
  cases stored with
  | none => exact hforward none fun _ config h => by cases h
  | some existing =>
    dsimp only
    split_ifs with hl
    · exact complies_pure fun hsafe => ⟨trivial, hhistory (hstored hsafe).1⟩
    · have hexisting : safe' → Safe existing.config := fun hsafe => (hstored hsafe).2 existing rfl
      apply (checkActive_complies hexisting fun hsafe => hhistory (hstored hsafe).1).bind
      intro revert _ hpost
      obtain ⟨rfl, hrevert⟩ := hpost
      cases revert with
      | none => exact hforward _ fun hsafe config h => by cases h; exact hexisting hsafe
      | some r =>
        exact complies_pure fun hsafe => ⟨hrevert hsafe _ _ rfl, hhistory (hstored hsafe).1⟩

lemma saveTunedConfig_complies {config : TunedConfig} (h : safe → Safe config.config) :
    Complies (rangeProtocol m) (fun _ safe' => safe' = safe) safe (saveTunedConfig config) :=
  complies_perform (I := services) (fun hsafe => ⟨h hsafe, fun _ he => by cases he⟩) fun _ => rfl

lemma logEvent_neutral (modelId eventType : String) (details : List (String × Detail)) :
    Only Neutral (logEvent modelId eventType details) := by
  apply (logEvent_only _ _ _).mono
  intro c hc
  obtain ⟨event, rfl⟩ := hc
  trivial

lemma now_neutral : Only Neutral now := by
  apply now_only.mono
  intro c hc
  subst hc
  trivial

lemma apply_complies {session : TuningSession} (h : safe → Safe session.winner.config) :
    Complies (rangeProtocol m) (fun _ safe' => safe' = safe) safe (AutotuneEngine.apply session) := by
  apply (saveTunedConfig_complies h).bind
  intro saved _ hpost
  subst hpost
  exact only_neutral_complies ((logEvent_neutral _ _ _).bind fun _ => only_pure _)

lemma safeHistory_append {history : List TuningCandidateResult} {r : TuningCandidateResult}
    (h : SafeHistory history) (hr : Safe r.config) : SafeHistory (history ++ [r]) := by
  intro x hx
  rcases List.mem_append.mp hx with hx | hx
  · exact h x hx
  · rw [List.mem_singleton.mp hx]
    exact hr

lemma commit_complies {move : Move} (h : safe → SafeMove move ∧ SafeHistory l.history) :
    Complies (rangeProtocol m) (fun out safe' => safe' → SafeHistory out.2.history) safe
      (commit args l move) := by
  cases move with
  | skip existing =>
    apply (only_neutral_complies (logEvent_neutral _ _ _)).bind
    intro _ _ hpost
    subst hpost
    exact complies_pure fun hsafe => (h hsafe).2
  | revert probe target =>
    have hsave : Complies (rangeProtocol m) (fun _ safe' => safe' = safe) safe
        (saveTunedConfig { modelId := args.modelId, config := target }) :=
      saveTunedConfig_complies fun hsafe => (h hsafe).1
    apply hsave.bind
    intro _ _ hpost
    subst hpost
    apply (only_neutral_complies now_neutral).bind
    intro time _ hpost
    subst hpost
    apply (only_neutral_complies (logEvent_neutral _ _ _)).bind
    intro _ _ hpost
    subst hpost
    exact complies_pure fun hsafe => (h hsafe).2
  | keep session =>
    exact complies_pure fun hsafe => safeHistory_append (h hsafe).2 (h hsafe).1.2
  | withhold session =>
    apply (only_neutral_complies (logEvent_neutral _ _ _)).bind
    intro _ _ hpost
    subst hpost
    exact complies_pure fun hsafe => safeHistory_append (h hsafe).2 (h hsafe).1.1
  | adopt session =>
    apply (apply_complies fun hsafe => (h hsafe).1.2).bind
    intro _ _ hpost
    subst hpost
    apply (only_neutral_complies now_neutral).bind
    intro time _ hpost
    subst hpost
    exact complies_pure fun hsafe => safeHistory_append (h hsafe).2 (h hsafe).1.2

lemma advance_complies :
    Complies (rangeProtocol m) (fun next safe' => safe' = safe ∧ next.history = l.history) safe
      (advance args l) := by
  have hsleep : Only Neutral (sleep args.intervalSeconds) := only_perform (I := services) trivial
  unfold advance
  dsimp only
  split_ifs
  · apply (only_neutral_complies hsleep).bind
    intro _ _ hpost
    subst hpost
    exact complies_pure ⟨rfl, rfl⟩
  · exact complies_pure ⟨rfl, rfl⟩

/-- The whole loop, from a history of safe configs. -/
theorem autopilotLoop_complies (draws : ℕ) (hhistory : safe → SafeHistory l.history) :
    Complies (rangeProtocol args.modelId) (fun _ _ => True) safe (autopilotLoop args draws l) := by
  induction draws generalizing l safe with
  | zero => exact complies_pure trivial
  | succ draws ih =>
    unfold autopilotLoop
    split_ifs with hc
    · rw [iterate_eq, Program.bind_assoc]
      apply (choose_complies hhistory).bind
      intro move safe' hmove
      apply (commit_complies hmove).bind
      intro out safe'' hout
      obtain ⟨session, l'⟩ := out
      have hyield : Only Neutral (yieldSession session) := only_perform (I := services) trivial
      apply (only_neutral_complies hyield).bind
      intro _ _ hpost
      subst hpost
      split_ifs with hlocked
      · exact complies_pure trivial
      · apply advance_complies.bind
        intro next _ hpost
        obtain ⟨rfl, hnext⟩ := hpost
        exact ih fun hsafe => hnext ▸ hout hsafe
    · exact complies_pure trivial

end loop

lemma tune_complies (modelSpec : Option ModelSpec) (dryRun : Bool) :
    Complies (rangeProtocol m) (fun _ _ => True) safe
      (Operation.tune m modelSpec dryRun).program := by
  have htune : Complies (rangeProtocol m) (fun _ _ => True) safe
      (Operations.tune m modelSpec dryRun) := by
    apply (tuneOnce_complies modelSpec fun _ config h => by cases h).bind
    intro session _ hpost
    obtain ⟨rfl, hsession⟩ := hpost
    split_ifs
    · apply (apply_complies fun hsafe => (hsession hsafe).2).bind
      intro _ _ _
      exact complies_pure trivial
    · exact complies_pure trivial
  exact htune.bind fun _ _ _ => complies_pure trivial

/-- One-shot tunes, autopilots and single iterations of them on the model, from histories of
safe configs, and requests to disable it. -/
def TunesSafely (m : String) : Operation → Prop
  | .tune modelId _ _ => modelId = m
  | .autopilot args _ => args.modelId = m ∧ SafeHistory args.initialHistory
  | .pass args l => args.modelId = m ∧ SafeHistory l.history
  | .disable modelId => modelId = m
  | .run _ _ _ => False

lemma disable_complies :
    Complies (rangeProtocol m) (fun _ _ => True) safe (Operation.disable m).program := by
  have hread : Complies (rangeProtocol m) (fun _ _ => True) safe (getTunedConfig m) :=
    complies_perform (I := services) (fun _ => ⟨trivial, fun _ he => by cases he; rfl⟩)
      fun _ => trivial
  have hlock : Only Neutral (lockConfig m) := only_perform (I := services) trivial
  have hdisable : Complies (rangeProtocol m) (fun _ _ => True) safe (autopilotDisable m) := by
    apply hread.bind
    intro stored safe' _
    cases stored with
    | none => exact complies_pure trivial
    | some _ =>
      exact (only_neutral_complies (hlock.bind fun _ => only_pure _)).mono fun _ _ _ => trivial
  exact hdisable.bind fun _ _ _ => complies_pure trivial

lemma operation_complies {operation : Operation} (h : TunesSafely m operation) :
    Complies (rangeProtocol m) (fun _ _ => True) safe operation.program := by
  cases operation with
  | tune modelId modelSpec dryRun =>
    obtain rfl : modelId = m := h
    exact tune_complies modelSpec dryRun
  | run modelId prompt modelSpec => cases h
  | pass args l =>
    obtain ⟨rfl, hhistory⟩ := h
    have hpass : Complies (rangeProtocol args.modelId)
        (fun out safe' => safe' → SafeHistory out.2.history) safe (iterate args l) := by
      rw [iterate_eq]
      exact (choose_complies fun _ => hhistory).bind fun _ _ hmove => commit_complies hmove
    exact hpass.bind fun _ _ _ => complies_pure trivial
  | autopilot args more =>
    obtain ⟨rfl, hhistory⟩ := h
    exact autopilotLoop_complies (more + 1) fun _ => hhistory
  | disable modelId =>
    obtain rfl : modelId = m := h
    exact disable_complies

variable {W : Type} {env : Environment W}

def SafeStored (m : String) (s : System W) : Prop :=
  ∀ c, s.store.getTunedConfig m = some c → Safe c.config

variable (env) in
/-- A safe call keeps the stored config safe, and what it reads of it is safe. -/
lemma handle_safe {s : System W} {c : Call} (hstored : SafeStored m s) (hcall : SafeCall c)
    (hread : ∀ modelId, c = .storage (.getTunedConfig modelId) → modelId = m) :
    (rangeProtocol m).move True c ((serving env).handle c s).1 ∧
      SafeStored m ((serving env).handle c s).2 := by
  cases c with
  | storage op =>
    cases op with
    | getTunedConfig modelId =>
      obtain rfl := hread modelId rfl
      refine ⟨?_, hstored⟩
      simp only [rangeProtocol, serving, InMemoryStorage.serve]
      cases hget : s.store.getTunedConfig modelId with
      | none => trivial
      | some stored => exact ⟨trivial, hstored stored hget⟩
    | saveTunedConfig config =>
      refine ⟨trivial, ?_⟩
      intro c hc
      have hsave : (if config.modelId = m then some (s.store.saveTunedConfig config).1
          else s.store.getTunedConfig m) = some c :=
        (InMemoryStorage.getTunedConfig_save s.store m config).symm.trans hc
      split_ifs at hsave
      · cases hsave
        exact hcall
      · exact hstored c hsave
    | lockConfig modelId =>
      refine ⟨trivial, ?_⟩
      intro c hc
      have hlock : (if m = modelId then (s.store.getTunedConfig m).map fun c => { c with isLocked := true }
          else s.store.getTunedConfig m) = some c :=
        (InMemoryStorage.getTunedConfig_lock s.store m modelId).symm.trans hc
      split_ifs at hlock
      · obtain ⟨old, hold, rfl⟩ := Option.map_eq_some_iff.mp hlock
        exact hstored old hold
      · exact hstored c hlock
    | _ => exact ⟨trivial, hstored⟩
  | _ => exact ⟨trivial, hstored⟩

/-- Any number of tunes and autopilots on the model, with their calls in any order: from a
stored config and histories in the safe range, every config that is tried or stored is. -/
theorem interleave_safe {threads : List Operation}
    (hthreads : ∀ operation ∈ threads, TunesSafely m operation) (schedule : List ℕ) {s : System W}
    (hstored : SafeStored m s) :
    ∀ e ∈ interleave (serving env) schedule (threads.map Operation.program) s, SafeCall e.step.call := by
  have heach : Each (fun _ e => SafeCall e.step.call) []
      (interleave (serving env) schedule (threads.map Operation.program) s) := by
    apply interleave_each (τ := Prop) (fun _ => rangeProtocol m)
      (fun _ safe s => (∀ i, safe i) ∧ SafeStored m s) (q := fun _ => True)
    · exact ⟨fun _ => trivial, hstored⟩
    · intro i p hp
      rw [List.getElem?_map, Option.map_eq_some_iff] at hp
      obtain ⟨operation, hoperation, rfl⟩ := hp
      exact operation_complies (hthreads operation (List.mem_of_getElem? hoperation))
    · intro past safe s i c hinv hallowed
      obtain ⟨hsafe, hstored⟩ := hinv
      obtain ⟨hcall, hread⟩ := hallowed (hsafe i)
      obtain ⟨hmove, hnext⟩ := handle_safe env hstored hcall hread
      refine ⟨hcall, ?_, hnext⟩
      intro j
      rcases eq_or_ne j i with rfl | hne
      · rw [Function.update_self, eq_true (hsafe j)]
        exact hmove
      · rw [Function.update_of_ne hne]
        exact hsafe j
  intro e he
  obtain ⟨pre, post, hsplit⟩ := List.append_of_mem he
  exact each_iff.mp heach pre e post hsplit

/-- Two autopilots and a tune of one model, on a runtime that is faster the larger the context. -/
theorem interleave_safe_growing :
    let args : AutopilotArgs := { modelId := "m", initialHistory := [⟨Config.ofCtx 700, { config := Config.ofCtx 700 }⟩] }
    ∀ e ∈ interleave (serving (growing ∅)) [0, 1, 2, 0, 0, 2, 1, 0, 1]
      ([.autopilot args 5, .autopilot args 3, .tune "m" none false].map Operation.program)
      ⟨0, ⟨[], [], []⟩⟩, SafeCall e.step.call := by
  intro args
  have hhistory : SafeHistory args.initialHistory := by
    intro r hr
    rw [List.mem_singleton.mp hr]
    exact safe_ofCtx (by norm_num) (by norm_num)
  apply interleave_safe (m := "m")
  · intro operation hoperation
    simp only [List.mem_cons, List.not_mem_nil, or_false] at hoperation
    rcases hoperation with rfl | rfl | rfl
    · exact ⟨rfl, hhistory⟩
    · exact ⟨rfl, hhistory⟩
    · rfl
  · intro c hc
    cases hc

end LlmMax.SafeContext
