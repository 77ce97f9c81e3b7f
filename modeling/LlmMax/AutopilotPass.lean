import LlmMax.AutotuneSpec

/-! One pass of the autopilot loop splits into a choice, which reads the store once and
otherwise only measures, and a commitment, which writes. Everything the loop does to
the tuned configs is stated here once for every kind of pass. -/
namespace LlmMax.AutopilotPass
open Domain BenchMetrics AutotuneState Storage EffectProgram Services BenchRunner
open AutotuneDecision AutotuneEngine AutotuneSpec

inductive Move
  | skip (existing : TunedConfig)
  | revert (probe : TuningCandidateResult) (target : Config)
  | keep (session : TuningSession)
  | withhold (session : TuningSession)
  | adopt (session : TuningSession)

def chooseForward (args : AutopilotArgs) (l : LoopState) (baselineConfig : Option Config) :
    Engine Move := do
  let session ← tuneOnce args.modelId args.modelSpec baselineConfig
  if session.outcome = .acceptedNew then
    let limited ← rateLimited args.maxAdjustmentsPerDay l.adjustmentTimestamps
    return if limited then .withhold session else .adopt session
  else return .keep session

def choose (args : AutopilotArgs) (l : LoopState) : Engine Move := do
  match ← getTunedConfig args.modelId with
  | none => chooseForward args l none
  | some existing =>
    if existing.isLocked then return .skip existing
    else
      match ← checkActive args l existing.config with
      | some (probe, target) => return .revert probe target
      | none => chooseForward args l (some existing.config)

def commit (args : AutopilotArgs) (l : LoopState) : Move → Engine (TuningSession × LoopState)
  | .skip existing => do
    logEvent args.modelId "lock" [("config", .config existing.config)]
    return (lockedSession args.modelId existing.config, l)
  | .revert probe target => rollBack args l probe target
  | .keep session => return (session, { l with history := l.history ++ [session.winner] })
  | .withhold session => do
    let limited := limitedSession args.maxAdjustmentsPerDay session
    logEvent args.modelId "rate_limited" [("would_have_applied", .config session.winner.config)]
    return (limited, { l with history := l.history ++ [limited.winner] })
  | .adopt session => do
    let _ ← apply session
    let time ← now
    return (session, { l with
      history := l.history ++ [session.winner]
      adjustmentTimestamps := l.adjustmentTimestamps ++ [time] })

lemma tuneForward_eq (args : AutopilotArgs) (l : LoopState) (baselineConfig : Option Config) :
    tuneForward args l baselineConfig = chooseForward args l baselineConfig >>= commit args l := by
  unfold tuneForward chooseForward
  rw [Program.bind_assoc]
  congr 1
  funext session
  split_ifs with h
  · rw [Program.bind_assoc]
    congr 1
    funext limited
    cases limited <;> rfl
  · rfl

/-- The body of the loop is its choice followed by its commitment. -/
theorem iterate_eq (args : AutopilotArgs) (l : LoopState) :
    iterate args l = choose args l >>= commit args l := by
  unfold iterate choose
  rw [Program.bind_assoc]
  congr 1
  funext existing
  cases existing with
  | none => exact tuneForward_eq args l none
  | some existing =>
    dsimp only
    split_ifs with hl
    · rfl
    · rw [Program.bind_assoc]
      congr 1
      funext revert
      cases revert with
      | none => exact tuneForward_eq args l _
      | some r => rfl

/-- What a move saves. -/
def Move.saves (args : AutopilotArgs) : Move → List TunedConfig
  | .revert _ target => [{ modelId := args.modelId, config := target }]
  | .adopt session => [{ modelId := session.modelId, config := session.winner.config }]
  | _ => []

/-- What a move yields. -/
def Move.session (args : AutopilotArgs) (l : LoopState) : Move → TuningSession
  | .skip existing => lockedSession args.modelId existing.config
  | .revert probe target => rolledBackSession args.modelId probe l.history target
  | .keep session => session
  | .withhold session => limitedSession args.maxAdjustmentsPerDay session
  | .adopt session => session

/-- What a move adds to the history. -/
def Move.learned : Move → List TuningCandidateResult
  | .keep session => [session.winner]
  | .withhold session => [session.baseline]
  | .adopt session => [session.winner]
  | _ => []

/-- The calls of a choice: one read of the store, measurements, and the clock. -/
def Choosing (c : Call) : Prop :=
  Measuring c ∨ c = .now ∨ ∃ m, c = .storage (.getTunedConfig m)

/-- The calls of a commitment: writes to the store, and the clock. -/
def Committing (c : Call) : Prop :=
  c = .now ∨ (∃ config, c = .storage (.saveTunedConfig config)) ∨
    ∃ event, c = .storage (.saveAutopilotEvent event)

/-- The only call of an audit note. -/
def Logging (c : Call) : Prop := ∃ event, c = .storage (.saveAutopilotEvent event)

lemma now_only : Only (fun c => c = Call.now) now := only_perform (I := services) rfl

lemma rateLimited_only (cap : Option ℤ) (timestamps : List ℚ) :
    Only (fun c => c = Call.now) (rateLimited cap timestamps) := by
  cases cap with
  | none => exact only_pure _
  | some limit => exact now_only.bind fun _ => only_pure _

lemma chooseForward_only (args : AutopilotArgs) (l : LoopState) (baselineConfig : Option Config) :
    Only Choosing (chooseForward args l baselineConfig) := by
  refine ((tuneOnce_only _ _ _).mono fun c hc => .inl hc).bind fun session => ?_
  split_ifs
  · exact ((rateLimited_only _ _).mono fun c hc => .inr (.inl hc)).bind fun _ => only_pure _
  · exact only_pure _

lemma checkActive_only (args : AutopilotArgs) (l : LoopState) (config : Config) :
    Only Measuring (checkActive args l config) := by
  unfold checkActive
  split_ifs
  · exact only_pure _
  · refine (measure_only _ _).bind fun b => ?_
    dsimp only
    split_ifs
    · exact only_pure _
    · exact only_pure _

lemma choose_only (args : AutopilotArgs) (l : LoopState) : Only Choosing (choose args l) := by
  refine (only_perform (I := services) (ε := Exn) (.inr (.inr ⟨_, rfl⟩))).bind fun existing => ?_
  cases existing with
  | none => exact chooseForward_only _ _ _
  | some existing =>
    dsimp only
    split_ifs
    · exact only_pure _
    · refine ((checkActive_only _ _ _).mono fun c hc => .inl hc).bind fun revert => ?_
      cases revert with
      | none => exact chooseForward_only _ _ _
      | some r => exact only_pure _

lemma logEvent_only (modelId eventType : String) (details : List (String × Detail)) :
    Only Logging (logEvent modelId eventType details) := by
  have hsave : Only Logging
      (Program.attempt (I := services) (ε := Exn)
        (.storage (.saveAutopilotEvent { modelId, eventType, details }))) :=
    only_attempt (I := services) ⟨_, rfl⟩
  apply hsave.bind
  intro reply
  cases reply with
  | ok _ => exact only_pure _
  | error exc =>
    dsimp only
    cases exc.caught with
    | none => exact only_raise _
    | some _ => exact only_pure _

lemma saveTunedConfig_only (config : TunedConfig) :
    Only (fun c => c = Call.storage (.saveTunedConfig config)) (saveTunedConfig config) :=
  only_perform (I := services) rfl

lemma apply_only (session : TuningSession) : Only Committing (apply session) := by
  have hsave : Only Committing (saveTunedConfig
      { modelId := session.modelId, config := session.winner.config }) :=
    (saveTunedConfig_only _).mono fun _ hc => .inr (.inl ⟨_, hc⟩)
  have hlog : Only Committing (logEvent session.modelId "adjust"
      [("config", .config session.winner.config), ("reason", .message session.reason)]) :=
    (logEvent_only _ _ _).mono fun _ hc => .inr (.inr hc)
  exact hsave.bind fun _ => hlog.bind fun _ => only_pure _

lemma commit_only (args : AutopilotArgs) (l : LoopState) (move : Move) :
    Only Committing (commit args l move) := by
  have hlog (eventType : String) (details : List (String × Detail)) :
      Only Committing (logEvent args.modelId eventType details) :=
    (logEvent_only _ _ _).mono fun _ hc => .inr (.inr hc)
  have hnow : Only Committing now := now_only.mono fun _ hc => .inl hc
  cases move with
  | skip existing => exact (hlog _ _).bind fun _ => only_pure _
  | revert probe target =>
    have hsave : Only Committing (saveTunedConfig { modelId := args.modelId, config := target }) :=
      (saveTunedConfig_only _).mono fun _ hc => .inr (.inl ⟨_, hc⟩)
    exact hsave.bind fun _ => hnow.bind fun _ => (hlog _ _).bind fun _ => only_pure _
  | keep session => exact only_pure _
  | withhold session => exact (hlog _ _).bind fun _ => only_pure _
  | adopt session => exact (apply_only session).bind fun _ => hnow.bind fun _ => only_pure _

variable {W : Type} {env : Environment W}

lemma choosing_store (c : Call) (s : System W) (h : Choosing c) :
    ((serving env).handle c s).2.store = s.store := by
  rcases h with h | rfl | ⟨m, rfl⟩
  · exact serving_offStore env c s h.offStore
  · rfl
  · rfl

/-- A choice never changes the store, and every step of it sees the same one. -/
lemma choose_store (args : AutopilotArgs) (l : LoopState) (s : System W) :
    (∀ x ∈ (exec (serving env) (choose args l) s).steps, x.before.store = s.store) ∧
      (exec (serving env) (choose args l) s).state.store = s.store :=
  (choose_only args l).frame System.store choosing_store

lemma choose_savedConfigs (args : AutopilotArgs) (l : LoopState) (s : System W) :
    savedConfigs (exec (serving env) (choose args l) s).steps = [] :=
  savedConfigs_eq_nil (choose_only args l).steps (by simp [Choosing, Measuring])

lemma commit_measurements (args : AutopilotArgs) (l : LoopState) (move : Move) (s : System W) :
    measurements (exec (serving env) (commit args l move) s).steps = [] :=
  measurements_eq_nil (commit_only args l move).steps (by simp [Committing])

/-- A forward pass: at most one probe of the active config, which gave no reason or no
chance to revert, then the benchmarks of `tune_once`. -/
structure Forward (args : AutopilotArgs) (l : LoopState) (stored : Option TunedConfig)
    (t : Trace W) (probes : List BenchmarkResult) (baseline : TuningCandidateResult)
    (candidates : List TuningCandidateResult) : Prop
    extends Tuned args.modelSpec (stored.map TunedConfig.config) (scans t) baseline candidates where
  unlocked : ∀ c, stored = some c → c.isLocked = false
  probes_eq : probes = [] ∧ (stored = none ∨ l.history = []) ∨
    ∃ c b, stored = some c ∧ l.history ≠ [] ∧ probes = [b] ∧ Measured c.config b ∧
      (b.works = false → rollbackTarget ⟨c.config, b⟩ l.history = none)
  trace : measurements t = probes ++ passBenchmarks baseline candidates

/-- Which move a forward session leads to, given the readings of the clock. -/
inductive Verdict (args : AutopilotArgs) (l : LoopState) (session : TuningSession) :
    List ℚ → Move → Prop
  | keep (kept : session.outcome = .keptBaseline) : Verdict args l session [] (.keep session)
  | withhold {limit : ℤ} {time : ℚ} (accepted : session.outcome = .acceptedNew)
      (cap : args.maxAdjustmentsPerDay = some limit)
      (full : limit ≤ adjustmentsInLast24h l.adjustmentTimestamps time) :
      Verdict args l session [time] (.withhold session)
  | adopt {limit : ℤ} {time : ℚ} (accepted : session.outcome = .acceptedNew)
      (cap : args.maxAdjustmentsPerDay = some limit)
      (room : adjustmentsInLast24h l.adjustmentTimestamps time < limit) :
      Verdict args l session [time] (.adopt session)
  | adoptUncapped (accepted : session.outcome = .acceptedNew)
      (cap : args.maxAdjustmentsPerDay = none) : Verdict args l session [] (.adopt session)

/-- Everything a choice can come to, in terms of the stored config it read. -/
inductive Chosen (args : AutopilotArgs) (l : LoopState) (stored : Option TunedConfig)
    (t : Trace W) : Move → Prop
  | skip {existing : TunedConfig} (read : stored = some existing)
      (locked : existing.isLocked = true) (unmeasured : measurements t = [])
      (untimed : clockReads t = []) : Chosen args l stored t (.skip existing)
  | revert {existing : TunedConfig} {b : BenchmarkResult} {target : Config}
      (read : stored = some existing) (unlocked : existing.isLocked = false)
      (known : l.history ≠ []) (measured : Measured existing.config b) (failed : b.works = false)
      (found : rollbackTarget ⟨existing.config, b⟩ l.history = some target)
      (probed : measurements t = [b]) (untimed : clockReads t = []) :
      Chosen args l stored t (.revert ⟨existing.config, b⟩ target)
  | forward {probes : List BenchmarkResult} {baseline : TuningCandidateResult}
      {candidates : List TuningCandidateResult} {move : Move}
      (tuned : Forward args l stored t probes baseline candidates)
      (verdict : Verdict args l (conclude args.modelId baseline candidates) (clockReads t) move) :
      Chosen args l stored t move

lemma rateLimited_ensures (cap : Option ℤ) (timestamps : List ℚ) (s : System W) :
    Ensures (serving env) (rateLimited cap timestamps) s fun r t _ =>
      measurements t = [] ∧ scans t = [] ∧ ∀ limited, r = .ok limited →
        cap = none ∧ clockReads t = [] ∧ limited = false ∨
        ∃ limit time, cap = some limit ∧ clockReads t = [time] ∧
          limited = decide (limit ≤ adjustmentsInLast24h timestamps time) := by
  cases cap with
  | none => exact ensures_pure ⟨rfl, rfl, fun limited h => by cases h; exact .inl ⟨rfl, rfl, rfl⟩⟩
  | some limit =>
    refine (ensures_perform (I := services) (c := .now) (Q := fun r u _ => measurements u = [] ∧
      scans u = [] ∧ ∀ time : ℚ, r = .ok time → clockReads u = [time])
      ⟨rfl, rfl, fun time h => ?_⟩).bind ?_ ?_
    · simp only [clockReads, serving] at h ⊢
      simp [h]
    · intro time u s' hpost
      obtain ⟨hu, hs, htime⟩ := hpost
      refine ensures_pure ⟨by simp [hu], by simp [hs], fun limited h => ?_⟩
      cases h
      exact .inr ⟨limit, time, rfl, by simpa using htime time rfl, rfl⟩
    · intro e u s' hpost
      obtain ⟨hu, hs, -⟩ := hpost
      exact ⟨hu, hs, fun limited h => by cases h⟩

lemma chooseForward_ensures (args : AutopilotArgs) (l : LoopState) (baselineConfig : Option Config)
    (s : System W) :
    Ensures (serving env) (chooseForward args l baselineConfig) s fun r t _ =>
      ∀ move, r = .ok move → ∃ baseline candidates,
        Tuned args.modelSpec baselineConfig (scans t) baseline candidates ∧
        measurements t = passBenchmarks baseline candidates ∧
        Verdict args l (conclude args.modelId baseline candidates) (clockReads t) move := by
  refine ((tuneOnce_ensures args.modelId args.modelSpec baselineConfig s).and
    (R := fun _ t _ => clockReads t = []) (measuring_clockReads (tuneOnce_only _ _ _) s)).bind_ok ?_
  intro session t s' hpost
  obtain ⟨hsession, hclock⟩ := hpost
  obtain ⟨baseline, candidates, rfl, htuned, htrace⟩ := hsession session rfl
  split_ifs with haccepted
  · refine (rateLimited_ensures _ l.adjustmentTimestamps s').bind_ok ?_
    intro limited u s'' hpost
    obtain ⟨hm, hs, hlimited⟩ := hpost
    refine ensures_pure fun move h =>
      ⟨baseline, candidates, by simpa [hs] using htuned, by simpa [hm] using htrace, ?_⟩
    · rcases hlimited limited rfl with ⟨hcap, hu, rfl⟩ | ⟨limit, time, hcap, hu, rfl⟩
      · cases h
        simpa [hclock, hu] using Verdict.adoptUncapped haccepted hcap
      · by_cases hfull : limit ≤ adjustmentsInLast24h l.adjustmentTimestamps time
        · simp only [hfull, decide_true, ↓reduceIte, Except.ok.injEq] at h
          subst h
          simpa [hclock, hu] using Verdict.withhold haccepted hcap hfull
        · simp only [hfull, decide_false, Bool.false_eq_true, ↓reduceIte, Except.ok.injEq] at h
          subst h
          simpa [hclock, hu] using Verdict.adopt haccepted hcap (not_le.mp hfull)
  · refine ensures_pure fun move h =>
      ⟨baseline, candidates, by simpa using htuned, by simpa using htrace, ?_⟩
    cases h
    have hkept : (conclude args.modelId baseline candidates).outcome = .keptBaseline := by
      rcases conclude_cases args.modelId baseline candidates with hc | hc
      · exact hc.1
      · exact absurd hc.1 haccepted
    simpa [hclock] using Verdict.keep hkept

/-- What the check of the active config comes to: without a history nothing is measured. -/
def Checked (l : LoopState) (config : Config) (t : Trace W)
    (revert : Option (TuningCandidateResult × Config)) : Prop :=
  l.history = [] ∧ revert = none ∧ measurements t = [] ∧ scans t = [] ∨
    l.history ≠ [] ∧ ∃ b, Measured config b ∧ measurements t = [b] ∧ scans t = [] ∧
      revert = if b.works then none
        else (rollbackTarget ⟨config, b⟩ l.history).map fun target => (⟨config, b⟩, target)

lemma checkActive_ensures (args : AutopilotArgs) (l : LoopState) (config : Config) (s : System W) :
    Ensures (serving env) (checkActive args l config) s fun r t _ =>
      ∀ revert, r = .ok revert → Checked l config t revert := by
  unfold checkActive
  split_ifs with hh
  · exact ensures_ok (.inl ⟨hh, rfl, rfl, rfl⟩)
  · refine (measure_ensures args.modelId config s).bind_ok ?_
    intro b t s' hb
    obtain ⟨hmeas, ht, hs⟩ := hb b rfl
    dsimp only
    rw [needsRollback_eq]
    cases hw : b.works with
    | false | true =>
      exact ensures_ok (.inr ⟨hh, b, hmeas, by simpa using ht, by simpa using hs, by simp [hw]⟩)

/-- A revert leads away from a config that was measured and failed. -/
lemma Checked.reverts {l : LoopState} {config : Config} {t : Trace W}
    {r : TuningCandidateResult × Config} (h : Checked l config t (some r)) :
    l.history ≠ [] ∧ ∃ b target, Measured config b ∧ b.works = false ∧ measurements t = [b] ∧
      rollbackTarget ⟨config, b⟩ l.history = some target ∧ r = (⟨config, b⟩, target) := by
  rcases h with ⟨-, hnone, -⟩ | ⟨hh, b, hmeas, hm, -, he⟩
  · cases hnone
  · refine ⟨hh, b, ?_⟩
    cases hw : b.works with
    | true => simp [hw] at he
    | false =>
      rw [hw, if_neg Bool.false_ne_true] at he
      obtain ⟨target, htarget, rfl⟩ := Option.map_eq_some_iff.mp he.symm
      exact ⟨target, hmeas, rfl, hm, htarget, rfl⟩

/-- Without a revert the pass goes on, after at most one probe. -/
lemma Checked.goes_on {l : LoopState} {existing : TunedConfig} {t : Trace W}
    (h : Checked l existing.config t none) : scans t = [] ∧
      (measurements t = [] ∧ (some existing = none ∨ l.history = []) ∨
        ∃ c b, some existing = some c ∧ l.history ≠ [] ∧ measurements t = [b] ∧
          Measured c.config b ∧ (b.works = false → rollbackTarget ⟨c.config, b⟩ l.history = none)) := by
  rcases h with ⟨hh, -, hm, hs⟩ | ⟨hh, b, hmeas, hm, hs, he⟩
  · exact ⟨hs, .inl ⟨hm, .inr hh⟩⟩
  · refine ⟨hs, .inr ⟨existing, b, rfl, hh, hm, hmeas, ?_⟩⟩
    intro hw
    rw [hw, if_neg Bool.false_ne_true] at he
    exact Option.map_eq_none_iff.mp he.symm

/-- The inversion of a choice. -/
theorem choose_ensures (args : AutopilotArgs) (l : LoopState) (s : System W) :
    Ensures (serving env) (choose args l) s fun r t _ =>
      ∀ move, r = .ok move → Chosen args l (s.store.getTunedConfig args.modelId) t move := by
  have hread : Ensures (serving env) (getTunedConfig args.modelId) s fun r u _ =>
      r = .ok (s.store.getTunedConfig args.modelId) ∧ measurements u = [] ∧ scans u = [] ∧
        clockReads u = [] := ensures_perform (I := services) ⟨rfl, rfl, rfl, rfl⟩
  apply hread.bind_returned
  intro t₀ s₀ hpost
  obtain ⟨hm₀, hs₀, hc₀⟩ := hpost
  cases hread : s.store.getTunedConfig args.modelId with
  | none =>
    refine (chooseForward_ensures args l none s₀).mono fun r t s' h move hr => ?_
    obtain ⟨baseline, candidates, htuned, htrace, hverdict⟩ := h move hr
    have hforward : Forward args l none (t₀ ++ t) [] baseline candidates :=
      ⟨by simpa [hs₀] using htuned, by simp, .inl ⟨rfl, .inl rfl⟩, by simpa [hm₀] using htrace⟩
    exact .forward hforward (by simpa [hc₀] using hverdict)
  | some existing =>
    dsimp only
    split_ifs with hl
    · exact ensures_ok (.skip rfl hl (by simpa using hm₀) (by simpa using hc₀))
    · have hl' : existing.isLocked = false := by simpa using hl
      refine ((checkActive_ensures args l existing.config s₀).and
        (R := fun _ t _ => clockReads t = []) (measuring_clockReads (checkActive_only _ _ _) s₀)).bind_ok ?_
      intro revert t₁ s₁ hpost
      obtain ⟨hchecked, hc₁⟩ := hpost
      cases revert with
      | some r =>
        obtain ⟨hh, b, target, hmeas, hw, hm₁, htarget, rfl⟩ := (hchecked (some r) rfl).reverts
        exact ensures_ok (.revert rfl hl' hh hmeas hw htarget (by simp [hm₀, hm₁])
          (by simp [hc₀, hc₁]))
      | none =>
        obtain ⟨hs₁, hprobes⟩ := (hchecked none rfl).goes_on
        refine (chooseForward_ensures args l (some existing.config) s₁).mono
          fun r t s' h move hr => ?_
        obtain ⟨baseline, candidates, htuned, htrace, hverdict⟩ := h move hr
        have hunlocked : ∀ c, some existing = some c → c.isLocked = false := by
          rintro c hc
          cases hc
          exact hl'
        have hforward : Forward args l (some existing) (t₀ ++ (t₁ ++ t)) (measurements t₁)
            baseline candidates :=
          ⟨by simpa [hs₀, hs₁] using htuned, hunlocked, hprobes, by simpa [hm₀] using htrace⟩
        exact .forward hforward (by simpa [hc₀, hc₁] using hverdict)

/-- What a commitment does, whether or not it reaches the yield: the saves come first,
in the state the choice was made in, and the rows are appended unlocked. -/
structure Saved (args : AutopilotArgs) (move : Move) (s : System W) (t : Trace W)
    (s' : System W) : Prop where
  saves : savedConfigs t = move.saves args
  rows : s'.store.tunedConfigs = s.store.tunedConfigs ++
    (move.saves args).map fun c => { c with id := some (s.store.tunedConfigs.length + 1) }
  first : ∀ x ∈ t, ∀ c, x.call = .storage (.saveTunedConfig c) →
    x.before = s ∧ c ∈ move.saves args

/-- The loop variables and the session after a commitment that reaches the yield. -/
structure Committed (args : AutopilotArgs) (l : LoopState) (move : Move) (t : Trace W)
    (session : TuningSession) (l' : LoopState) : Prop where
  session_eq : session = move.session args l
  iteration_eq : l'.iteration = l.iteration
  history_eq : l'.history = l.history ++ move.learned
  timestamps_eq : l'.adjustmentTimestamps = l.adjustmentTimestamps ++ clockReads t
  clock : (clockReads t).length = (move.saves args).length

lemma logEvent_ensures (modelId eventType : String) (details : List (String × Detail))
    (s : System W) :
    Ensures (serving env) (logEvent modelId eventType details) s fun r t s' =>
      r = .ok () ∧ (∀ x ∈ t, Logging x.call) ∧ s'.store.tunedConfigs = s.store.tunedConfigs := by
  refine ⟨rfl, fun x hx => ?_, rfl⟩
  obtain rfl := List.mem_singleton.mp hx
  exact ⟨_, rfl⟩

lemma logEvent_saves {t : Trace W} (h : ∀ x ∈ t, Logging x.call) :
    savedConfigs t = [] ∧ clockReads t = [] := by
  exact ⟨savedConfigs_eq_nil h (by simp [Logging]), clockReads_eq_nil h (by simp [Logging])⟩

lemma saveTunedConfig_ensures (config : TunedConfig) (s : System W) :
    Ensures (serving env) (saveTunedConfig config) s fun r t s' =>
      r = .ok (s.store.saveTunedConfig config).1 ∧
        t = [⟨s, .storage (.saveTunedConfig config), .ok (s.store.saveTunedConfig config).1⟩] ∧
        s'.store = (s.store.saveTunedConfig config).2 :=
  ⟨rfl, rfl, rfl⟩

lemma now_ensures (s : System W) :
    Ensures (serving env) now s fun r t s' =>
      (∀ x ∈ t, x.call = .now) ∧ s'.store = s.store ∧ ∀ time : ℚ, r = .ok time → clockReads t = [time] := by
  refine ensures_perform ⟨fun x hx => by rw [List.mem_singleton.mp hx], rfl, fun time h => ?_⟩
  simp only [clockReads, serving] at h ⊢
  simp [h]

lemma now_saves {t : Trace W} (h : ∀ x ∈ t, x.call = .now) : savedConfigs t = [] := by
  have hchoosing : ∀ x ∈ t, Choosing x.call := fun x hx => .inr (.inl (h x hx))
  exact savedConfigs_eq_nil hchoosing (by simp [Choosing, Measuring])

/-- A commitment that only logs and yields. -/
lemma Saved.of_quiet {args : AutopilotArgs} {move : Move} {s s' : System W} {t : Trace W}
    (hmove : move.saves args = []) (ht : savedConfigs t = [])
    (hrows : s'.store.tunedConfigs = s.store.tunedConfigs) : Saved args move s t s' := by
  refine ⟨by rw [ht, hmove], by simp [hmove, hrows], fun x hx c hc => ?_⟩
  have hmem : c ∈ savedConfigs t := List.mem_filterMap.mpr ⟨x, hx, by rw [hc]⟩
  rw [ht] at hmem
  cases hmem

/-- A commitment whose first step saves and whose other steps do not. -/
lemma Saved.of_first {args : AutopilotArgs} {move : Move} {s s' : System W} {t : Trace W}
    {c : TunedConfig} {reply : Except Exn TunedConfig} (hmove : move.saves args = [c])
    (ht : savedConfigs t = [])
    (hrows : s'.store.tunedConfigs = (s.store.saveTunedConfig c).2.tunedConfigs) :
    Saved args move s (⟨s, .storage (.saveTunedConfig c), reply⟩ :: t) s' := by
  refine ⟨by rw [hmove, ← ht]; rfl, by rw [hrows, hmove]; rfl, fun x hx d hd => ?_⟩
  rcases List.mem_cons.mp hx with rfl | hx
  · cases hd
    exact ⟨rfl, by simp [hmove]⟩
  · have hmem : d ∈ savedConfigs t := List.mem_filterMap.mpr ⟨x, hx, by rw [hd]⟩
    rw [ht] at hmem
    cases hmem

lemma rollBack_ensures (args : AutopilotArgs) (l : LoopState) (probe : TuningCandidateResult)
    (target : Config) (s : System W) :
    Ensures (serving env) (rollBack args l probe target) s fun r t s' =>
      Saved args (.revert probe target) s t s' ∧
        ∀ session l', r = .ok (session, l') →
          Committed args l (.revert probe target) t session l' := by
  apply (saveTunedConfig_ensures _ s).bind_returned
  intro t₁ s₁ hpost
  obtain ⟨rfl, hs₁⟩ := hpost
  refine (now_ensures s₁).bind ?_ ?_
  · intro time t₂ s₂ hpost
    obtain ⟨ht₂, hs₂, htime⟩ := hpost
    apply (logEvent_ensures _ _ _ s₂).bind_returned
    intro t₃ s₃ hpost
    obtain ⟨ht₃, hs₃⟩ := hpost
    obtain ⟨hsave₃, hclock₃⟩ := logEvent_saves ht₃
    refine ensures_pure ⟨.of_first rfl (by simp [now_saves ht₂, hsave₃]) (by rw [hs₃, hs₂, hs₁]), ?_⟩
    intro session l' h
    cases h
    refine ⟨rfl, rfl, by simp [Move.learned], ?_, ?_⟩
    · simp [htime time rfl, hclock₃]
    · simp [htime time rfl, hclock₃, Move.saves]
  · intro e t₂ s₂ hpost
    obtain ⟨ht₂, hs₂, -⟩ := hpost
    exact ⟨.of_first rfl (now_saves ht₂) (by rw [hs₂, hs₁]), fun session l' h => by cases h⟩

lemma adopt_ensures (args : AutopilotArgs) (l : LoopState) (session : TuningSession)
    (s : System W) :
    Ensures (serving env) (commit args l (.adopt session)) s fun r t s' =>
      Saved args (.adopt session) s t s' ∧
        ∀ out l', r = .ok (out, l') → Committed args l (.adopt session) t out l' := by
  have happly : Ensures (serving env) (apply session) s fun r t s' =>
      r = .ok (s.store.saveTunedConfig
        { modelId := session.modelId, config := session.winner.config }).1 ∧ (∃ reply u, t = ⟨s, .storage (.saveTunedConfig
        { modelId := session.modelId, config := session.winner.config }), reply⟩ :: u ∧
        savedConfigs u = [] ∧ clockReads u = []) ∧
      s'.store.tunedConfigs = (s.store.saveTunedConfig
        { modelId := session.modelId, config := session.winner.config }).2.tunedConfigs := by
    apply (saveTunedConfig_ensures _ s).bind_returned
    intro t₁ s₁ hpost
    obtain ⟨rfl, hs₁⟩ := hpost
    apply (logEvent_ensures _ _ _ s₁).bind_returned
    intro t₂ s₂ hpost
    obtain ⟨ht₂, hs₂⟩ := hpost
    obtain ⟨hsave, hclock⟩ := logEvent_saves ht₂
    exact ensures_pure ⟨rfl, ⟨_, t₂ ++ [], rfl, by simp [hsave], by simp [hclock]⟩,
      by rw [hs₂, hs₁]⟩
  apply happly.bind_returned
  intro t₁ s₁ hpost
  obtain ⟨⟨reply, u, rfl, hsave, hclock⟩, hs₁⟩ := hpost
  refine (now_ensures s₁).bind ?_ ?_
  · intro time t₂ s₂ hpost
    obtain ⟨ht₂, hs₂, htime⟩ := hpost
    refine ensures_pure ⟨.of_first rfl (by simp [hsave, now_saves ht₂]) (by rw [hs₂, hs₁]), ?_⟩
    intro out l' h
    cases h
    refine ⟨rfl, rfl, rfl, ?_, ?_⟩
    · simp [hclock, htime time rfl]
    · simp [hclock, htime time rfl, Move.saves]
  · intro e t₂ s₂ hpost
    obtain ⟨ht₂, hs₂, -⟩ := hpost
    exact ⟨.of_first rfl (by simp [hsave, now_saves ht₂]) (by rw [hs₂, hs₁]),
      fun out l' h => by cases h⟩

/-- The inversion of a commitment. -/
theorem commit_ensures (args : AutopilotArgs) (l : LoopState) (move : Move) (s : System W) :
    Ensures (serving env) (commit args l move) s fun r t s' =>
      Saved args move s t s' ∧
        ∀ session l', r = .ok (session, l') → Committed args l move t session l' := by
  cases move with
  | skip existing =>
    apply (logEvent_ensures _ _ _ s).bind_returned
    intro t s' hpost
    obtain ⟨ht, hrows⟩ := hpost
    obtain ⟨hsave, hclock⟩ := logEvent_saves ht
    refine ensures_pure ⟨.of_quiet rfl (by simp [hsave]) hrows, fun session l' h => ?_⟩
    cases h
    exact ⟨rfl, rfl, by simp [Move.learned], by simp [hclock], by simp [hclock, Move.saves]⟩
  | revert probe target => exact rollBack_ensures args l probe target s
  | keep session =>
    refine ensures_pure ⟨.of_quiet rfl rfl rfl, fun out l' h => ?_⟩
    cases h
    exact ⟨rfl, rfl, rfl, by simp [clockReads], rfl⟩
  | withhold session =>
    apply (logEvent_ensures _ _ _ s).bind_returned
    intro t s' hpost
    obtain ⟨ht, hrows⟩ := hpost
    obtain ⟨hsave, hclock⟩ := logEvent_saves ht
    refine ensures_pure ⟨.of_quiet rfl (by simp [hsave]) hrows, fun out l' h => ?_⟩
    cases h
    exact ⟨rfl, rfl, rfl, by simp [hclock], by simp [hclock, Move.saves]⟩
  | adopt session => exact adopt_ensures args l session s

/-- One pass that reaches its yield: the choice and the commitment, with the trace of each. -/
structure Pass (args : AutopilotArgs) (l : LoopState) (s : System W) (t : Trace W)
    (session : TuningSession) (l' : LoopState) (s' : System W) (move : Move)
    (chosenSteps commitSteps : Trace W) : Prop where
  steps : t = chosenSteps ++ commitSteps
  chosen : Chosen args l (s.store.getTunedConfig args.modelId) chosenSteps move
  committed : Committed args l move commitSteps session l'
  rows : s'.store.tunedConfigs = s.store.tunedConfigs ++
    (move.saves args).map fun c => { c with id := some (s.store.tunedConfigs.length + 1) }
  saves : savedConfigs t = move.saves args
  measurements : measurements t = Services.measurements chosenSteps

/-- Every pass that reaches its yield has that form. -/
theorem iterate_pass (args : AutopilotArgs) (l : LoopState) (s : System W) :
    Ensures (serving env) (iterate args l) s fun r t s' =>
      ∀ session l', r = .ok (session, l') →
        ∃ move t₁ t₂, Pass args l s t session l' s' move t₁ t₂ := by
  rw [iterate_eq]
  refine ((choose_ensures args l s).and (R := fun _ t s' => savedConfigs t = [] ∧ s'.store = s.store)
    ⟨choose_savedConfigs args l s, (choose_store args l s).2⟩).bind ?_ (fun e t s' _ session l' h => by cases h)
  intro move t₁ s₁ hpost
  obtain ⟨hchosen, hsaves, hstore⟩ := hpost
  refine ((commit_ensures args l move s₁).and (R := fun _ t _ => measurements t = [])
    (commit_measurements args l move s₁)).mono ?_
  intro r t₂ s₂ hpost session l' hr
  obtain ⟨⟨hsaved, hcommitted⟩, hm⟩ := hpost
  refine ⟨move, t₁, t₂, rfl, hchosen move rfl, hcommitted session l' hr, ?_, ?_, ?_⟩
  · rw [hsaved.rows, hstore]
  · simp [hsaves, hsaved.saves]
  · simp [hm]

end LlmMax.AutopilotPass
