import LlmMax.AutopilotRun
import LlmMax.TuneAccounts

/-! The sessions and the sleeps of an autopilot that is drawn to its end, while others may
lock models between its iterations. -/
namespace LlmMax.LoopAccounting
open Domain BenchMetrics AutotuneState Storage EffectProgram Services BenchRunner BenchSummary
open AutotuneDecision AutotuneEngine AutotuneSpec AutopilotPass AutopilotRun TuneAccounts

variable {W : Type} {env : Environment W} {args : AutopilotArgs}

/-- Reading the clock and sleeping do not fail. -/
structure Punctual (env : Environment W) : Prop where
  now : ∀ w, ∃ time, (env.now w).1 = .ok time
  sleep : ∀ seconds w, (env.sleep seconds w).1 = .ok ()

def lockAll (models : List String) (store : InMemoryStorage) : InMemoryStorage :=
  models.foldl (fun store m => store.lockConfig m) store

instance : DecidablePred Between := fun c =>
  match c with
  | .yielded _ | .sleep _ => isTrue trivial
  | .adapterName | .isAvailable | .adapterRun _ _ _ | .scanHardware | .now | .storage _
  | .measured _ => isFalse id

/-- As `serving`, but at a yield and during a sleep others lock some models, which may depend
on everything. -/
def lockedByOthers (env : Environment W) (others : Call → System W → List String) :
    Handler services Exn (System W) where
  handle c s :=
    let out := (serving env).handle c s
    (out.1, if Between c then { out.2 with store := lockAll (others c s) out.2.store } else out.2)

def NumericHistory (history : List TuningCandidateResult) : Prop := ∀ r ∈ history, Numeric r.config

def NumericStored (m : String) (store : InMemoryStorage) : Prop :=
  ∀ c, store.getTunedConfig m = some c → Numeric c.config

lemma lockAll_numeric {m : String} (models : List String) {store : InMemoryStorage}
    (h : NumericStored m store) : NumericStored m (lockAll models store) := by
  induction models generalizing store with
  | nil => exact h
  | cons model models ih =>
    apply ih
    intro c hc
    rw [InMemoryStorage.getTunedConfig_lock] at hc
    split_ifs at hc
    · obtain ⟨old, hold, rfl⟩ := Option.map_eq_some_iff.mp hc
      exact h old hold
    · exact h c hc

/-- The kind that every benchmark is of. -/
abbrev Any (_ : BenchmarkResult) : Prop := True

lemma yields_any : Yields env Any := fun _ _ _ _ _ => trivial

/-- The configs that a move can save or remember have numbers for context sizes. -/
def NumericMove : Move → Prop
  | .skip _ => True
  | .revert _ target => Numeric target
  | .keep session | .withhold session | .adopt session =>
    Numeric session.baseline.config ∧ Numeric session.winner.config

lemma now_accounts (hclock : Punctual env) (modelId : String) :
    Accounts env Any modelId now fun _ => True := by
  intro s
  obtain ⟨time, htime⟩ := hclock.now s.world
  exact ensures_perform (I := services) ⟨⟨time, htime, trivial⟩, rfl, fun _ _ => trivial⟩

lemma rateLimited_accounts (hclock : Punctual env) (modelId : String) (cap : Option ℤ)
    (timestamps : List ℚ) : Accounts env Any modelId (rateLimited cap timestamps) fun _ => True := by
  cases cap with
  | none => exact accounts_pure trivial
  | some limit => exact (now_accounts hclock modelId).bind fun _ _ => accounts_pure trivial

lemma chooseForward_accounts (henv : Dependable env) (hclock : Punctual env) (l : LoopState)
    {baselineConfig : Option Config}
    (hbaseline : ∀ config, baselineConfig = some config → Numeric config) :
    Accounts env Any args.modelId (chooseForward args l baselineConfig) NumericMove := by
  apply (tuneOnce_accounts henv yields_any args.modelId args.modelSpec hbaseline).bind
  intro session hsession
  split_ifs
  · apply (rateLimited_accounts hclock args.modelId _ _).bind
    intro limited _
    apply accounts_pure
    cases limited with
    | true => exact hsession
    | false => exact hsession
  · exact accounts_pure hsession

lemma checkActive_accounts (henv : Dependable env) {l : LoopState} (config : Config)
    (hhistory : NumericHistory l.history) :
    Accounts env Any args.modelId (checkActive args l config) fun revert =>
      ∀ probe target, revert = some (probe, target) → Numeric target := by
  unfold checkActive
  split_ifs
  · exact accounts_pure fun probe target h => by cases h
  · apply (measure_accounts henv yields_any args.modelId config).bind
    intro b _
    dsimp only
    split_ifs
    · apply accounts_pure
      intro probe target h
      obtain ⟨target', htarget, heq⟩ := Option.map_eq_some_iff.mp h
      cases heq
      obtain ⟨r, hr, rfl, -, -⟩ := rollbackTarget_eq_some htarget
      exact hhistory r hr
    · exact accounts_pure fun probe target h => by cases h

/-- A choice comes to a move. -/
lemma choose_returns (henv : Dependable env) (hclock : Punctual env) {l : LoopState}
    (hhistory : NumericHistory l.history) {s : System W}
    (hstored : NumericStored args.modelId s.store) :
    Ensures (serving env) (choose args l) s fun r _ _ => ∃ move, r = .ok move ∧ NumericMove move := by
  have hread : Ensures (serving env) (getTunedConfig args.modelId) s fun r _ s' =>
      r = .ok (s.store.getTunedConfig args.modelId) ∧ s' = s :=
    ensures_perform (I := services) ⟨rfl, rfl⟩
  apply hread.bind_returned
  intro t s' _
  cases hget : s.store.getTunedConfig args.modelId with
  | none => exact (chooseForward_accounts henv hclock l (fun _ h => by cases h)).returns s'
  | some existing =>
    dsimp only
    split_ifs with hl
    · exact ensures_pure ⟨_, rfl, trivial⟩
    · apply Accounts.returns
      apply (checkActive_accounts henv existing.config hhistory).bind
      intro revert hrevert
      cases revert with
      | none =>
        apply chooseForward_accounts henv hclock l
        intro config hconfig
        cases hconfig
        exact hstored existing hget
      | some r => exact accounts_pure (hrevert _ _ rfl)

/-- A commitment ends in its session. -/
lemma commit_returns (hclock : Punctual env) (l : LoopState) (move : Move) (s : System W) :
    Ensures (serving env) (commit args l move) s fun r _ _ => ∃ out, r = .ok out := by
  have hnow (s : System W) : Ensures (serving env) now s fun r _ _ => ∃ time, r = .ok time := by
    obtain ⟨time, htime⟩ := hclock.now s.world
    exact ensures_perform (I := services) ⟨time, htime⟩
  cases move with
  | skip existing =>
    apply (logEvent_ensures _ _ _ s).bind_returned
    intro t s' _
    exact ensures_pure ⟨_, rfl⟩
  | revert probe target =>
    apply (saveTunedConfig_ensures _ s).bind_returned
    intro t s' _
    refine (hnow s').bind ?_ (fun e t s' h => by simp at h)
    intro _ t s' _
    apply (logEvent_ensures _ _ _ s').bind_returned
    intro t s' _
    exact ensures_pure ⟨_, rfl⟩
  | keep session => exact ensures_pure ⟨_, rfl⟩
  | withhold session =>
    apply (logEvent_ensures _ _ _ s).bind_returned
    intro t s' _
    exact ensures_pure ⟨_, rfl⟩
  | adopt session =>
    have happly : Ensures (serving env) (AutotuneEngine.apply session) s fun r _ _ =>
        ∃ saved, r = .ok saved := ⟨_, rfl⟩
    refine happly.bind ?_ (fun e t s' h => by simp at h)
    intro _ t s' _
    refine (hnow s').bind ?_ (fun e t s' h => by simp at h)
    intro _ t s' _
    exact ensures_pure ⟨_, rfl⟩

lemma numericHistory_append {history learned : List TuningCandidateResult}
    (h : NumericHistory history) (h' : NumericHistory learned) :
    NumericHistory (history ++ learned) := List.forall_mem_append.mpr ⟨h, h'⟩

lemma NumericMove.learned {move : Move} (h : NumericMove move) : NumericHistory move.learned := by
  intro r hr
  cases move with
  | skip existing => cases hr
  | revert probe target => cases hr
  | keep session => rw [List.mem_singleton.mp hr]; exact h.2
  | withhold session => rw [List.mem_singleton.mp hr]; exact h.1
  | adopt session => rw [List.mem_singleton.mp hr]; exact h.2

lemma NumericMove.saves {move : Move} (h : NumericMove move) :
    ∀ c ∈ move.saves args, Numeric c.config := by
  intro c hc
  cases move with
  | skip existing => cases hc
  | revert probe target => rw [List.mem_singleton.mp hc]; exact h
  | keep session => cases hc
  | withhold session => cases hc
  | adopt session => rw [List.mem_singleton.mp hc]; exact h.2

lemma numericStored_append {m : String} {store after : InMemoryStorage} {rows : List TunedConfig}
    (hstored : NumericStored m store) (hrows : ∀ c ∈ rows, Numeric c.config)
    (hafter : after.tunedConfigs = store.tunedConfigs ++ rows) : NumericStored m after := by
  intro c hc
  have hcurrent : current m after.tunedConfigs = some c := hc
  rw [hafter, current, List.filter_append, List.getLast?_append] at hcurrent
  cases hlast : (rows.filter fun c => c.modelId = m).getLast? with
  | none =>
    rw [hlast] at hcurrent
    exact hstored c hcurrent
  | some row =>
    rw [hlast] at hcurrent
    cases hcurrent
    exact hrows c (List.mem_of_mem_filter (List.mem_of_getLast? hlast))

/-- An iteration reaches its yield, and leaves numbers behind where it found numbers. -/
theorem iterate_returns (henv : Dependable env) (hclock : Punctual env) {l : LoopState}
    (hhistory : NumericHistory l.history) {s : System W}
    (hstored : NumericStored args.modelId s.store) :
    Ensures (serving env) (iterate args l) s fun r _ s' =>
      ∃ session l', r = .ok (session, l') ∧ l'.iteration = l.iteration ∧
        NumericHistory l'.history ∧ NumericStored args.modelId s'.store := by
  rw [iterate_eq]
  have hkeep : Ensures (serving env) (choose args l) s fun _ _ s' => s'.store = s.store :=
    (choose_store args l s).2
  refine ((choose_returns henv hclock hhistory hstored).and hkeep).bind ?_ ?_
  · intro move t₁ s₁ hpost
    obtain ⟨⟨move', hmove', hnumeric⟩, hstore⟩ := hpost
    cases hmove'
    apply ((commit_returns hclock l move s₁).and (commit_ensures args l move s₁)).mono
    intro r t₂ s₂ hpost
    obtain ⟨⟨⟨session, l'⟩, hr⟩, hsaved, hcommitted⟩ := hpost
    have hc := hcommitted session l' hr
    refine ⟨session, l', hr, hc.iteration_eq, ?_, ?_⟩
    · rw [hc.history_eq]
      exact numericHistory_append hhistory hnumeric.learned
    · have hrows := hsaved.rows
      rw [hstore] at hrows
      apply numericStored_append hstored _ hrows
      intro row hrow
      obtain ⟨c, hmem, rfl⟩ := List.mem_map.mp hrow
      exact hnumeric.saves c hmem
  · intro e t₁ s₁ hpost
    obtain ⟨⟨move, hmove, -⟩, -⟩ := hpost
    cases hmove

section loop
variable {others : Call → System W → List String}

lemma iterating_not_between {c : Call} (h : Iterating c) : ¬ Between c := by
  intro hbetween
  cases c with
  | yielded session => simp [Iterating, Choosing, Committing, Measuring] at h
  | sleep seconds => simp [Iterating, Choosing, Committing, Measuring] at h
  | _ => exact hbetween

/-- Others do not get in the way of an iteration. -/
lemma iterate_alone (l : LoopState) (s : System W) :
    exec (lockedByOthers env others) (iterate args l) s = exec (serving env) (iterate args l) s := by
  apply (iterate_only l).exec_congr
  intro c s hc
  simp only [lockedByOthers, if_neg (iterating_not_between hc)]

/-- The sessions of a trace, oldest first. -/
def sessions (t : Trace W) : List TuningSession := (handovers t).map Prod.snd

/-- What the consumer and the sleep function see. -/
inductive Mark
  | session (s : TuningSession)
  | sleep (seconds : ℚ)
  deriving DecidableEq

/-- The sessions and the sleeps of a trace in order. -/
def marks (t : Trace W) : List Mark :=
  t.filterMap fun x => match x.call with
    | .yielded session => some (.session session)
    | .sleep seconds => some (.sleep seconds)
    | _ => none

@[simp] lemma marks_append (t u : Trace W) : marks (t ++ u) = marks t ++ marks u :=
  List.filterMap_append

lemma iterate_marks (l : LoopState) (s : System W) :
    marks (exec (serving env) (iterate args l) s).steps = [] := by
  apply List.filterMap_eq_nil_iff.mpr
  intro x hx
  have hc := iterating_not_between ((iterate_only l).steps x hx)
  split
  · rename_i session hcall
    rw [hcall] at hc
    exact absurd trivial hc
  · rename_i seconds hcall
    rw [hcall] at hc
    exact absurd trivial hc
  · rfl

/-- Sessions with one sleep of that length between any two of them; as many as there are
iterations, or fewer if the last one is locked, and no other is. -/
structure Accounted (seconds : ℚ) (iterations : ℕ) (seen : List Mark)
    (sessions : List TuningSession) : Prop where
  alternates : seen = (sessions.map Mark.session).intersperse (.sleep seconds)
  length_le : sessions.length ≤ iterations
  stopped : sessions.length < iterations →
    ∃ session, sessions.getLast? = some session ∧ session.outcome = .locked
  locked_last : ∀ session ∈ sessions.dropLast, session.outcome ≠ .locked

lemma accounted_zero (seconds : ℚ) : Accounted seconds 0 [] [] :=
  ⟨rfl, le_rfl, fun h => absurd h (lt_irrefl 0), by simp⟩

lemma accounted_locked (seconds : ℚ) (iterations : ℕ) {session : TuningSession}
    (h : session.outcome = .locked) :
    Accounted seconds (iterations + 1) [.session session] [session] := by
  refine ⟨rfl, by simp, fun _ => ⟨session, rfl, h⟩, by simp⟩

/-- One session more before the others, with a sleep if any may follow. -/
lemma Accounted.step {seconds : ℚ} {left : ℕ} {seen : List Mark} {rest : List TuningSession}
    (h : Accounted seconds left seen rest) {session : TuningSession}
    (hsession : session.outcome ≠ .locked) :
    Accounted seconds (left + 1)
      (.session session :: ((if 0 < left then [.sleep seconds] else []) ++ seen))
      (session :: rest) := by
  cases hrest : rest with
  | nil =>
    have hzero : left = 0 := by
      by_contra hne
      obtain ⟨last, hlast, -⟩ := h.stopped (by rw [hrest]; exact Nat.pos_of_ne_zero hne)
      rw [hrest] at hlast
      cases hlast
    have hseen : seen = [] := by
      rw [h.alternates, hrest]
      rfl
    subst hzero hseen
    exact ⟨rfl, le_rfl, fun hlt => by simp at hlt, by simp⟩
  | cons next others =>
    subst hrest
    have hleft : 0 < left := lt_of_lt_of_le (Nat.succ_pos _) h.length_le
    rw [if_pos hleft]
    refine ⟨?_, ?_, ?_, ?_⟩
    · rw [h.alternates]
      rfl
    · simpa using h.length_le
    · intro hlt
      obtain ⟨last, hlast, hlocked⟩ := h.stopped (by simpa using hlt)
      exact ⟨last, by simpa using hlast, hlocked⟩
    · intro other hother
      rw [List.dropLast_cons_cons] at hother
      rcases List.mem_cons.mp hother with rfl | hother
      · exact hsession
      · exact h.locked_last other hother

lemma continues_of_left {n iteration left : ℕ} (hmax : args.maxIterations = some (n : ℤ))
    (hleft : iteration + left = n) : args.continues iteration = true ↔ 0 < left := by
  unfold AutopilotArgs.continues
  rw [hmax]
  simp only [decide_eq_true_eq]
  omega

/-- After a yield the loop sleeps exactly if an iteration is left. -/
lemma advance_returns (hclock : Punctual env) (l : LoopState) {s : System W}
    (hstored : NumericStored args.modelId s.store) :
    Ensures (lockedByOthers env others) (advance args l) s fun r t s' =>
      r = .ok { l with iteration := l.iteration + 1 } ∧ handovers t = [] ∧
      marks t = (if args.continues (l.iteration + 1) then [.sleep args.intervalSeconds] else []) ∧
      NumericStored args.modelId s'.store := by
  unfold advance
  dsimp only
  split_ifs with hcontinues
  · have hslept : Ensures (lockedByOthers env others)
        (Program.perform (I := services) (.sleep args.intervalSeconds)) s fun r t s' =>
        r = .ok () ∧ handovers t = [] ∧ marks t = [.sleep args.intervalSeconds] ∧
          NumericStored args.modelId s'.store :=
      ensures_perform (I := services) ⟨hclock.sleep _ _, rfl, rfl, lockAll_numeric _ hstored⟩
    apply hslept.bind_returned
    intro t s' hpost
    obtain ⟨hhandovers, hmarks, hstored'⟩ := hpost
    exact ensures_pure ⟨rfl, by simp [hhandovers], by simp [hmarks], hstored'⟩
  · exact ensures_pure ⟨rfl, rfl, rfl, hstored⟩

/-- Others have no say within a pass, which returns and is no mark by itself. -/
lemma iterate_unmarked (henv : Dependable env) (hclock : Punctual env) {l : LoopState}
    (hhistory : NumericHistory l.history) {s : System W} (hstored : NumericStored args.modelId s.store) :
    Ensures (lockedByOthers env others) (iterate args l) s fun r t s' =>
      (∃ session l', r = .ok (session, l') ∧ l'.iteration = l.iteration ∧
        NumericHistory l'.history ∧ NumericStored args.modelId s'.store) ∧
      marks t = [] ∧ handovers t = [] := by
  unfold Ensures
  rw [iterate_alone]
  exact ⟨iterate_returns henv hclock hhistory hstored, iterate_marks l s, iterate_handovers l s⟩

lemma yielded_marks (session : TuningSession) {s : System W}
    (hstored : NumericStored args.modelId s.store) :
    Ensures (lockedByOthers env others) (Program.perform (I := services) (.yielded session)) s
      fun r t s' => r = .ok () ∧ marks t = [.session session] ∧ handovers t = [(s, session)] ∧
        NumericStored args.modelId s'.store :=
  ensures_perform (I := services) ⟨rfl, rfl, rfl, lockAll_numeric _ hstored⟩

variable (others) in
/-- Drawn to its end from any iteration, the loop ends by itself, and its account is right. -/
theorem autopilotLoop_accounted (henv : Dependable env) (hclock : Punctual env) {n : ℕ}
    (hmax : args.maxIterations = some (n : ℤ)) {left draws : ℕ} (hdraws : left ≤ draws)
    {l : LoopState} (hleft : l.iteration + left = n) (hhistory : NumericHistory l.history)
    {s : System W} (hstored : NumericStored args.modelId s.store) :
    Ensures (lockedByOthers env others) (autopilotLoop args draws l) s fun r t _ =>
      r = .ok () ∧ Accounted args.intervalSeconds left (marks t) (sessions t) := by
  induction draws generalizing left l s with
  | zero =>
    obtain rfl : left = 0 := by omega
    exact ensures_pure ⟨rfl, accounted_zero _⟩
  | succ draws ih =>
    unfold autopilotLoop
    cases left with
    | zero =>
      rw [if_neg (by rw [continues_of_left hmax hleft]; omega)]
      exact ensures_pure ⟨rfl, accounted_zero _⟩
    | succ left =>
      rw [if_pos ((continues_of_left hmax hleft).mpr (Nat.succ_pos left))]
      refine (iterate_unmarked henv hclock hhistory hstored).bind ?_ (fun e t s' h => by simp at h)
      intro out t₁ s₁ hpost
      obtain ⟨⟨session, l', hout, hiteration, hhistory', hstored'⟩, hmarks, hhandovers⟩ := hpost
      cases hout
      apply (yielded_marks session hstored').bind_returned
      intro t₂ s₂ hpost
      obtain ⟨hmarks₂, hhandovers₂, hstored₂⟩ := hpost
      split_ifs with hlocked
      · apply ensures_pure
        simpa [sessions, hmarks, hmarks₂, hhandovers, hhandovers₂] using
          accounted_locked args.intervalSeconds left hlocked
      · apply (advance_returns hclock l' hstored₂).bind_returned
        intro t₃ s₃ hpost
        obtain ⟨hhandovers₃, hmarks₃, hstored₃⟩ := hpost
        have hleft' : l'.iteration + 1 + left = n := by omega
        have hrest := ih (show left ≤ draws by omega) (l := { l' with iteration := l'.iteration + 1 })
          hleft' hhistory' hstored₃
        apply hrest.mono
        intro r t₄ s₄ hpost
        obtain ⟨hr, haccount⟩ := hpost
        refine ⟨hr, ?_⟩
        have hstep := haccount.step hlocked
        simp only [continues_of_left hmax hleft'] at hmarks₃
        simpa [sessions, hmarks, hmarks₂, hmarks₃, hhandovers, hhandovers₂, hhandovers₃] using hstep

/-- Once every iteration is done, the consumer can ask as often as it likes. -/
theorem autopilotLoop_exhausted {n : ℕ} (hmax : args.maxIterations = some (n : ℤ))
    {left draws : ℕ} (hdraws : left ≤ draws) {l : LoopState} (hleft : l.iteration + left = n)
    (s : System W) : exec (lockedByOthers env others) (autopilotLoop args draws l) s =
      exec (lockedByOthers env others) (autopilotLoop args left l) s := by
  induction draws generalizing left l s with
  | zero =>
    obtain rfl : left = 0 := by omega
    rfl
  | succ draws ih =>
    cases left with
    | zero =>
      unfold autopilotLoop
      rw [if_neg (by rw [continues_of_left hmax hleft]; omega)]
    | succ left =>
      have hcontinues := (continues_of_left hmax hleft).mpr (Nat.succ_pos left)
      unfold autopilotLoop
      rw [if_pos hcontinues, if_pos hcontinues]
      apply exec_bind_congr
      intro out hout
      obtain ⟨session, l'⟩ := out
      have hiteration : l'.iteration = l.iteration := by
        rw [iterate_alone] at hout
        obtain ⟨move, t₁, t₂, hpass⟩ := iterate_pass args l s session l' hout
        exact hpass.committed.iteration_eq
      apply exec_bind_congr
      intro _ _
      split_ifs with hlocked
      · rfl
      · apply exec_bind_congr
        intro next hnext
        rw [advance_ensures l' _ next hnext]
        have hleft' : l'.iteration + 1 + left = n := by omega
        exact ih (by omega) hleft' _

/-- The lengths of the sleeps in a trace. -/
def sleeps (t : Trace W) : List ℚ :=
  (marks t).filterMap fun
    | .session _ => none
    | .sleep seconds => some seconds

lemma Accounted.sleeps_eq {seconds : ℚ} {iterations : ℕ} {t : Trace W} {rest : List TuningSession}
    (h : Accounted seconds iterations (marks t) rest) :
    sleeps t = List.replicate (rest.length - 1) seconds := by
  unfold sleeps
  rw [h.alternates]
  clear h
  induction rest with
  | nil => rfl
  | cons session rest ih =>
    cases rest with
    | nil => rfl
    | cons next rest =>
      rw [List.map_cons, List.map_cons, List.intersperse_cons_cons, ← List.map_cons]
      simpa [List.replicate_succ] using ih

/-- Exhausting the loop with a number of iterations ends, after a session an iteration or up to
the first locked one, with one sleep between any two sessions. -/
theorem autopilot_accounted (henv : Dependable env) (hclock : Punctual env) {n : ℕ}
    (hmax : args.maxIterations = some (n : ℤ)) (hhistory : NumericHistory args.initialHistory)
    {s : System W} (hstored : NumericStored args.modelId s.store) {draws : ℕ} (hdraws : n ≤ draws) :
    let out := exec (lockedByOthers env others) (autopilotLoop args draws (.start args)) s
    out.result = .ok () ∧
      out = exec (lockedByOthers env others) (autopilotLoop args n (.start args)) s ∧
      Accounted args.intervalSeconds n (marks out.steps) (sessions out.steps) ∧
      sleeps out.steps = List.replicate ((sessions out.steps).length - 1) args.intervalSeconds := by
  intro out
  obtain ⟨hresult, haccount⟩ := autopilotLoop_accounted others henv hclock hmax
    hdraws (l := .start args) (Nat.zero_add n) hhistory hstored
  exact ⟨hresult, autopilotLoop_exhausted hmax hdraws (Nat.zero_add n) s, haccount,
    haccount.sleeps_eq⟩

lemma clocked_dependable (gpus : List GpuInfo) (respond : ℚ → Option Config → Except String ℚ) :
    Dependable (clocked gpus (fun _ => true) respond) :=
  ⟨fun _ => rfl, fun _ => ⟨_, rfl⟩, clocked_neverInterrupts _ _ _⟩

lemma clocked_punctual (gpus : List GpuInfo) (available : ℚ → Bool)
    (respond : ℚ → Option Config → Except String ℚ) : Punctual (clocked gpus available respond) :=
  ⟨fun time => ⟨time, rfl⟩, fun _ _ => rfl⟩

/-- Five iterations, of which others lock the model during the second sleep. -/
theorem autopilot_accounted_growing :
    let args : AutopilotArgs := { modelId := "m", maxIterations := some 5 }
    let others : Call → System ℚ → List String := fun c s =>
      if c = .sleep 3600 ∧ s.world = 3600 then ["m"] else []
    let out := exec (lockedByOthers (growing ∅) others) (autopilotLoop args 7 (.start args))
      ⟨0, ⟨[], [], []⟩⟩
    out.result = .ok () ∧
      out = exec (lockedByOthers (growing ∅) others) (autopilotLoop args 5 (.start args))
        ⟨0, ⟨[], [], []⟩⟩ ∧
      Accounted args.intervalSeconds 5 (marks out.steps) (sessions out.steps) ∧
      sleeps out.steps = List.replicate ((sessions out.steps).length - 1) args.intervalSeconds :=
  autopilot_accounted (clocked_dependable _ _) (clocked_punctual _ _ _) rfl
    (fun _ h => by cases h) (fun _ h => by cases h) (by norm_num)

end loop

end LlmMax.LoopAccounting
