import LlmMax.AutopilotProtocol
import LlmMax.Operations

/-! What complete operations do to a locked config. All of them keep it, except a
one-shot tune that is applied: that saves a fresh row, which is not locked. -/
namespace LlmMax.LockPersistence
open Domain BenchMetrics AutotuneState Storage EffectProgram EffectThreads Services
open AutotuneDecision AutotuneEngine AutotuneSpec AutopilotPass AutopilotRun AutopilotProtocol
open Operations

variable {W : Type} {env : Environment W} {m : String}

def onAdapter : Call → Bool
  | .adapterName | .isAvailable | .adapterRun _ _ _ => true
  | _ => false

/-- The lock is there throughout the operation and after it, and an autopilot on the model
yields one locked session, asks the adapter nothing and saves nothing. -/
def Persists (m : String) (r : Record W) : Prop :=
  (∀ x ∈ r.steps, x.before.store.Locked m) ∧ r.after.store.Locked m ∧
    match r.operation with
    | .autopilot args _ => args.modelId = m →
      (handovers r.steps).map (fun y => y.2.outcome) = [.locked] ∧
      (∀ x ∈ r.steps, onAdapter x.call = false) ∧ savedConfigs r.steps = []
    | _ => True

instance : ∀ r : Record W, Decidable (Persists m r)
  | ⟨.tune _ _ _, _, _, _⟩ => inferInstanceAs (Decidable (_ ∧ _ ∧ True))
  | ⟨.run _ _ _, _, _, _⟩ => inferInstanceAs (Decidable (_ ∧ _ ∧ True))
  | ⟨.pass _ _, _, _, _⟩ => inferInstanceAs (Decidable (_ ∧ _ ∧ True))
  | ⟨.autopilot _ _, _, _, _⟩ => inferInstanceAs (Decidable (_ ∧ _ ∧ (_ → _ ∧ _ ∧ _)))
  | ⟨.disable _, _, _, _⟩ => inferInstanceAs (Decidable (_ ∧ _ ∧ True))

/-- The benchmarks of a one-shot tune: those of the baseline and of the candidates. -/
def survey (modelId : String) (modelSpec : Option ModelSpec) :
    Engine (TuningCandidateResult × List TuningCandidateResult) := do
  requireRuntime
  let config ← baselineOr modelSpec none
  let benchmark ← measure modelId config
  let configs ← Program.lift (generateCandidates config)
  let candidates ← measureCandidates modelId ⟨config, benchmark⟩ configs
  return (⟨config, benchmark⟩, candidates)

/-- Benchmarked in that state, some candidate is a meaningful improvement on the baseline. -/
def FindsBetter (env : Environment W) (modelId : String) (modelSpec : Option ModelSpec)
    (s : System W) : Prop :=
  ∃ baseline candidates best,
    (exec (serving env) (survey modelId modelSpec) s).result = .ok (baseline, candidates) ∧
    pickBest candidates = some best ∧ best.config ≠ baseline.config ∧
    isMeaningfulImprovement best baseline

/-- A tune of the model that is not dry finds nothing better, and an autopilot on the model
has an iteration to do. -/
def Harmless (env : Environment W) (m : String) (r : Record W) : Prop :=
  match r.operation with
  | .tune modelId modelSpec dryRun =>
    modelId = m → dryRun = false → ¬ FindsBetter env m modelSpec r.before
  | .autopilot args _ => args.modelId = m → args.continues 0
  | _ => True

/-- Calls that save no config of the model. -/
def Spares (m : String) (c : Call) : Prop :=
  ∀ config, c = .storage (.saveTunedConfig config) → config.modelId ≠ m

lemma spares_locked {c : Call} (h : Spares m c) {s : System W} (hs : s.store.Locked m) :
    ((serving env).handle c s).2.store.Locked m := by
  obtain ⟨stored, hstored, hlocked⟩ := hs
  cases c with
  | storage op =>
    cases op with
    | saveTunedConfig config =>
      have hne : config.modelId ≠ m := h config rfl
      refine ⟨stored, ?_, hlocked⟩
      change (s.store.saveTunedConfig config).2.getTunedConfig m = some stored
      rw [InMemoryStorage.getTunedConfig_save, if_neg hne, hstored]
    | lockConfig modelId =>
      change (s.store.lockConfig modelId).Locked m
      rw [InMemoryStorage.Locked, InMemoryStorage.getTunedConfig_lock, hstored]
      split_ifs with heq
      · exact ⟨_, rfl, rfl⟩
      · exact ⟨stored, rfl, hlocked⟩
    | _ => exact ⟨stored, hstored, hlocked⟩
  | _ => exact ⟨stored, hstored, hlocked⟩

/-- A program that spares the model keeps its lock. -/
lemma locked_of_spares (env : Environment W) {α : Type} {p : Engine α} (hp : Only (Spares m) p) {s : System W}
    (hs : s.store.Locked m) : Ensures (serving env) p s fun _ t s' =>
      (∀ x ∈ t, x.before.store.Locked m) ∧ s'.store.Locked m := by
  have hinv := hp.invariant (H := serving env) (fun s' : System W => s'.store.Locked m)
    (fun _ _ hc hs' => spares_locked hc hs') hs
  exact hinv

lemma spares_of_measuring {c : Call} (h : Measuring c) : Spares m c := by
  rintro config rfl
  exact absurd rfl (h.offStore _)

lemma only_spares_of_loopProtocol {modelId : String} (hne : modelId ≠ m) {fresh : Bool} {α : Type}
    {p : Engine α} (h : Complies (loopProtocol modelId) (fun _ _ => True) fresh p) :
    Only (Spares m) p := by
  apply h.only
  rintro fresh' c hc config rfl
  obtain ⟨-, hmodel⟩ := hc
  rwa [hmodel]

lemma tune_spares {modelId : String} (hne : modelId ≠ m) (modelSpec : Option ModelSpec)
    (dryRun : Bool) : Only (Spares m) (tune modelId modelSpec dryRun) := by
  let P : Protocol services Exn Unit := ⟨fun _ => Spares m, fun _ _ _ => ()⟩
  have hcomplies : Complies P (fun _ _ => True) () (tune modelId modelSpec dryRun) := by
    apply (tuneOnce_complies (P := P) (fun c hc => ⟨spares_of_measuring hc, fun _ => rfl⟩)
      modelId modelSpec none).bind
    intro session q hpost
    obtain ⟨-, hmodel⟩ := hpost
    split_ifs with haccept
    · have hsave : Complies P (fun _ _ => True) q (saveTunedConfig
          { modelId := session.modelId, config := session.winner.config }) := by
        refine complies_perform (I := services) ?_ fun _ => trivial
        intro config hconfig
        cases hconfig
        rwa [hmodel]
      have hlog (details : List (String × Detail)) :
          Complies P (fun _ _ => True) () (logEvent session.modelId "adjust" details) := by
        have honly : Only (Spares m) (logEvent session.modelId "adjust" details) := by
          refine (logEvent_only _ _ _).mono fun c hc config hconfig => ?_
          obtain ⟨event, rfl⟩ := hc
          cases hconfig
        exact (complies_of_only honly fun c hc => ⟨hc, fun _ => rfl⟩).mono fun _ _ _ => trivial
      have happly : Complies P (fun _ _ => True) q (AutotuneEngine.apply session) := by
        apply hsave.bind
        intro saved q' _
        apply (hlog _).bind
        intro _ q'' _
        exact complies_pure trivial
      apply happly.bind
      intro _ q' _
      exact complies_pure trivial
    · exact complies_pure trivial
  exact hcomplies.only fun _ _ hc => hc

lemma run_spares (modelId prompt : String) (modelSpec : Option ModelSpec) :
    Only (Spares m) (LauncherService.run modelId prompt modelSpec) := by
  apply (LauncherService.run_only modelId prompt modelSpec).mono
  intro c hc config hconfig
  obtain hoff | ⟨record, rfl⟩ := hc
  · exact absurd hconfig (hoff _)
  · cases hconfig

lemma disable_spares (modelId : String) : Only (Spares m) (autopilotDisable modelId) := by
  have hread : Only (Spares m) (getTunedConfig modelId) :=
    only_perform (I := services) fun _ h => by cases h
  have hlock : Only (Spares m) (lockConfig modelId) :=
    only_perform (I := services) fun _ h => by cases h
  apply hread.bind
  intro stored
  cases stored with
  | none => exact only_pure _
  | some _ => exact hlock.bind fun _ => only_pure _

lemma disable_store (modelId : String) (s : System W) :
    (exec (serving env) (Operation.disable modelId).program s).state.store =
      s.store.lockConfig modelId := by
  have hdiscard := (exec_discard (serving env) (autopilotDisable modelId) s).2
  apply (congrArg System.store hdiscard).trans
  unfold autopilotDisable
  cases hstored : s.store.getTunedConfig modelId with
  | none =>
    have hread : (exec (serving env) (getTunedConfig modelId) s).result = .ok none :=
      congrArg Except.ok hstored
    rw [exec_bind_ok hread]
    exact (InMemoryStorage.lockConfig_of_none hstored).symm
  | some c =>
    have hread : (exec (serving env) (getTunedConfig modelId) s).result = .ok (some c) :=
      congrArg Except.ok hstored
    rw [exec_bind_ok hread]
    rfl

/-- Disabling a model that has a config locks it. -/
lemma disable_locks {s : System W} (h : (s.store.getTunedConfig m).isSome) :
    (exec (serving env) (Operation.disable m).program s).state.store.Locked m := by
  rw [disable_store, InMemoryStorage.locked_lock_iff]
  exact h

/-- On a locked model an iteration reads, notes the skip, and stops. -/
lemma iterate_locked (env : Environment W) {args : AutopilotArgs} (l : LoopState) {s : System W} {existing : TunedConfig}
    (hread : s.store.getTunedConfig args.modelId = some existing)
    (hlocked : existing.isLocked = true) :
    exec (serving env) (iterate args l) s =
      let event : AutopilotEvent :=
        { modelId := args.modelId, eventType := "lock", details := [("config", .config existing.config)] }
      ⟨.ok (lockedSession args.modelId existing.config, l),
        [⟨s, .storage (.getTunedConfig args.modelId), .ok (some existing)⟩,
          ⟨s, .storage (.saveAutopilotEvent event), .ok (s.store.saveAutopilotEvent event).1⟩],
        { s with store := (s.store.saveAutopilotEvent event).2 }⟩ := by
  have hget : (serving env).handle (.storage (.getTunedConfig args.modelId)) s =
      (.ok (some existing), s) := Prod.ext (congrArg Except.ok hread) rfl
  exact iterate_of_locked l rfl hget hlocked rfl

lemma tuneOnce_eq (modelId : String) (modelSpec : Option ModelSpec) :
    tuneOnce modelId modelSpec none =
      survey modelId modelSpec >>= fun r => pure (conclude modelId r.1 r.2) := by
  unfold tuneOnce survey
  simp only [Program.bind_assoc]
  rfl

/-- A one-shot tune accepts exactly when its benchmarks find something better. -/
lemma tuneOnce_accepts_iff {modelId : String} {modelSpec : Option ModelSpec} {s : System W} :
    (∃ session, (exec (serving env) (tuneOnce modelId modelSpec none) s).result = .ok session ∧
      session.outcome = .acceptedNew) ↔ FindsBetter env modelId modelSpec s := by
  unfold FindsBetter
  rw [tuneOnce_eq]
  cases hr : (exec (serving env) (survey modelId modelSpec) s).result with
  | error e => simp [exec_bind_error hr]
  | ok out =>
    obtain ⟨baseline, candidates⟩ := out
    have hresult (session : TuningSession) : (exec (serving env) (survey modelId modelSpec >>=
        fun r => pure (conclude modelId r.1 r.2)) s).result = .ok session ↔
        conclude modelId baseline candidates = session := by
      simp [exec_bind_ok hr]
    constructor
    · rintro ⟨session, hsession, haccepted⟩
      rw [hresult] at hsession
      subst hsession
      obtain ⟨best, hbest⟩ := (conclude_accepted_iff _ _ _).mp haccepted
      exact ⟨baseline, candidates, best, rfl, hbest⟩
    · rintro ⟨baseline', candidates', best, heq, hbest⟩
      cases heq
      exact ⟨_, (hresult _).mpr rfl, (conclude_accepted_iff _ _ _).mpr ⟨best, hbest⟩⟩

/-- An applied session becomes the current config of its model, unlocked. -/
lemma apply_unlocked (env : Environment W) (session : TuningSession) (s : System W) :
    ¬ (exec (serving env) (AutotuneEngine.apply session) s).state.store.Locked session.modelId := by
  intro hlocked
  obtain ⟨c, hc, hl⟩ := hlocked
  have hrows : (exec (serving env) (AutotuneEngine.apply session) s).state.store.getTunedConfig
      session.modelId = (s.store.saveTunedConfig
        { modelId := session.modelId, config := session.winner.config }).2.getTunedConfig
          session.modelId := rfl
  rw [hrows, InMemoryStorage.getTunedConfig_save, if_pos rfl] at hc
  cases hc
  cases hl

/-- A tune of the locked model keeps the lock unless it is applied to something better. -/
lemma tune_persists_iff (env : Environment W) (modelSpec : Option ModelSpec) (dryRun : Bool) {s : System W}
    (hs : s.store.Locked m) :
    ((∀ x ∈ (exec (serving env) (tune m modelSpec dryRun) s).steps, x.before.store.Locked m) ∧
      (exec (serving env) (tune m modelSpec dryRun) s).state.store.Locked m) ↔
      (dryRun = false → ¬ FindsBetter env m modelSpec s) := by
  have hmeasured : Ensures (serving env) (tuneOnce m modelSpec none) s fun _ t s' =>
      (∀ x ∈ t, x.before.store.Locked m) ∧ s'.store.Locked m :=
    locked_of_spares env ((tuneOnce_only m modelSpec none).mono fun _ hc => spares_of_measuring hc) hs
  unfold tune
  cases hr : (exec (serving env) (tuneOnce m modelSpec none) s).result with
  | error e =>
    have hnone : ¬ FindsBetter env m modelSpec s := by
      rw [← tuneOnce_accepts_iff]
      rintro ⟨session, hsession, -⟩
      rw [hr] at hsession
      cases hsession
    rw [exec_bind_error hr]
    exact ⟨fun _ _ => hnone, fun _ => hmeasured⟩
  | ok session =>
    have hfinds : session.outcome = .acceptedNew ↔ FindsBetter env m modelSpec s := by
      rw [← tuneOnce_accepts_iff, hr]
      simp
    have hmodel : session.modelId = m := by
      have hsession := tuneOnce_ensures m modelSpec none s session hr
      obtain ⟨baseline, candidates, rfl, -⟩ := hsession
      exact conclude_modelId _ _ _
    rw [exec_bind_ok hr]
    split_ifs with haccept
    · obtain ⟨haccepted, hdry⟩ := haccept
      refine iff_of_false ?_ fun h => h hdry (hfinds.mp haccepted)
      rintro ⟨-, hlocked⟩
      exact apply_unlocked env session _ (hmodel ▸ hlocked)
    · refine iff_of_true ⟨?_, hmeasured.2⟩ fun hdry hbetter => haccept ⟨hfinds.mpr hbetter, hdry⟩
      intro x hx
      exact hmeasured.1 x (by simpa using hx)

/-- A pass on the locked model keeps the lock. -/
lemma iterate_keeps_lock (env : Environment W) {args : AutopilotArgs} (l : LoopState) {s : System W}
    (hs : s.store.Locked args.modelId) :
    (∀ x ∈ (exec (serving env) (iterate args l) s).steps, x.before.store.Locked args.modelId) ∧
      (exec (serving env) (iterate args l) s).state.store.Locked args.modelId := by
  obtain ⟨existing, hread, hlocked⟩ := id hs
  rw [iterate_locked env l hread hlocked]
  refine ⟨?_, hs⟩
  exact List.forall_mem_cons.mpr ⟨hs, List.forall_mem_cons.mpr ⟨hs, List.forall_mem_nil _⟩⟩

/-- An autopilot on the locked model yields one locked session, asks nothing and saves
nothing, if it has an iteration to do. -/
lemma autopilot_persists_iff {args : AutopilotArgs} {more : ℕ} {s : System W}
    (hs : s.store.Locked args.modelId) :
    Persists args.modelId ⟨.autopilot args more, s,
      (exec (serving env) (autopilotLoop args (more + 1) (.start args)) s).steps,
      (exec (serving env) (autopilotLoop args (more + 1) (.start args)) s).state⟩ ↔
      args.continues 0 := by
  unfold autopilotLoop
  split_ifs with hc
  · have hcontinues : args.continues 0 = true := hc
    refine iff_of_true ?_ hcontinues
    obtain ⟨existing, hread, hlocked⟩ := hs
    have hiterate := iterate_locked env (.start args) hread hlocked
    have hresult := congrArg Outcome.result hiterate
    rw [exec_bind_ok hresult, hiterate]
    have hs : s.store.Locked args.modelId := ⟨existing, hread, hlocked⟩
    refine ⟨?_, hs, fun _ => ⟨rfl, ?_, rfl⟩⟩
    · exact List.forall_mem_cons.mpr ⟨hs, List.forall_mem_cons.mpr ⟨hs,
        List.forall_mem_cons.mpr ⟨hs, List.forall_mem_nil _⟩⟩⟩
    · exact List.forall_mem_cons.mpr ⟨rfl, List.forall_mem_cons.mpr ⟨rfl,
        List.forall_mem_cons.mpr ⟨rfl, List.forall_mem_nil _⟩⟩⟩
  · refine iff_of_false ?_ hc
    rintro ⟨-, -, h⟩
    obtain ⟨hsessions, -⟩ := h rfl
    cases hsessions

theorem persists_iff {r : Record W} (h : r.Performed env) (hs : r.before.store.Locked m) :
    Persists m r ↔ Harmless env m r := by
  have hdiscarded {α : Type} {p : Engine α} := h.discarded (p := p)
  obtain ⟨operation, s, steps, after⟩ := r
  obtain ⟨hsteps, hafter⟩ := h
  dsimp only at hsteps hafter hs hdiscarded
  have hspared (hp : Only (Spares m) operation.program) :
      (∀ x ∈ steps, x.before.store.Locked m) ∧ after.store.Locked m := by
    have hkept := locked_of_spares env hp hs
    rw [hsteps, hafter]
    exact hkept
  cases operation with
  | tune modelId modelSpec dryRun =>
    by_cases hm : modelId = m
    · subst hm
      obtain ⟨hsteps', hafter'⟩ := hdiscarded (p := tune modelId modelSpec dryRun) rfl
      have hiff := tune_persists_iff env modelSpec dryRun hs
      rw [← hsteps', ← hafter'] at hiff
      simpa [Persists, Harmless] using hiff
    · have hkept := hspared ((tune_spares hm modelSpec dryRun).bind fun _ => only_pure _)
      exact iff_of_true ⟨hkept.1, hkept.2, trivial⟩ fun h => absurd h hm
  | run modelId prompt modelSpec =>
    have hkept := hspared ((run_spares modelId prompt modelSpec).bind fun _ => only_pure _)
    exact iff_of_true ⟨hkept.1, hkept.2, trivial⟩ trivial
  | pass args l =>
    by_cases hm : args.modelId = m
    · subst hm
      obtain ⟨hsteps', hafter'⟩ := hdiscarded (p := iterate args l) rfl
      have hkept := iterate_keeps_lock env l hs
      rw [← hsteps', ← hafter'] at hkept
      exact iff_of_true ⟨hkept.1, hkept.2, trivial⟩ trivial
    · have hloop : Complies (loopProtocol args.modelId) (fun _ _ => True) false (iterate args l) :=
        iterate_complies l
      have hkept := hspared ((only_spares_of_loopProtocol hm hloop).bind fun _ => only_pure _)
      exact iff_of_true ⟨hkept.1, hkept.2, trivial⟩ trivial
  | autopilot args more =>
    by_cases hm : args.modelId = m
    · subst hm hsteps hafter
      have hiff : Persists args.modelId ⟨.autopilot args more, s,
          (exec (serving env) (Operation.autopilot args more).program s).steps,
          (exec (serving env) (Operation.autopilot args more).program s).state⟩ ↔
          args.continues 0 := autopilot_persists_iff hs
      exact hiff.trans ⟨fun h _ => h, fun h => h rfl⟩
    · have hloop : Complies (loopProtocol args.modelId) (fun _ _ => True) false
          (autopilotLoop args (more + 1) (.start args)) := autopilotLoop_complies _ _
      have hkept := hspared (only_spares_of_loopProtocol hm hloop)
      exact iff_of_true ⟨hkept.1, hkept.2, fun h => absurd h hm⟩ fun h => absurd h hm
  | disable modelId =>
    have hkept := hspared ((disable_spares modelId).bind fun _ => only_pure _)
    exact iff_of_true ⟨hkept.1, hkept.2, trivial⟩ trivial

/-- Over every sequence of complete operations after a lock of an existing config, the lock
persists exactly when every operation is harmless. -/
theorem records_persist_iff (env : Environment W) (m : String) (operations : List Operation)
    {s : System W} (h : (s.store.getTunedConfig m).isSome) :
    let locked := (exec (serving env) (Operation.disable m).program s).state
    (∀ r ∈ records env operations locked, Persists m r) ↔
      ∀ r ∈ records env operations locked, Harmless env m r := by
  intro locked
  have hlocked : locked.store.Locked m := disable_locks h
  generalize locked = s at hlocked
  induction operations generalizing s with
  | nil => simp [records]
  | cons operation rest ih =>
    unfold records
    simp only [List.forall_mem_cons]
    have hperformed : Record.Performed env ⟨operation, s,
        (exec (serving env) operation.program s).steps,
        (exec (serving env) operation.program s).state⟩ := ⟨rfl, rfl⟩
    rw [← persists_iff hperformed hlocked]
    refine and_congr_right fun hpersists => ?_
    exact ih _ hpersists.2.1

/-- On a runtime that is faster the larger the context. -/
theorem records_persist_growing :
    (∀ r ∈ records (growing ∅) [.autopilot { modelId := "tinyllama:1.1b" } 2]
      (exec (serving (growing ∅)) (Operation.disable "tinyllama:1.1b").program
        ⟨0, { tunedConfigs := [{ modelId := "tinyllama:1.1b", config := Config.ofCtx 4096 }] }⟩).state,
      Persists "tinyllama:1.1b" r) ↔
    ∀ r ∈ records (growing ∅) [.autopilot { modelId := "tinyllama:1.1b" } 2]
      (exec (serving (growing ∅)) (Operation.disable "tinyllama:1.1b").program
        ⟨0, { tunedConfigs := [{ modelId := "tinyllama:1.1b", config := Config.ofCtx 4096 }] }⟩).state,
      Harmless (growing ∅) "tinyllama:1.1b" r :=
  records_persist_iff _ _ _ (by decide +kernel)

/-- The config 2048 is locked; a tune then saves the context 4096, and the lock is gone. -/
theorem records_lose_lock : ¬ ∀ r ∈ records (growing ∅) [.tune "tinyllama:1.1b" none false]
    (exec (serving (growing ∅)) (Operation.disable "tinyllama:1.1b").program
      ⟨0, { tunedConfigs := [{ modelId := "tinyllama:1.1b", config := Config.ofCtx 2048 }] }⟩).state,
    Persists "tinyllama:1.1b" r := by
  decide +kernel

end LlmMax.LockPersistence
