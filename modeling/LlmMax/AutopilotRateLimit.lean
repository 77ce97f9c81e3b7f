import LlmMax.AutopilotAgreement

/-! The cap on adjustments as a sliding window over a whole run, and what it costs: a
broken config can be kept because the cap withholds its replacement. -/
namespace LlmMax.AutopilotRateLimit
open Domain BenchMetrics AutotuneState Storage EffectProgram Services History BenchRunner
open AutotuneDecision AutotuneEngine AutotuneSpec AutopilotPass AutopilotRun AutopilotAgreement

variable {W : Type}

/-- The timestamp a pass records for its adjustment. -/
def recorded (y : Yield W) : List ℚ :=
  if adjusts y.session.outcome then (clockReads y.steps).getLast?.toList else []

/-- The adjustments of the earlier passes that lie in the 24 hours up to a time. -/
def adjustmentsUpTo (earlier : List (Yield W)) (time : ℚ) : ℕ :=
  countSince recorded earlier (time - secondsPerDay)

/-- The rate limit at one yield. -/
structure Limited (args : AutopilotArgs) (earlier : List (Yield W)) (y : Yield W) : Prop where
  accepted : y.session.outcome = .acceptedNew → ∀ limit, args.maxAdjustmentsPerDay = some limit →
    ∃ time, (clockReads y.steps).head? = some time ∧ adjustmentsUpTo earlier time < limit
  limited : y.session.outcome = .rateLimited → ∃ limit time,
    args.maxAdjustmentsPerDay = some limit ∧ (clockReads y.steps).head? = some time ∧
      limit ≤ adjustmentsUpTo earlier time
  withheld : y.session.outcome = .rateLimited →
    y.after.store.tunedConfigs = y.before.store.tunedConfigs

variable {args : AutopilotArgs} {env : Environment W} {earlier : List (Yield W)} {y : Yield W}

/-- The loop keeps exactly the timestamps that its passes record. -/
lemma isPass_timestamps (h : IsPass args y) :
    y.loopAfter.adjustmentTimestamps = y.loop.adjustmentTimestamps ++ recorded y := by
  obtain ⟨move, t₁, t₂, pass⟩ := h
  rw [pass.committed.timestamps_eq, recorded, pass.committed.session_eq,
    chosen_outcome pass.chosen, pass.steps, clockReads_append]
  have hlen := pass.committed.clock
  rw [saves_length] at hlen
  split_ifs at hlen ⊢ with hadj
  · obtain ⟨time, htime⟩ := List.length_eq_one_iff.mp hlen
    simp [htime]
  · rw [List.length_eq_zero_iff.mp hlen]

/-- The readings of the clock in a pass: the one of the limit check, when there is a cap,
then the one that is recorded. -/
lemma isPass_clock (h : IsPass args y) :
    (y.session.outcome = .acceptedNew → ∀ limit, args.maxAdjustmentsPerDay = some limit →
      ∃ check time, clockReads y.steps = [check, time] ∧
        adjustmentsInLast24h y.loop.adjustmentTimestamps check < limit) ∧
    (y.session.outcome = .rateLimited → ∃ limit check, args.maxAdjustmentsPerDay = some limit ∧
      clockReads y.steps = [check] ∧
        limit ≤ adjustmentsInLast24h y.loop.adjustmentTimestamps check) := by
  obtain ⟨move, t₁, t₂, pass⟩ := h
  have hlen := pass.committed.clock
  rw [pass.committed.session_eq, pass.steps, clockReads_append]
  rw [saves_length] at hlen
  have houtcome := chosen_outcome pass.chosen
  cases pass.chosen with
  | skip => simp [Move.session, lockedSession]
  | revert => simp [Move.session, rolledBackSession]
  | forward tuned verdict =>
    generalize clockReads t₁ = times at verdict ⊢
    cases verdict with
    | keep kept => simp [Move.session, kept]
    | @withhold limit check _ cap full =>
      refine ⟨fun ha => (by cases houtcome.symm.trans ha), fun _ => ?_⟩
      rw [outcomeOf, if_neg (by decide)] at hlen
      exact ⟨limit, check, cap, by simp [List.length_eq_zero_iff.mp hlen], full⟩
    | @adopt limit check _ cap room =>
      refine ⟨fun _ limit' hcap => ?_, fun hr => by cases houtcome.symm.trans hr⟩
      rw [outcomeOf, if_pos (by decide)] at hlen
      obtain ⟨time, htime⟩ := List.length_eq_one_iff.mp hlen
      obtain rfl := Option.some.inj (cap.symm.trans hcap)
      exact ⟨check, time, by simp [htime], room⟩
    | adoptUncapped _ cap =>
      exact ⟨fun _ limit' hcap => (by cases cap.symm.trans hcap),
        fun hr => by cases houtcome.symm.trans hr⟩

/-- Every pass is limited by the adjustments of the run before it. -/
theorem run_limited (draws : ℕ) (s : System W) :
    Each (fun earlier y => IsPass args y ∧ Limited args earlier y) [] (run env args draws s) := by
  refine yields_each (fun earlier l _ => l.adjustmentTimestamps = earlier.flatMap recorded)
    ?_ ?_ rfl
  · intro earlier y hinv hpass
    have hcount (time : ℚ) :
        adjustmentsInLast24h y.loop.adjustmentTimestamps time = adjustmentsUpTo earlier time := by
      rw [hinv]
      rfl
    obtain ⟨haccepted, hlimited⟩ := isPass_clock hpass
    refine ⟨hpass, fun ha limit hcap => ?_, fun hr => ?_, fun hr => ?_⟩
    · obtain ⟨check, time, hclock, hroom⟩ := haccepted ha limit hcap
      exact ⟨check, by simp [hclock], hcount check ▸ hroom⟩
    · obtain ⟨limit, check, hcap, hclock, hfull⟩ := hlimited hr
      exact ⟨limit, check, hcap, by simp [hclock], hcount check ▸ hfull⟩
    · obtain ⟨rows, hrows, -, hlen⟩ := (isPass_agrees hpass).inserted
      rw [hr, if_neg (by decide), List.length_eq_zero_iff] at hlen
      rw [hrows, hlen, List.append_nil]
  · intro earlier y s' hinv hpass _ _
    simp [isPass_timestamps hpass, hinv]

/-- In the passes of a run that accept a config, the clock does not run back between the
limit check and the recording. -/
def Steady (ys : List (Yield W)) : Prop :=
  ∀ y ∈ ys, y.session.outcome = .acceptedNew → (clockReads y.steps).Pairwise (· ≤ ·)

instance (ys : List (Yield W)) : Decidable (Steady ys) :=
  inferInstanceAs (Decidable (∀ y ∈ ys, _ → _))

/-- The rolling-window rate limit over every run. -/
theorem run_rateLimit (env : Environment W) (args : AutopilotArgs) (draws : ℕ) (s : System W)
    (steady : Steady (run env args draws s)) :
    (∀ limit : ℕ, args.maxAdjustmentsPerDay = some (limit : ℤ) → ∀ start : ℚ,
      (run env args draws s).countP (fun y => y.session.outcome = .acceptedNew ∧
        Within recorded secondsPerDay start y) ≤ limit) ∧
      Each (Limited args) [] (run env args draws s) := by
  have hrun : Each (fun earlier y => IsPass args y ∧ Limited args earlier y) []
      (run env args draws s) := run_limited draws s
  refine ⟨fun limit hcap start => within_le_limit (each_iff.mpr ?_) start, hrun.imp fun _ _ h => h.2⟩
  intro earlier y post hsplit haccepted
  obtain ⟨hpass, hlimited⟩ := each_iff.mp hrun earlier y post hsplit
  obtain ⟨check, time, hclock, -⟩ := (isPass_clock hpass).1 haccepted limit hcap
  obtain ⟨check', hcheck', hroom⟩ := hlimited.accepted haccepted limit hcap
  obtain rfl : check = check' := by simpa [hclock] using hcheck'
  refine ⟨check, time, by simp [recorded, adjusts, haccepted, hclock], ?_, by exact_mod_cast hroom⟩
  have := steady y (by simp [hsplit]) haccepted
  rw [hclock] at this
  simpa using this

def capped (limit : Option ℤ) : AutopilotArgs where
  modelId := "llama3.2:1b"
  maxAdjustmentsPerDay := limit

/-- With a cap of one the first pass accepts a config and the next two are withheld. -/
theorem run_rateLimit_growing :
    (run (growing ∅) (capped (some 1)) 3 ⟨0, {}⟩).map (fun y => y.session.outcome) =
        [.acceptedNew, .rateLimited, .rateLimited] ∧
      (run (growing ∅) (capped (some 1)) 3 ⟨0, {}⟩).countP (fun y =>
        y.session.outcome = .acceptedNew ∧ Within recorded secondsPerDay 0 y) ≤ 1 :=
  ⟨by decide +kernel,
    (run_rateLimit (growing ∅) (capped (some 1)) 3 ⟨0, {}⟩ (by decide +kernel)).1 1 rfl 0⟩

/-- The pass starts from a stored config, and its limit check finds the cap reached. -/
def CapReached (args : AutopilotArgs) (y : Yield W) : Prop :=
  (y.before.store.getTunedConfig args.modelId).isSome ∧ ∃ limit time,
    args.maxAdjustmentsPerDay = some limit ∧ (clockReads y.steps).head? = some time ∧
      limit ≤ adjustmentsInLast24h y.loop.adjustmentTimestamps time

/-- The config that the pass measured as failed is no longer the stored one. -/
def LeavesBroken (args : AutopilotArgs) (y : Yield W) : Prop :=
  ∀ c ∈ y.after.store.getTunedConfig args.modelId, c.config ≠ y.session.baseline.config

instance (args : AutopilotArgs) (y : Yield W) : Decidable (LeavesBroken args y) :=
  inferInstanceAs (Decidable (∀ c ∈ _, _))

/-- The pass measured its baseline as failed and some other config as working. -/
def SeesRepair (y : Yield W) : Prop :=
  y.session.baseline.benchmark.works = false ∧
    ∃ b ∈ measurements y.steps, b.config ≠ y.session.baseline.config ∧ b.works

instance (y : Yield W) : Decidable (SeesRepair y) := inferInstanceAs (Decidable (_ ∧ _))

lemma seesRepair_accepts {l : LoopState} {stored : Option TunedConfig} {t : Trace W}
    {probes : List BenchmarkResult} {baseline : TuningCandidateResult}
    {candidates : List TuningCandidateResult}
    (h : Forward args l stored t probes baseline candidates) (hfailed : baseline.benchmark.works = false)
    (hother : ∃ b ∈ measurements t, b.config ≠ baseline.config ∧ b.works) :
    (conclude args.modelId baseline candidates).outcome = .acceptedNew := by
  rw [measured_works h.baseline_measured] at hfailed
  refine conclude_over_broken _ _ _ hfailed h.reused ?_
  obtain ⟨b, hb, hne, hw⟩ := hother
  rw [h.trace, passBenchmarks, List.mem_append, List.mem_cons] at hb
  rcases hb with hb | rfl | hb
  · rcases h.probes_eq with ⟨hnil, -⟩ | ⟨c, b', hstored, -, hprobe, hmeasured, -⟩
    · simp [hnil] at hb
    · rw [hprobe, List.mem_singleton] at hb
      subst hb
      refine absurd ?_ hne
      rw [hmeasured.config_eq, h.baseline_config, hstored]
      rfl
  · exact absurd h.baseline_measured.config_eq hne
  · obtain ⟨r, hr, rfl⟩ := List.mem_map.mp hb
    exact ⟨r, (List.mem_filter.mp hr).1, hw⟩

lemma not_capReached (h : IsPass args y) (haccepted : y.session.outcome = .acceptedNew) :
    ¬ CapReached args y := by
  rintro ⟨-, limit, time, hcap, hclock, hfull⟩
  obtain ⟨check, recordedAt, hreads, hroom⟩ := (isPass_clock h).1 haccepted limit hcap
  obtain rfl : check = time := by simpa [hreads] using hclock
  exact absurd hfull (not_le.mpr hroom)

/-- A withheld change leaves the store as it was: what is there to leave is the stored
config, which the pass took for its baseline. -/
lemma leavesBroken_iff_of_rateLimited (h : IsPass args y)
    (hlimited : y.session.outcome = .rateLimited) : LeavesBroken args y ↔ ¬ CapReached args y := by
  have hagrees := isPass_agrees h
  obtain ⟨rows, hrows, -, hlen⟩ := hagrees.inserted
  obtain ⟨limit, time, hcap, hclock, hfull⟩ := (isPass_clock h).2 hlimited
  have hsame : y.after.store.getTunedConfig args.modelId =
      y.before.store.getTunedConfig args.modelId := by
    rw [hlimited, if_neg (by decide), List.length_eq_zero_iff] at hlen
    simp [InMemoryStorage.getTunedConfig, hrows, hlen]
  have hreached : CapReached args y ↔ (y.before.store.getTunedConfig args.modelId).isSome := by
    constructor
    · intro hcapped
      exact hcapped.1
    · intro hstored
      exact ⟨hstored, limit, time, hcap, by simp [hclock], hfull⟩
  rw [hreached, LeavesBroken, hsame]
  cases hstored : y.before.store.getTunedConfig args.modelId with
  | none => simp
  | some c => simp [hagrees.baseline c hstored]

/-- In every run, a pass that finds its config broken and another one working gets rid of
the broken one exactly when the cap does not withhold the change. -/
theorem run_leavesBroken_iff (env : Environment W) (args : AutopilotArgs) (draws : ℕ) (s : System W) :
    ∀ y ∈ run env args draws s, SeesRepair y → (LeavesBroken args y ↔ ¬ CapReached args y) := by
  refine yields_forall (fun _ _ => True) ?_ (fun _ _ _ _ _ _ => trivial) trivial
  intro y _ hpass hpost
  obtain ⟨hfailed, hother⟩ := hpost
  obtain ⟨move, t₁, t₂, pass⟩ := id hpass
  have hsession := pass.committed.session_eq
  have houtcome := chosen_outcome pass.chosen
  rw [← hsession] at houtcome
  rw [pass.measurements] at hother
  cases pass.chosen with
  | skip _ _ unmeasured => simp [unmeasured] at hother
  | revert _ _ _ measured _ _ probed =>
    obtain ⟨b, hb, hne, -⟩ := hother
    rw [probed, List.mem_singleton] at hb
    rw [hb, hsession, measured.config_eq] at hne
    exact absurd rfl hne
  | @forward probes baseline candidates _ tuned verdict =>
    have hbaseline : y.session.baseline = baseline := by
      rw [hsession]
      generalize clockReads t₁ = times at verdict
      cases verdict <;> simp [Move.session, limitedSession]
    rw [hbaseline] at hfailed hother
    have hnew := seesRepair_accepts tuned hfailed hother
    have hwinner : (conclude args.modelId baseline candidates).winner.config ≠ baseline.config := by
      rcases conclude_cases args.modelId baseline candidates with hk | hk
      · exact absurd (hk.1.symm.trans hnew) (by decide)
      · exact hk.2.2.2.1
    have hadopted (hwon : y.session = conclude args.modelId baseline candidates) :
        LeavesBroken args y ↔ ¬ CapReached args y := by
      refine iff_of_true ?_ (not_capReached hpass (hwon ▸ hnew))
      intro c hc
      rw [(isPass_agrees hpass).winner c hc, hbaseline, hwon]
      exact hwinner
    generalize clockReads t₁ = times at verdict
    cases verdict with
    | keep kept => exact absurd (kept.symm.trans hnew) (by decide)
    | withhold => exact leavesBroken_iff_of_rateLimited hpass houtcome
    | adopt => exact hadopted hsession
    | adoptUncapped => exact hadopted hsession

/-- The second pass of a run without a cap, in which the config of the first has broken. -/
def secondPass : Yield ℚ :=
  (run (growing (Config.ofCtx 4096)) (capped none) 2 ⟨0, {}⟩).get ⟨1, by decide +kernel⟩

theorem run_leavesBroken_uncapped : SeesRepair secondPass ∧ LeavesBroken (capped none) secondPass :=
  ⟨by decide +kernel,
    (run_leavesBroken_iff (growing (Config.ofCtx 4096)) (capped none) 2 ⟨0, {}⟩ secondPass
      (List.get_mem _ _) (by decide +kernel)).mpr fun h => by
        obtain ⟨-, limit, time, hcap, -⟩ := h
        cases hcap⟩

/-- With a cap of one the second pass keeps the config it has just measured as broken. -/
theorem run_keeps_broken : ¬ ∀ y ∈ run (growing (Config.ofCtx 4096)) (capped (some 1)) 2 ⟨0, {}⟩,
    SeesRepair y → LeavesBroken (capped (some 1)) y := by
  decide +kernel

end LlmMax.AutopilotRateLimit
