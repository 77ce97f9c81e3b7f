import LlmMax.StationaryMachine
import LlmMax.HillClimb

/-! On a stationary machine the autopilot climbs: every config it accepts measures better than
the one it replaces, and from the first session that keeps its baseline on nothing changes. -/
namespace LlmMax.AutopilotConvergence
open Domain BenchMetrics AutotuneState Storage EffectProgram Services BenchRunner HillClimb
open AutotuneDecision LauncherConfig AutotuneEngine AutotuneSpec AutopilotPass AutopilotRun
open StationaryMachine

/-- Where a pass from the config goes, if it accepts one. -/
def climb (bench : Config → BenchmarkResult) (m : String) (config : Config) : Option Config :=
  if (verdict bench m config).outcome = .acceptedNew then
    some (verdict bench m config).winner.config
  else none

/-- The context size of a config, as the search for candidates reads it. -/
def contextOf (config : Config) : ℚ :=
  match (config.lookup "num_ctx").getD (.number defaultBaselineCtx) with
  | .number ctx => ctx
  | .other _ => defaultBaselineCtx

/-- No context size, or one that is at least 1. -/
def HasContext (config : Config) : Prop :=
  config.lookup "num_ctx" = none ∨ ∃ ctx, config.lookup "num_ctx" = some (.number ctx) ∧ 1 ≤ ctx

/-- The context sizes that halving and doubling can lead to: those doubled from the start, and
the integers from the floor up to the ceiling or the start. -/
def reachable (start : ℚ) : Finset ℚ :=
  ((Finset.range 14).image fun k => start * 2 ^ k).filter (· ≤ max ctxCeiling start) ∪
    (Finset.Icc 512 (max 8192 ⌊start⌋.toNat)).image Nat.cast

/-- The configs that the autopilot can come to. -/
def configsFrom (start : Config) : Finset Config :=
  insert start ((reachable (contextOf start)).image Config.ofCtx)

lemma mem_reachable_of_int {start : ℚ} {n : ℤ} (hlow : 512 ≤ n) (hhigh : n ≤ max 8192 ⌊start⌋) :
    (n : ℚ) ∈ reachable start := by
  obtain ⟨k, rfl⟩ := Int.eq_ofNat_of_zero_le (show 0 ≤ n by omega)
  apply Finset.mem_union_right
  exact Finset.mem_image.mpr ⟨k, Finset.mem_Icc.mpr ⟨by omega, by omega⟩, rfl⟩

lemma self_mem_reachable (start : ℚ) : start ∈ reachable start := by
  apply Finset.mem_union_left
  apply Finset.mem_filter.mpr
  exact ⟨Finset.mem_image.mpr ⟨0, by simp, by simp⟩, le_max_right _ _⟩

lemma reachable_bounds {start ctx : ℚ} (hstart : 1 ≤ start) (h : ctx ∈ reachable start) :
    0 ≤ ctx ∧ ⌊ctx⌋ ≤ max 8192 ⌊start⌋ := by
  rcases Finset.mem_union.mp h with h | h
  · obtain ⟨himage, hle⟩ := Finset.mem_filter.mp h
    obtain ⟨k, -, rfl⟩ := Finset.mem_image.mp himage
    refine ⟨by positivity, ?_⟩
    have hfloor := Int.floor_mono hle
    rw [Int.floor_mono.map_max] at hfloor
    simpa [ctxCeiling] using hfloor
  · obtain ⟨n, hn, rfl⟩ := Finset.mem_image.mp h
    obtain ⟨hlow, hhigh⟩ := Finset.mem_Icc.mp hn
    rw [Int.floor_natCast]
    exact ⟨Nat.cast_nonneg n, by omega⟩

lemma half_reachable {start ctx : ℚ} (hstart : 1 ≤ start) (h : ctx ∈ reachable start) :
    max ctxFloor ⌊ctx / 2⌋ ∈ reachable start := by
  obtain ⟨hzero, hfloor⟩ := reachable_bounds hstart h
  have hhalf : ⌊ctx / 2⌋ ≤ ⌊ctx⌋ := Int.floor_mono (by linarith)
  have hcast : max ctxFloor ⌊ctx / 2⌋ = ((max 512 ⌊ctx / 2⌋ : ℤ) : ℚ) := by
    push_cast
    rfl
  rw [hcast]
  exact mem_reachable_of_int (le_max_left _ _) (max_le (by omega) (hhalf.trans hfloor))

lemma double_reachable {start ctx : ℚ} (hstart : 1 ≤ start) (h : ctx ∈ reachable start) :
    min ctxCeiling (ctx * 2) ∈ reachable start := by
  rcases le_or_gt ctxCeiling (ctx * 2) with hle | hlt
  · rw [min_eq_left hle]
    have hceiling : ctxCeiling = ((8192 : ℤ) : ℚ) := by norm_num [ctxCeiling]
    rw [hceiling]
    exact mem_reachable_of_int (by norm_num) (le_max_left _ _)
  · rw [min_eq_right hlt.le]
    unfold ctxCeiling at hlt
    rcases Finset.mem_union.mp h with h | h
    · obtain ⟨himage, -⟩ := Finset.mem_filter.mp h
      obtain ⟨k, -, rfl⟩ := Finset.mem_image.mp himage
      -- a start of at least 1 is below the ceiling after 12 doublings at most
      have hpow : (2 : ℚ) ^ (k + 1) < 2 ^ 13 := by
        have hle : (2 : ℚ) ^ (k + 1) ≤ start * 2 ^ (k + 1) := le_mul_of_one_le_left (by positivity) hstart
        calc (2 : ℚ) ^ (k + 1) ≤ start * 2 ^ (k + 1) := hle
          _ = start * 2 ^ k * 2 := by ring
          _ < 8192 := hlt
          _ = 2 ^ 13 := by norm_num
      have hk : k + 1 < 13 := (pow_lt_pow_iff_right₀ (by norm_num)).mp hpow
      apply Finset.mem_union_left
      refine Finset.mem_filter.mpr ⟨Finset.mem_image.mpr ⟨k + 1, ?_, by ring⟩, ?_⟩
      · exact Finset.mem_range.mpr (by omega)
      · exact le_max_of_le_left hlt.le
    · obtain ⟨n, hn, rfl⟩ := Finset.mem_image.mp h
      obtain ⟨hlow, hhigh⟩ := Finset.mem_Icc.mp hn
      have hint : n * 2 < 8192 := by exact_mod_cast hlt
      have hcast : (n : ℚ) * 2 = ((n * 2 : ℤ) : ℚ) := by push_cast; rfl
      rw [hcast]
      exact mem_reachable_of_int (by omega) (le_max_of_le_left (by omega))

/-- The candidates around a config with a context size. -/
lemma generateCandidates_mem {config c : Config} {configs : List Config}
    (hgen : generateCandidates config = .ok configs) (hc : c ∈ configs) :
    ∃ ctx, c = Config.ofCtx ctx ∧ (ctx = contextOf config ∨
      ctx = max ctxFloor ⌊contextOf config / 2⌋ ∨ ctx = min ctxCeiling (contextOf config * 2)) := by
  unfold generateCandidates at hgen
  unfold contextOf
  cases hctx : (config.lookup "num_ctx").getD (.number defaultBaselineCtx) with
  | other json => simp [hctx] at hgen
  | number ctx =>
    simp only [hctx, Except.ok.injEq] at hgen
    subst hgen
    obtain ⟨ctx', hmem, rfl⟩ := List.mem_map.mp hc
    refine ⟨ctx', rfl, ?_⟩
    simpa using hmem

@[simp] lemma contextOf_ofCtx (ctx : ℚ) : contextOf (Config.ofCtx ctx) = ctx := by
  simp [contextOf, Config.ofCtx]

lemma one_le_contextOf {config : Config} (h : HasContext config) : 1 ≤ contextOf config := by
  unfold contextOf
  rcases h with h | ⟨ctx, h, hle⟩
  · simp only [h, Option.getD_none]
    norm_num [defaultBaselineCtx]
  · simpa [h] using hle

/-- The heuristic leaves the context size out or sets one of its own. -/
lemma heuristicConfig_hasContext (modelSpec : Option ModelSpec) (scanned : Option HardwareProfile) :
    HasContext (heuristicConfig modelSpec scanned) := by
  have hempty : HasContext ∅ := .inl (Finmap.lookup_empty _)
  cases modelSpec with
  | none => exact hempty
  | some model =>
    cases scanned with
    | none => exact hempty
    | some hw =>
      simp only [heuristicConfig, buildRunConfig]
      cases bestGpu hw.gpus with
      | none => exact hempty
      | some gpu =>
        refine .inr ⟨contextFor model gpu.freeVramMb, by simp [Config.ofCtx], ?_⟩
        unfold contextFor
        split_ifs
        · norm_num [generousCtx]
        · norm_num [moderateCtx]
        · norm_num [conservativeCtx]

section climb
variable (bench : Config → BenchmarkResult) (m : String)

lemma climb_ascends : Ascends (climb bench m) fun config => rank (bench config) := by
  intro config c h
  unfold climb at h
  split_ifs at h with haccepted
  cases h
  obtain ⟨configs, c, -, -, hwinner, -, hlt⟩ := verdict_accepted haccepted
  rw [hwinner]
  exact hlt

lemma climb_closed {start : Config} (hstart : HasContext start) :
    Closed (climb bench m) (configsFrom start) := by
  intro config hconfig c h
  unfold climb at h
  split_ifs at h with haccepted
  cases h
  obtain ⟨configs, c, hgen, hc, hwinner, -, -⟩ := verdict_accepted haccepted
  have hctx : contextOf config ∈ reachable (contextOf start) := by
    rcases Finset.mem_insert.mp hconfig with rfl | himage
    · exact self_mem_reachable _
    · obtain ⟨ctx, hctx, rfl⟩ := Finset.mem_image.mp himage
      rw [contextOf_ofCtx]
      exact hctx
  have hone := one_le_contextOf hstart
  obtain ⟨ctx, rfl, hcases⟩ := generateCandidates_mem hgen hc
  rw [hwinner]
  apply Finset.mem_insert_of_mem
  apply Finset.mem_image_of_mem
  rcases hcases with rfl | rfl | rfl
  · exact hctx
  · exact half_reachable hone hctx
  · exact double_reachable hone hctx

end climb

variable {W : Type}

/-- Where the autopilot stands: its next pass goes forward from here. -/
abbrev standing (args : AutopilotArgs) (hardware : HardwareProfile) (s : System W) : Config :=
  position args.modelSpec hardware (s.store.getTunedConfig args.modelId)

/-- Whatever worked has been followed by configs that work: no probe can fail with something
to go back to. -/
structure Climbing (bench : Config → BenchmarkResult) (args : AutopilotArgs) (l : LoopState)
    (s : System W) : Prop where
  unlocked : ∀ c, s.store.getTunedConfig args.modelId = some c → c.isLocked = false
  sound : ∀ r ∈ l.history, r.benchmark.works → ∀ c,
    s.store.getTunedConfig args.modelId = some c → (bench c.config).works = true

/-- A pass of the climb, relative to where it began. -/
structure Climbs (bench : Config → BenchmarkResult) (hardware : HardwareProfile)
    (args : AutopilotArgs) (y : Yield W) : Prop where
  forward : y.session.outcome ≠ .rolledBack
  replaces : y.session.baseline =
    ⟨standing args hardware y.before, bench (standing args hardware y.before)⟩
  kept_iff : y.session.outcome = .keptBaseline ↔
    climb bench args.modelId (standing args hardware y.before) = none
  kept : y.session.outcome = .keptBaseline → y.session.winner = y.session.baseline
  accepted : y.session.outcome = .acceptedNew →
    climb bench args.modelId (standing args hardware y.before) = some y.session.winner.config ∧
      rank y.session.baseline.benchmark < rank y.session.winner.benchmark
  after : standing args hardware y.after =
    if y.session.outcome = .acceptedNew then y.session.winner.config
    else standing args hardware y.before

lemma climb_of_accepted {bench : Config → BenchmarkResult} {m : String} {config : Config}
    (h : (verdict bench m config).outcome = .acceptedNew) :
    climb bench m config = some (verdict bench m config).winner.config := if_pos h

lemma climb_of_kept {bench : Config → BenchmarkResult} {m : String} {config : Config}
    (h : (verdict bench m config).outcome = .keptBaseline) : climb bench m config = none :=
  if_neg (by simp [h])

section pass
variable {bench : Config → BenchmarkResult} {hardware : HardwareProfile} {args : AutopilotArgs}

/-- A pass that saves nothing and learns about the place where it stands. -/
lemma climbing_of_same {y : Yield W} (hclimbing : Climbing bench args y.loop y.before)
    (hhistory : y.loopAfter.history = y.loop.history ++
      [⟨standing args hardware y.before, bench (standing args hardware y.before)⟩])
    (hrows : y.after.store.tunedConfigs = y.before.store.tunedConfigs) :
    Climbing bench args y.loopAfter y.after ∧
      standing args hardware y.after = standing args hardware y.before := by
  have hsame : y.after.store.getTunedConfig args.modelId =
      y.before.store.getTunedConfig args.modelId := congrArg (current args.modelId) hrows
  refine ⟨⟨?_, ?_⟩, ?_⟩
  · rw [hsame]
    exact hclimbing.unlocked
  · rw [hsame, hhistory]
    intro r hr hworks c hc
    rcases List.mem_append.mp hr with hr | hr
    · exact hclimbing.sound r hr hworks c hc
    · obtain rfl := List.mem_singleton.mp hr
      simpa [standing, position, hc] using hworks
  · rw [standing, standing, hsame]

/-- A pass that saves a config which works. -/
lemma climbing_of_saved {y : Yield W} {stored : TunedConfig}
    (hrows : y.after.store.tunedConfigs = y.before.store.tunedConfigs ++ [stored])
    (hmodel : stored.modelId = args.modelId) (hunlocked : stored.isLocked = false)
    (hworks : (bench stored.config).works = true) :
    Climbing bench args y.loopAfter y.after ∧ standing args hardware y.after = stored.config := by
  have hstored : y.after.store.getTunedConfig args.modelId = some stored := by
    simp [InMemoryStorage.getTunedConfig, current, hrows, hmodel]
  refine ⟨⟨?_, ?_⟩, ?_⟩
  · intro c hc
    rw [hstored] at hc
    cases hc
    exact hunlocked
  · intro r _ _ c hc
    rw [hstored] at hc
    cases hc
    exact hworks
  · simp [standing, position, hstored]

theorem settled_climbs {y : Yield W} {move : Move} (hclimbing : Climbing bench args y.loop y.before)
    (h : Settled bench hardware args y move) :
    Climbs bench hardware args y ∧ Climbing bench args y.loopAfter y.after := by
  obtain ⟨hsettles, hsession, hhistory, hrows⟩ := h
  cases hsettles with
  | skip read locked =>
    rw [hclimbing.unlocked _ read] at locked
    cases locked
  | revert read broken found =>
    obtain ⟨r, hr, -, hworks, -⟩ := rollbackTarget_eq_some found
    have hsound := hclimbing.sound r hr hworks _ read
    rw [broken] at hsound
    cases hsound
  | keep unlocked concluded kept =>
    subst concluded
    have hwinner := verdict_kept kept
    simp only [Move.session] at hsession
    simp only [Move.learned, hwinner] at hhistory
    simp only [Move.saves, List.map_nil, List.append_nil] at hrows
    obtain ⟨hnext, hafter⟩ := climbing_of_same hclimbing hhistory hrows
    refine ⟨⟨?_, ?_, ?_, ?_, ?_, ?_⟩, hnext⟩
    · simp [hsession, kept]
    · simp [hsession]
    · simp [hsession, kept, climb_of_kept kept]
    · simp [hsession, hwinner]
    · simp [hsession, kept]
    · simp [hsession, kept, hafter]
  | withhold unlocked concluded accepted =>
    subst concluded
    simp only [Move.session] at hsession
    simp only [Move.learned, verdict_baseline] at hhistory
    simp only [Move.saves, List.map_nil, List.append_nil] at hrows
    obtain ⟨hnext, hafter⟩ := climbing_of_same hclimbing hhistory hrows
    refine ⟨⟨?_, ?_, ?_, ?_, ?_, ?_⟩, hnext⟩
    · simp [hsession, limitedSession]
    · simp [hsession, limitedSession]
    · simp [hsession, limitedSession, climb_of_accepted accepted]
    · simp [hsession, limitedSession]
    · simp [hsession, limitedSession]
    · simp [hsession, limitedSession, hafter]
  | adopt unlocked concluded accepted =>
    subst concluded
    obtain ⟨configs, c, -, -, hwinner, hworks, hlt⟩ := verdict_accepted accepted
    simp only [Move.session] at hsession
    simp only [Move.saves, List.map_cons, List.map_nil, verdict_modelId, hwinner] at hrows
    have hsaved : Climbing bench args y.loopAfter y.after ∧ standing args hardware y.after = c :=
      climbing_of_saved hrows rfl rfl hworks
    obtain ⟨hnext, hafter⟩ := hsaved
    refine ⟨⟨?_, ?_, ?_, ?_, ?_, ?_⟩, hnext⟩
    · simp [hsession, accepted]
    · simp [hsession]
    · simp [hsession, accepted, climb_of_accepted accepted]
    · simp [hsession, accepted]
    · simp [hsession, climb_of_accepted accepted, hwinner, hlt]
    · rw [hafter, hsession, if_pos accepted, hwinner]

end pass

/-- The yields that accepted a new config. -/
def accepted (ys : List (Yield W)) : List (Yield W) :=
  ys.filter fun y => y.session.outcome = .acceptedNew

/-- The config of the winner. -/
def winnerConfig (y : Yield W) : Config := y.session.winner.config

/-- After a session that keeps its baseline every session does, with the same winner. -/
def Stays (ys : List (Yield W)) : Prop :=
  ∀ pre y post, ys = pre ++ y :: post → y.session.outcome = .keptBaseline →
    ∀ y' ∈ post, y'.session.outcome = .keptBaseline ∧ y'.session.winner = y.session.winner

/-- A run of passes that climb, from where it stands. -/
structure Climb (bench : Config → BenchmarkResult) (hardware : HardwareProfile)
    (args : AutopilotArgs) (start : Config) (ys : List (Yield W)) : Prop where
  passes : ∀ y ∈ ys, Climbs bench hardware args y
  path : Path (climb bench args.modelId) start ((accepted ys).map winnerConfig)
  top : climb bench args.modelId start = none → ∀ y ∈ ys,
    y.session.outcome = .keptBaseline ∧ y.session.winner = ⟨start, bench start⟩
  stays : Stays ys

section run
variable {bench : Config → BenchmarkResult} {hardware : HardwareProfile} {args : AutopilotArgs}

/-- One more pass in front. -/
lemma Climb.cons {y : Yield W} {ys : List (Yield W)} (hy : Climbs bench hardware args y)
    (hrest : Climb bench hardware args (standing args hardware y.after) ys) :
    Climb bench hardware args (standing args hardware y.before) (y :: ys) := by
  have hkept : y.session.outcome = .keptBaseline → ∀ y' ∈ ys,
      y'.session.outcome = .keptBaseline ∧ y'.session.winner = y.session.winner := by
    intro hk y' hy'
    have hafter : standing args hardware y.after = standing args hardware y.before := by
      simp [hy.after, hk]
    have htop := hrest.top (by rw [hafter]; exact hy.kept_iff.mp hk) y' hy'
    rw [hy.kept hk, hy.replaces, ← hafter]
    exact htop
  refine ⟨List.forall_mem_cons.mpr ⟨hy, hrest.passes⟩, ?_, ?_, ?_⟩
  · by_cases hacc : y.session.outcome = .acceptedNew
    · have hpath := hrest.path
      rw [hy.after, if_pos hacc] at hpath
      simp only [accepted, List.filter_cons, hacc, decide_true, if_true, List.map_cons]
      exact ⟨(hy.accepted hacc).1, hpath⟩
    · have hpath := hrest.path
      rw [hy.after, if_neg hacc] at hpath
      simpa [accepted, List.filter_cons, hacc] using hpath
  · intro hnone
    have hk := hy.kept_iff.mpr hnone
    have hwinner : y.session.winner =
        ⟨standing args hardware y.before, bench (standing args hardware y.before)⟩ :=
      (hy.kept hk).trans hy.replaces
    refine List.forall_mem_cons.mpr ⟨⟨hk, hwinner⟩, fun y' hy' => ?_⟩
    rw [← hwinner]
    exact hkept hk y' hy'
  · intro pre e post hsplit he
    cases pre with
    | nil =>
      cases hsplit
      exact hkept he
    | cons z pre =>
      cases hsplit
      exact hrest.stays pre e post rfl he

/-- A run on a stationary machine is a climb. -/
theorem yields_climb {env : Environment W} {answer : String → Option Config → Except Failure RunResult}
    (h : Stationary env args.modelId answer hardware) (hbench : Benchmarks env args.modelId bench)
    (draws : ℕ) (l : LoopState) (s : System W) (hclimbing : Climbing bench args l s) :
    Climb bench hardware args (standing args hardware s) (yields env args draws l s) := by
  revert hclimbing
  refine yields_rec (P := fun l s ys => Climbing bench args l s →
    Climb bench hardware args (standing args hardware s) ys) ?_ ?_ draws l s
  · intro l s _
    refine ⟨by simp, trivial, by simp, ?_⟩
    intro pre y post hsplit
    simp at hsplit
  · intro y s' ys hpass hstore _ ih hclimbing
    have hfixed := iterate_fixed h hbench y.loop y.before
    rw [Ensures, hpass] at hfixed
    obtain ⟨move, hsettled⟩ := hfixed y.session y.loopAfter rfl
    obtain ⟨hclimbs, hnext⟩ := settled_climbs hclimbing hsettled
    have hstanding : standing args hardware s' = standing args hardware y.after := by
      rw [standing, hstore]
    rw [hstanding] at ih
    refine Climb.cons hclimbs (ih ⟨?_, ?_⟩)
    · rw [hstore]
      exact hnext.unlocked
    · rw [hstore]
      exact hnext.sound

/-- On a stationary machine an autopilot that begins without a history never rolls back. The
configs it accepts are distinct and each measures better than the one it replaces, there are
at most so many of them whatever the clock and the cap, and after the first session that
keeps its baseline nothing changes. -/
theorem autopilot_converges {env : Environment W} {args : AutopilotArgs}
    {answer : String → Option Config → Except Failure RunResult}
    (hstationary : Stationary env args.modelId answer hardware) (hhistory : args.initialHistory = [])
    (s : System W) (hunlocked : ∀ c, s.store.getTunedConfig args.modelId = some c →
      c.isLocked = false ∧ HasContext c.config) (draws : ℕ) :
    let ys := run env args draws s
    (∀ y ∈ ys, y.session.outcome ≠ .rolledBack) ∧
      ((accepted ys).map winnerConfig).Nodup ∧
      (∀ y ∈ accepted ys, (∀ c, y.before.store.getTunedConfig args.modelId = some c →
          y.session.baseline.config = c.config) ∧
        rank y.session.baseline.benchmark < rank y.session.winner.benchmark) ∧
      (accepted ys).length ≤ (configsFrom (standing args hardware s)).card ∧
      Stays ys := by
  intro ys
  obtain ⟨bench, hbench⟩ := exists_benchmarks hstationary
  have hstart : Climbing bench args (.start args) s := by
    refine ⟨fun c hc => (hunlocked c hc).1, fun r hr => ?_⟩
    simp [LoopState.start, hhistory] at hr
  have hcontext : HasContext (standing args hardware s) := by
    unfold standing position
    cases hstored : s.store.getTunedConfig args.modelId with
    | none => exact heuristicConfig_hasContext _ _
    | some c => exact (hunlocked c hstored).2
  have hclimb := yields_climb hstationary hbench draws (.start args) s hstart
  refine ⟨fun y hy => (hclimb.passes y hy).forward, hclimb.path.nodup (climb_ascends _ _),
    fun y hy => ?_, ?_, hclimb.stays⟩
  · obtain ⟨hy, haccepted⟩ := List.mem_filter.mp hy
    have hpass := hclimb.passes y hy
    refine ⟨fun c hc => ?_, (hpass.accepted (of_decide_eq_true haccepted)).2⟩
    simp [hpass.replaces, standing, position, hc]
  · have hlength := hclimb.path.length_le (climb_ascends bench args.modelId)
      (climb_closed bench args.modelId hcontext) (Finset.mem_insert_self _ _)
    simpa using hlength

/-- From a stored context of 1024 the autopilot climbs to the ceiling and stays there. -/
theorem autopilot_converges_rising :
    let env := clocked [] (fun _ => true) fun _ => rising
    let args : AutopilotArgs := { modelId := "m" }
    let stored : TunedConfig := { id := some 1, modelId := "m", config := Config.ofCtx 1024 }
    let s : System ℚ := ⟨0, { tunedConfigs := [stored] }⟩
    let ys := run env args 5 s
    (∀ y ∈ ys, y.session.outcome ≠ .rolledBack) ∧
      ((accepted ys).map winnerConfig).Nodup ∧
      (∀ y ∈ accepted ys, (∀ c, y.before.store.getTunedConfig "m" = some c →
          y.session.baseline.config = c.config) ∧
        rank y.session.baseline.benchmark < rank y.session.winner.benchmark) ∧
      (accepted ys).length ≤ (configsFrom (Config.ofCtx 1024)).card ∧
      Stays ys := by
  intro env args stored s
  have hstationary : Stationary env args.modelId (answering rising) ⟨[], 0⟩ :=
    clocked_stationary [] (fun _ => true) rising "m"
  have hunlocked : ∀ c, s.store.getTunedConfig args.modelId = some c →
      c.isLocked = false ∧ HasContext c.config := by
    intro c hc
    obtain rfl : stored = c := Option.some.inj hc
    exact ⟨rfl, .inr ⟨1024, by simp [stored, Config.ofCtx], by norm_num⟩⟩
  exact autopilot_converges hstationary rfl s hunlocked 5

end run

end LlmMax.AutopilotConvergence
