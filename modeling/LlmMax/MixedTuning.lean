import LlmMax.Operations
import LlmMax.StationaryMachine

/-! One-shot tunes and autopilot passes on one model, on a stationary machine. An autopilot
pass goes forward from the stored config; a one-shot tune from the hardware default, whatever
is stored. -/
namespace LlmMax.MixedTuning
open Domain BenchMetrics AutotuneState Storage EffectProgram Services BenchRunner
open AutotuneDecision LauncherConfig AutotuneEngine AutotuneSpec AutopilotPass Operations
open StationaryMachine

def throughput (b : BenchmarkResult) : ℚ := b.tokensPerSec.getD 0

/-- A one-shot tune or an autopilot pass on the model. -/
def Tunes (m : String) : Operation → Prop
  | .tune modelId _ _ => modelId = m
  | .pass args _ => args.modelId = m
  | _ => False

/-- The configs that a one-shot tune benchmarks: the hardware default and its candidates. -/
def tried (modelSpec : Option ModelSpec) (hardware : HardwareProfile) : List Config :=
  let start := heuristicConfig modelSpec (some hardware)
  start :: (generateCandidates start).toOption.getD []

/-- Where the config of the superseded row is covered and still works, the rows written by the
operation have at least its throughput. -/
def NotWorse {W : Type} (env : Environment W) (m : String) (covered : Config → Prop) (r : Record W) :
    Prop :=
  ∀ pre row post, r.after.store.tunedConfigs = pre ++ row :: post →
    r.before.store.tunedConfigs.length ≤ pre.length →
    ∀ superseded b b', current m pre = some superseded → covered superseded.config →
      Benches env m superseded.config b → b.works = true → Benches env m row.config b' →
      throughput b ≤ throughput b'

/-- The configs that an operation cannot make worse: an autopilot pass none at all, a one-shot
tune none of those that it benchmarks. -/
def Covered (hardware : HardwareProfile) : Operation → Config → Prop
  | .tune _ modelSpec _ => fun config => config ∈ tried modelSpec hardware
  | _ => fun _ => True

variable {W : Type} {env : Environment W} {m : String}
  {answer : String → Option Config → Except Failure RunResult} {hardware : HardwareProfile}
  {bench : Config → BenchmarkResult}

lemma throughput_le_of_rank_lt {b b' : BenchmarkResult} (hworks : b.works = true)
    (h : rank b < rank b') : throughput b ≤ throughput b' := by
  unfold rank at h
  rw [if_pos hworks] at h
  split_ifs at h
  · exact (WithBot.coe_lt_coe.mp h).le
  · exact absurd h (not_lt_bot)

lemma throughput_le_pickBest {results : List TuningCandidateResult} {best r : TuningCandidateResult}
    (hbest : pickBest results = some best) (hr : r ∈ results) (hworks : r.benchmark.works = true) :
    throughput r.benchmark ≤ throughput best.benchmark := by
  have hmem : r ∈ results.filter fun r => r.benchmark.works := List.mem_filter.mpr ⟨hr, hworks⟩
  have hscore := List.le_of_mem_argmax hmem hbest
  rcases Prod.Lex.le_iff.mp hscore with hlt | ⟨heq, -⟩
  · exact hlt.le
  · exact heq.le

/-- The winner of an accepted verdict is at least as good as everything benchmarked for it. -/
lemma verdict_best {config c : Config}
    (haccepted : (verdict bench m config).outcome = .acceptedNew)
    (hc : c ∈ config :: (generateCandidates config).toOption.getD [])
    (hworks : (bench c).works = true) :
    throughput (bench c) ≤ throughput (verdict bench m config).winner.benchmark := by
  rcases List.mem_cons.mp hc with rfl | hc
  · obtain ⟨configs, c', -, -, hwinner, -, hlt⟩ := verdict_accepted haccepted
    rw [hwinner]
    exact throughput_le_of_rank_lt hworks hlt
  · have hbest := conclude_winner _ _ _ haccepted
    exact throughput_le_pickBest hbest (List.mem_map.mpr ⟨c, hc, rfl⟩) hworks

/-- A single new row is the last one of the table. -/
lemma split_single {before pre post : List TunedConfig} {new row : TunedConfig}
    (hsplit : before ++ [new] = pre ++ row :: post) (hlen : before.length ≤ pre.length) :
    pre = before ∧ row = new := by
  have hlengths := congrArg List.length hsplit
  simp only [List.length_append, List.length_cons, List.length_nil] at hlengths
  obtain ⟨hpre, hrow⟩ := List.append_inj hsplit (by omega)
  exact ⟨hpre.symm, (List.cons.inj hrow).1.symm⟩

/-- An operation that writes at most one row, which is at least as good as what it supersedes. -/
lemma notWorse_of_rows {covered : Config → Prop} {r : Record W}
    (h : r.after.store.tunedConfigs = r.before.store.tunedConfigs ∨ ∃ row,
      r.after.store.tunedConfigs = r.before.store.tunedConfigs ++ [row] ∧
      ∀ superseded b b', r.before.store.getTunedConfig m = some superseded →
        covered superseded.config → Benches env m superseded.config b → b.works = true →
        Benches env m row.config b' → throughput b ≤ throughput b') :
    NotWorse env m covered r := by
  intro pre row post hsplit hlen superseded b b' hcurrent
  rcases h with hsame | ⟨new, hrow, hnew⟩
  · rw [hsame] at hsplit
    have hlengths := congrArg List.length hsplit
    simp only [List.length_append, List.length_cons] at hlengths
    omega
  · rw [hrow] at hsplit
    obtain ⟨rfl, rfl⟩ := split_single hsplit hlen
    exact hnew superseded b b' hcurrent

/-- What a pass writes, whether or not it reaches its yield. -/
lemma iterate_rows {args : AutopilotArgs} (h : Stationary env args.modelId answer hardware)
    (hbench : Benchmarks env args.modelId bench) (l : LoopState) (s : System W) :
    Ensures (serving env) (iterate args l) s fun _ _ s' =>
      s'.store.tunedConfigs = s.store.tunedConfigs ∨ ∃ move,
        Settles bench hardware args l (s.store.getTunedConfig args.modelId) move ∧
        s'.store.tunedConfigs = s.store.tunedConfigs ++ (move.saves args).map fun c =>
          { c with id := some (s.store.tunedConfigs.length + 1) } := by
  rw [iterate_eq]
  have hread : Ensures (serving env) (choose args l) s fun _ _ s' => s'.store = s.store :=
    (choose_store args l s).2
  refine ((choose_fixed h hbench l s).and hread).bind ?_ ?_
  · intro move t s₁ hpost
    obtain ⟨hmove, hstore⟩ := hpost
    refine (commit_ensures args l move s₁).mono ?_
    intro r t s₂ hpost
    exact .inr ⟨move, hmove move rfl, hstore ▸ hpost.1.rows⟩
  · intro e t s₁ hpost
    exact .inl (congrArg InMemoryStorage.tunedConfigs hpost.2)

theorem pass_notWorse {args : AutopilotArgs} (h : Stationary env args.modelId answer hardware)
    (hbench : Benchmarks env args.modelId bench) {l : LoopState} {r : Record W}
    (hoperation : r.operation = .pass args l) (hr : r.Performed env) :
    NotWorse env args.modelId (fun _ => True) r := by
  have hprogram : r.operation.program = iterate args l >>= fun _ => pure () := by
    rw [hoperation]
    rfl
  have hafter := (hr.discarded hprogram).2
  apply notWorse_of_rows
  rw [hafter]
  rcases iterate_rows h hbench l r.before with hsame | ⟨move, hmove, hrows⟩
  · exact .inl hsame
  · rw [hrows]
    cases hmove with
    | skip read locked => exact .inl (List.append_nil _)
    | keep unlocked concluded kept => exact .inl (List.append_nil _)
    | withhold unlocked concluded accepted => exact .inl (List.append_nil _)
    | revert read broken found =>
      refine .inr ⟨_, rfl, fun superseded b b' hcurrent _ hb hworks _ => ?_⟩
      obtain rfl := Option.some.inj (read.symm.trans hcurrent)
      rw [(hbench _).unique (hb r.before), hworks] at broken
      cases broken
    | adopt unlocked concluded accepted =>
      refine .inr ⟨_, rfl, fun superseded b b' hcurrent _ hb hworks hb' => ?_⟩
      subst concluded
      obtain ⟨configs, c, -, -, hwinner, -, hlt⟩ := verdict_accepted accepted
      dsimp only at hb'
      rw [hwinner] at hb'
      rw [hcurrent] at hlt
      have hold : bench superseded.config = b := (hbench _).unique (hb r.before)
      have hnew : bench c = b' := (hbench c).unique (hb' r.before)
      rw [← hnew, ← hold]
      exact throughput_le_of_rank_lt (by rw [hold, hworks]) hlt

/-- What a one-shot tune writes: the config it accepts, if any. -/
lemma tune_rows (h : Stationary env m answer hardware) (hbench : Benchmarks env m bench)
    (modelSpec : Option ModelSpec) (dryRun : Bool) (s : System W) :
    let session := verdict bench m (heuristicConfig modelSpec (some hardware))
    Ensures (serving env) (Operations.tune m modelSpec dryRun) s fun _ _ s' =>
      s'.store.tunedConfigs = s.store.tunedConfigs ∨ session.outcome = .acceptedNew ∧
        s'.store.tunedConfigs = s.store.tunedConfigs ++ [{
          id := some (s.store.tunedConfigs.length + 1)
          modelId := session.modelId
          config := session.winner.config }] := by
  intro session
  have hstore : Ensures (serving env) (tuneOnce m modelSpec none) s fun _ _ s' => s'.store = s.store :=
    ((tuneOnce_only m modelSpec none).frame System.store fun c s hc =>
      serving_offStore env c s hc.offStore).2
  refine ((tuneOnce_fixed h hbench modelSpec none s).and hstore).bind ?_ ?_
  · intro session' t s₁ hpost
    obtain ⟨hsession, hsame⟩ := hpost
    obtain rfl := hsession session' rfl
    split_ifs with haccepted
    · rw [← hsame]
      exact .inr ⟨haccepted.1, rfl⟩
    · exact .inl (congrArg InMemoryStorage.tunedConfigs hsame)
  · intro e t s₁ hpost
    exact .inl (congrArg InMemoryStorage.tunedConfigs hpost.2)

theorem tune_notWorse (h : Stationary env m answer hardware) (hbench : Benchmarks env m bench)
    {modelSpec : Option ModelSpec} {dryRun : Bool} {r : Record W}
    (hoperation : r.operation = .tune m modelSpec dryRun) (hr : r.Performed env) :
    NotWorse env m (fun config => config ∈ tried modelSpec hardware) r := by
  have hprogram : r.operation.program = Operations.tune m modelSpec dryRun >>= fun _ => pure () := by
    rw [hoperation]
    rfl
  have hafter := (hr.discarded hprogram).2
  apply notWorse_of_rows
  rw [hafter]
  rcases tune_rows h hbench modelSpec dryRun r.before with hsame | ⟨haccepted, hrows⟩
  · exact .inl hsame
  · refine .inr ⟨_, hrows, fun superseded b b' _ htried hb hworks hb' => ?_⟩
    obtain ⟨configs, c, -, -, hwinner, -, -⟩ := verdict_accepted haccepted
    have hold : bench superseded.config = b := (hbench _).unique (hb r.before)
    have hbest := verdict_best haccepted htried (by rw [hold, hworks])
    dsimp only at hb'
    rw [hwinner] at hb' hbest
    have hnew : bench c = b' := (hbench c).unique (hb' r.before)
    rwa [hold, hnew] at hbest

/-- In every sequence of tunes and passes: a row written by a pass is at least as good as the
working one it supersedes, and one written by a one-shot tune at least as good as any of the
working configs that the tune benchmarks. -/
theorem records_notWorse (h : Stationary env m answer hardware) (operations : List Operation)
    (hops : ∀ op ∈ operations, Tunes m op) (s : System W) :
    ∀ r ∈ records env operations s, NotWorse env m (Covered hardware r.operation) r := by
  obtain ⟨bench, hbench⟩ := exists_benchmarks h
  intro r hr
  have hperformed := records_performed env operations s r hr
  have htunes := hops r.operation (records_operation env operations s r hr)
  cases hoperation : r.operation with
  | tune modelId modelSpec dryRun =>
    rw [hoperation] at htunes
    obtain rfl : modelId = m := htunes
    exact tune_notWorse h hbench hoperation hperformed
  | pass args l =>
    rw [hoperation] at htunes
    obtain rfl : args.modelId = m := htunes
    exact pass_notWorse h hbench hoperation hperformed
  | _ =>
    rw [hoperation] at htunes
    cases htunes

/-- A runtime that is faster the larger the context. -/
def steady : Environment ℚ := clocked [] (fun _ => true) fun _ => rising

/-- Two passes of an autopilot, and then a one-shot tune. -/
def climbThenTune : List Operation :=
  [.pass { modelId := "m" } ⟨0, [], []⟩, .pass { modelId := "m" } ⟨1, [], []⟩, .tune "m" none false]

theorem records_notWorse_steady :
    ((records steady climbThenTune ⟨0, {}⟩).map fun r => r.after.store.tunedConfigs.length) =
        [1, 2, 3] ∧
      ∀ r ∈ records steady climbThenTune ⟨0, {}⟩,
        NotWorse steady "m" (Covered ⟨[], 0⟩ r.operation) r := by
  have hops : ∀ op ∈ climbThenTune, Tunes "m" op := by simp [climbThenTune, Tunes]
  refine ⟨by decide +kernel, ?_⟩
  exact records_notWorse (clocked_stationary [] (fun _ => true) rising "m") climbThenTune hops ⟨0, {}⟩

/-- The autopilot climbs to a context of 8192, and the one-shot tune goes back to 4096. -/
theorem records_get_worse : ¬ ∀ r ∈ records steady climbThenTune ⟨0, {}⟩,
    NotWorse steady "m" (fun _ => True) r := by
  intro h
  obtain ⟨bench, hbench⟩ := exists_benchmarks (clocked_stationary [] (fun _ => true) rising "m")
  have hmeasured (ctx : ℚ) (value : Bool × ℚ) (hrun : ((exec (serving steady)
      (measure "m" (Config.ofCtx ctx)) ⟨0, {}⟩).result.toOption.map fun b => (b.works, throughput b)) =
      some value) : ((bench (Config.ofCtx ctx)).works, throughput (bench (Config.ofCtx ctx))) = value := by
    have hresult : (exec (serving steady) (measure "m" (Config.ofCtx ctx)) ⟨0, {}⟩).result =
      .ok (bench (Config.ofCtx ctx)) := hbench _ _
    rw [hresult] at hrun
    exact Option.some.inj hrun
  obtain ⟨hworks, hold⟩ := Prod.mk.inj (hmeasured 8192 (true, 8192) (by decide +kernel))
  obtain ⟨-, hnew⟩ := Prod.mk.inj (hmeasured 4096 (true, 4096) (by decide +kernel))
  let r := (records steady climbThenTune ⟨0, {}⟩).get ⟨2, by decide +kernel⟩
  let row (i : ℕ) (ctx : ℚ) : TunedConfig := { id := some i, modelId := "m", config := Config.ofCtx ctx }
  have hafter : r.after.store.tunedConfigs = [row 1 4096, row 2 8192] ++ row 3 4096 :: [] := by
    decide +kernel
  have hbefore : r.before.store.tunedConfigs.length = 2 := by decide +kernel
  have hworse : throughput (bench (Config.ofCtx 8192)) ≤ throughput (bench (Config.ofCtx 4096)) :=
    h r (List.get_mem _ _) _ _ _ hafter hbefore.le (row 2 8192) _ _ rfl trivial (hbench _) hworks
      (hbench _)
  rw [hold, hnew] at hworse
  norm_num at hworse

end LlmMax.MixedTuning
