import LlmMax.AutopilotAgreement

/-! Where the autopilot rolls back to, against everything measured so far. The history
keeps the successes of a config and never learns of the failed probes after them. -/
namespace LlmMax.AutopilotRollback
open Domain BenchMetrics AutotuneState Storage EffectProgram Services History BenchRunner
open AutotuneDecision AutotuneEngine AutotuneSpec AutopilotPass AutopilotRun AutopilotAgreement

variable {W : Type}

/-- The benchmarks of a trace, each with the config it was run under. -/
def benched (t : Trace W) : List (Config × BenchmarkResult) :=
  (measurements t).map fun b => (b.config, b)

/-- Everything known about configs: the given history, then the benchmarks of the passes. -/
def evidence (args : AutopilotArgs) (ys : List (Yield W)) : List (Config × BenchmarkResult) :=
  (args.initialHistory.map fun r => (r.config, r.benchmark)) ++ ys.flatMap fun y => benched y.steps

/-- The newest result known for a config. -/
def newest (config : Config) (known : List (Config × BenchmarkResult)) : Option BenchmarkResult :=
  ((known.filter fun e => e.1 = config).getLast?).map Prod.snd

lemma newest_append (config : Config) (known : List (Config × BenchmarkResult)) (active : Config)
    (b : BenchmarkResult) :
    newest config (known ++ [(active, b)]) = if active = config then some b else newest config known := by
  unfold newest
  split_ifs with h <;> simp [List.filter_append, h]

/-- The target of a rollback worked when it was last measured. -/
def TargetWorks (args : AutopilotArgs) (earlier : List (Yield W)) (y : Yield W) : Prop :=
  y.session.outcome = .rolledBack →
    ∃ b ∈ newest y.session.winner.config (evidence args (earlier ++ [y])), b.works

instance (args : AutopilotArgs) (earlier : List (Yield W)) (y : Yield W) :
    Decidable (TargetWorks args earlier y) :=
  inferInstanceAs (Decidable (_ → ∃ b ∈ _, _))

/-- The configs that worked according to a history. -/
def knownGood (history : List TuningCandidateResult) : List Config :=
  ((history.filter fun r => r.benchmark.works).map TuningCandidateResult.config).dedup

def targets (block : List (Yield W)) : List Config := block.map fun y => y.session.winner.config

def Rollbacks (block : List (Yield W)) : Prop := ∀ y ∈ block, y.session.outcome = .rolledBack

/-- Rollbacks of a run never return to a broken config: every target worked when last
measured, and a block of rollbacks neither repeats a target nor outgrows the known-good
configs. -/
structure Safe (args : AutopilotArgs) (ys : List (Yield W)) : Prop where
  works : Each (TargetWorks args) [] ys
  distinct : ∀ pre block post, ys = pre ++ block ++ post → Rollbacks block → (targets block).Nodup
  bounded : ∀ pre first block post, ys = pre ++ first :: block ++ post → Rollbacks (first :: block) →
    (first :: block).length ≤ (knownGood first.loop.history).length

/-- When a pass with a history finds its config failing at once, the newest entry of the
history that works for another config has not been overtaken by a failed benchmark of that
other config. -/
def Fresh (args : AutopilotArgs) (earlier : List (Yield W)) (y : Yield W) : Prop :=
  ∀ c ∈ y.before.store.getTunedConfig args.modelId, c.isLocked = false →
    ∀ b ∈ (measurements y.steps).head?, b.works = false →
      ∀ older r newer, y.loop.history = older ++ r :: newer → r.benchmark.works →
        r.config ≠ c.config → (∀ q ∈ newer, q.benchmark.works → q.config = c.config) →
          ∃ b ∈ newest r.config (evidence args earlier), b.works

/-- A pass that ends in a rollback from config `c` after the failed probe `b`. -/
structure RolledBack (args : AutopilotArgs) (y : Yield W) (c : TunedConfig) (b : BenchmarkResult) :
    Prop where
  stored : y.before.store.getTunedConfig args.modelId = some c
  unlocked : c.isLocked = false
  probe : b.config = c.config
  failed : b.works = false
  probed : measurements y.steps = [b]
  target : rollbackTarget ⟨c.config, b⟩ y.loop.history = some y.session.winner.config
  kept : y.loopAfter.history = y.loop.history
  saved : ∃ d, y.after.store.getTunedConfig args.modelId = some d ∧ d.config = y.session.winner.config

variable {args : AutopilotArgs} {env : Environment W} {y : Yield W} {earlier : List (Yield W)}

lemma isPass_rolledBack (h : IsPass args y) (hr : y.session.outcome = .rolledBack) :
    ∃ c b, RolledBack args y c b := by
  obtain ⟨move, t₁, t₂, pass⟩ := h
  have hsession := pass.committed.session_eq
  have houtcome := chosen_outcome pass.chosen
  rw [← hsession, hr] at houtcome
  cases pass.chosen with
  | @revert existing b target read unlocked known measured failed found probed untimed =>
    refine ⟨existing, b, read, unlocked, measured.config_eq, failed,
      by rw [pass.measurements, probed], ?_, ?_, ?_⟩
    · rw [found, hsession]
      rfl
    · simp [pass.committed.history_eq, Move.learned]
    · have hrows := pass.rows
      simp only [Move.saves, List.map_singleton] at hrows
      rw [hsession, InMemoryStorage.getTunedConfig, hrows, current_append, if_pos rfl]
      exact ⟨_, rfl, rfl⟩
  | skip => cases houtcome
  | forward tuned verdict =>
    generalize clockReads t₁ = times at verdict
    cases verdict <;> cases houtcome

lemma evidence_append (ys : List (Yield W)) (y : Yield W) :
    evidence args (ys ++ [y]) = evidence args ys ++ benched y.steps := by
  simp [evidence]

lemma RolledBack.evidence {c : TunedConfig} {b : BenchmarkResult} (h : RolledBack args y c b) :
    evidence args (earlier ++ [y]) = evidence args earlier ++ [(c.config, b)] := by
  simp [evidence_append, benched, h.probed, h.probe]

/-- A pass whose first benchmark fails for an unlocked config rolls back if the history has
a target. -/
lemma isPass_rolls_back (h : IsPass args y) {c : TunedConfig} {b : BenchmarkResult} {target : Config}
    (hc : y.before.store.getTunedConfig args.modelId = some c) (hunlocked : c.isLocked = false)
    (hb : (measurements y.steps).head? = some b) (hfailed : b.works = false)
    (htarget : rollbackTarget ⟨c.config, b⟩ y.loop.history = some target) :
    y.session.outcome = .rolledBack := by
  obtain ⟨move, t₁, t₂, pass⟩ := h
  rw [pass.committed.session_eq, chosen_outcome pass.chosen]
  rw [pass.measurements] at hb
  cases pass.chosen with
  | skip read locked =>
    obtain rfl := Option.some.inj (hc.symm.trans read)
    rw [hunlocked] at locked
    cases locked
  | revert => rfl
  | forward tuned verdict =>
    exfalso
    obtain ⟨r, hr, -⟩ := rollbackTarget_eq_some htarget
    rcases tuned.probes_eq with ⟨-, hnone | hempty⟩ | ⟨c', b', hc', -, hprobe, -, hno⟩
    · rw [hc] at hnone
      cases hnone
    · rw [hempty] at hr
      cases hr
    · obtain rfl := Option.some.inj (hc.symm.trans hc')
      rw [tuned.trace, hprobe] at hb
      obtain rfl : b' = b := by simpa using hb
      rw [hno hfailed] at htarget
      cases htarget

/-- A rollback reaches a config that worked last exactly when the history is not stale there. -/
lemma targetWorks_iff_fresh (h : IsPass args y) : TargetWorks args earlier y ↔ Fresh args earlier y := by
  constructor
  · intro hworks c hc hunlocked b hb hfailed older r newer hsplit hw hne hnewer
    have htarget : rollbackTarget ⟨c.config, b⟩ y.loop.history = some r.config :=
      rollbackTarget_eq_some_iff.mpr ⟨older, r, newer, hsplit, hw, hne, hnewer, rfl⟩
    have hr : y.session.outcome = .rolledBack :=
      isPass_rolls_back h hc hunlocked hb hfailed htarget
    obtain ⟨c', b', hback⟩ := isPass_rolledBack h hr
    obtain rfl : c' = c := Option.some.inj (hback.stored.symm.trans hc)
    obtain rfl : b' = b := by simpa [hback.probed] using hb
    have hwinner : r.config = y.session.winner.config :=
      Option.some.inj (htarget.symm.trans hback.target)
    have hnewest := hworks hr
    rw [hback.evidence, newest_append, ← hwinner, if_neg hne.symm] at hnewest
    exact hnewest
  · intro hfresh hr
    obtain ⟨c, b, hback⟩ := isPass_rolledBack h hr
    obtain ⟨older, r, newer, hsplit, hw, hne, hnewer, htarget⟩ :=
      rollbackTarget_eq_some_iff.mp hback.target
    have hb : (measurements y.steps).head? = some b := by rw [hback.probed]; rfl
    rw [hback.evidence, newest_append, ← htarget, if_neg hne.symm]
    exact hfresh c hback.stored hback.unlocked b hb hback.failed older r newer hsplit hw hne hnewer

section block
variable {s : System W} {ys pre block post : List (Yield W)}

lemma rollbacks_append : Rollbacks (block ++ [y]) ↔ Rollbacks block ∧ y.session.outcome = .rolledBack := by
  simp [Rollbacks, or_imp, forall_and]

/-- After a rollback the target is what the next pass finds stored. -/
lemma follows_target {z : Yield W} {c : TunedConfig} (hz : IsPass args z)
    (hr : z.session.outcome = .rolledBack) (h : Follows args s (earlier ++ [z]) y)
    (hc : y.before.store.getTunedConfig args.modelId = some c) : c.config = z.session.winner.config := by
  obtain ⟨c', b, hback⟩ := isPass_rolledBack hz hr
  obtain ⟨d, hd, hconfig⟩ := hback.saved
  have hstore := h.store
  simp only [List.getLast?_concat, Option.map_some, Option.getD_some] at hstore
  rw [hstore, hd] at hc
  rw [← Option.some.inj hc, hconfig]

/-- What a pass after a block of rollbacks finds stored is their last target. -/
lemma last_target (hfollows : Each (Follows args s) [] ys) (hys : ys = (pre ++ block) ++ y :: post)
    (hblock : Rollbacks block) (hne : block ≠ []) {c : TunedConfig}
    (hc : y.before.store.getTunedConfig args.modelId = some c) :
    (targets block).getLast? = some c.config := by
  rcases List.eq_nil_or_concat block with rfl | ⟨front, last, rfl⟩
  · exact absurd rfl hne
  · rw [List.concat_eq_append] at hys hblock ⊢
    have hlast := each_iff.mp hfollows (pre ++ front) last (y :: post) (by simp [hys])
    have hy := each_iff.mp hfollows _ y post hys
    rw [List.nil_append, ← List.append_assoc] at hy
    rw [follows_target hlast.pass (rollbacks_append.mp hblock).2 hy hc]
    simp [targets]

/-- Within a block of rollbacks whose targets worked, targets do not repeat, and all of
them but the last have failed since. -/
lemma block_targets (hfollows : Each (Follows args s) [] ys) (hworks : Each (TargetWorks args) [] ys)
    (hys : ys = pre ++ block ++ post) (hblock : Rollbacks block) :
    (targets block).Nodup ∧ ∀ z ∈ block, (targets block).getLast? = some z.session.winner.config ∨
      ∃ b ∈ newest z.session.winner.config (evidence args (pre ++ block)), b.works = false := by
  induction block using List.reverseRecOn generalizing post with
  | nil => simp [targets]
  | append_singleton block y ih =>
    obtain ⟨hold, hr⟩ := rollbacks_append.mp hblock
    have hsplit : ys = (pre ++ block) ++ y :: post := by simp [hys]
    obtain ⟨hnodup, hfail⟩ := ih hsplit hold
    have hy := each_iff.mp hfollows _ y post hsplit
    have hgood := each_iff.mp hworks _ y post hsplit hr
    rw [List.nil_append] at hy hgood
    obtain ⟨c, b, hback⟩ := isPass_rolledBack hy.pass hr
    have hevidence : evidence args (pre ++ block ++ [y]) =
        evidence args (pre ++ block) ++ [(c.config, b)] := hback.evidence
    -- the probe of this pass turns the newest result of the previous target into a failure
    have hfailed : ∀ z ∈ block, ∃ b ∈ newest z.session.winner.config
        (evidence args (pre ++ block ++ [y])), b.works = false := by
      intro z hz
      rw [hevidence, newest_append]
      split_ifs with hactive
      · exact ⟨b, rfl, hback.failed⟩
      · apply (hfail z hz).resolve_left
        intro hlast
        rw [last_target hfollows hsplit hold (List.ne_nil_of_mem hz) hback.stored] at hlast
        exact hactive (Option.some.inj hlast)
    refine ⟨?_, fun z hz => ?_⟩
    · rw [targets, List.map_append, List.map_singleton, List.nodup_append]
      refine ⟨hnodup, List.nodup_singleton _, fun config hconfig target htarget => ?_⟩
      obtain ⟨z, hz, rfl⟩ := List.mem_map.mp hconfig
      obtain rfl := List.mem_singleton.mp htarget
      intro heq
      obtain ⟨b₁, hb₁, hb₁w⟩ := hfailed z hz
      obtain ⟨b₂, hb₂, hb₂w⟩ := hgood
      rw [heq] at hb₁
      rw [Option.some.inj (Option.mem_def.mp hb₁ |>.symm.trans hb₂)] at hb₁w
      exact absurd hb₂w (by simp [hb₁w])
    · rcases List.mem_append.mp hz with hz | hz
      · rw [← List.append_assoc]
        exact .inr (hfailed z hz)
      · obtain rfl := List.mem_singleton.mp hz
        exact .inl (by simp [targets])

/-- A block of rollbacks works on one and the same history. -/
lemma block_history {first : Yield W} (hfollows : Each (Follows args s) [] ys)
    (hys : ys = pre ++ first :: block ++ post) (hblock : Rollbacks (first :: block)) :
    ∀ z ∈ first :: block, z.loop.history = first.loop.history := by
  induction block using List.reverseRecOn generalizing post with
  | nil => simp
  | append_singleton block y ih =>
    obtain ⟨hold, -⟩ := rollbacks_append.mp (List.cons_append ▸ hblock)
    have hsplit : ys = (pre ++ first :: block) ++ y :: post := by simp [hys]
    have hsame := ih hsplit hold
    have hy := each_iff.mp hfollows (pre ++ first :: block) y post hsplit
    intro z hz
    rw [← List.cons_append, List.mem_append, List.mem_singleton] at hz
    rcases hz with hz | rfl
    · exact hsame z hz
    · have hne : first :: block ≠ [] := by simp
      set last := (first :: block).getLast hne with hdef
      have hmem : last ∈ first :: block := List.getLast_mem hne
      have hlast : (pre ++ first :: block).getLast? = some last := by
        rw [List.getLast?_append_of_ne_nil _ hne, List.getLast?_eq_some_getLast hne]
      obtain ⟨front, hfront⟩ : ∃ front, pre ++ first :: block = front ++ [last] :=
        ⟨_, (List.dropLast_append_getLast? last hlast).symm⟩
      rw [hfront, List.append_assoc, List.singleton_append] at hsplit
      have hpass : IsPass args last := (each_iff.mp hfollows front last (z :: post) hsplit).pass
      obtain ⟨c, b, hback⟩ := isPass_rolledBack hpass (hold last hmem)
      have hhistory := hy.history
      rw [List.nil_append, hlast] at hhistory
      exact hhistory.trans (hback.kept.trans (hsame last hmem))

end block

/-- The target of a rollback is among the known-good configs of its history. -/
lemma target_mem_knownGood (h : IsPass args y) (hr : y.session.outcome = .rolledBack) :
    y.session.winner.config ∈ knownGood y.loop.history := by
  obtain ⟨c, b, hback⟩ := isPass_rolledBack h hr
  obtain ⟨r, hmem, hconfig, hw, -⟩ := rollbackTarget_eq_some hback.target
  rw [knownGood, List.mem_dedup, ← hconfig]
  exact List.mem_map_of_mem (List.mem_filter.mpr ⟨hmem, hw⟩)

/-- The rollbacks of a run are safe exactly when the history is fresh at each of them. -/
theorem run_safe_iff_fresh (env : Environment W) (args : AutopilotArgs) (draws : ℕ) (s : System W) :
    Safe args (run env args draws s) ↔ Each (Fresh args) [] (run env args draws s) := by
  have hfollows : Each (Follows args s) [] (run env args draws s) := run_follows draws s
  have hiff : Each (TargetWorks args) [] (run env args draws s) ↔
      Each (Fresh args) [] (run env args draws s) := by
    rw [each_iff, each_iff]
    refine forall_congr' fun pre => forall_congr' fun y => forall_congr' fun post =>
      imp_congr_right fun hsplit => ?_
    exact targetWorks_iff_fresh (each_iff.mp hfollows pre y post hsplit).pass
  refine ⟨fun h => hiff.mp h.works, fun h => ?_⟩
  have hworks := hiff.mpr h
  refine ⟨hworks, fun pre block post hys hblock => (block_targets hfollows hworks hys hblock).1, ?_⟩
  intro pre first block post hys hblock
  have hnodup := (block_targets hfollows hworks hys hblock).1
  have hsub : targets (first :: block) ⊆ knownGood first.loop.history := by
    intro config hconfig
    obtain ⟨z, hz, rfl⟩ := List.mem_map.mp hconfig
    obtain ⟨front, back, hfront⟩ := List.append_of_mem hz
    have hpass := (each_iff.mp hfollows (pre ++ front) z (back ++ post) (by simp [hys, hfront])).pass
    rw [← block_history hfollows hys hblock z hz]
    exact target_mem_knownGood hpass (hblock z hz)
  have := (hnodup.subperm hsub).length_le
  simpa [targets] using this

/-- A seeded history in which the configs with those contexts worked. -/
def seededWith (contexts : List ℚ) : AutopilotArgs where
  modelId := "llama3.2:1b"
  initialHistory := contexts.map fun ctx =>
    ⟨Config.ofCtx ctx, { config := Config.ofCtx ctx, samplesCompleted := 3, samplesAttempted := 3 }⟩

/-- When nothing works any more, the second pass goes back to what failed in the first. -/
theorem run_returns_to_failed :
    ¬ Safe (seededWith [2048, 4096])
      (run (clocked [] (fun _ => true) fun _ _ => .error "out of memory") (seededWith [2048, 4096]) 2
        ⟨0, { tunedConfigs := [{ modelId := "llama3.2:1b", config := Config.ofCtx 4096 }] }⟩) :=
  fun h => absurd h.works (by decide +kernel)

end LlmMax.AutopilotRollback
