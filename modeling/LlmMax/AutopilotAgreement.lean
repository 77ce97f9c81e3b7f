import LlmMax.AutopilotRun

/-! Sessions and storage agree at every yield of the autopilot: what the session calls
the winner is what the store calls current, and the table of tuned configs grows by the
adjustments and nothing else. -/
namespace LlmMax.AutopilotAgreement
open Domain BenchMetrics AutotuneState Storage EffectProgram Services History
open AutotuneDecision AutotuneEngine AutotuneSpec AutopilotPass AutopilotRun

/-- The outcome a move is reported with. -/
def outcomeOf : Move → TuningOutcome
  | .skip _ => .locked
  | .revert _ _ => .rolledBack
  | .keep _ => .keptBaseline
  | .withhold _ => .rateLimited
  | .adopt _ => .acceptedNew

section chosen
variable {W : Type} {args : AutopilotArgs} {l : LoopState} {stored : Option TunedConfig}
  {t : Trace W} {move : Move}

theorem chosen_outcome (h : Chosen args l stored t move) :
    (move.session args l).outcome = outcomeOf move := by
  cases h with
  | skip => rfl
  | revert => rfl
  | forward tuned verdict =>
    generalize clockReads t = times at verdict
    cases verdict with
    | keep kept => exact kept
    | withhold => rfl
    | adopt accepted => exact accepted
    | adoptUncapped accepted => exact accepted

/-- The baseline of a session is the config that was stored when the pass began. -/
lemma chosen_baseline (h : Chosen args l stored t move) {c : TunedConfig} (hc : stored = some c) :
    (move.session args l).baseline.config = c.config := by
  cases h with
  | skip read =>
    obtain rfl := Option.some.inj (read.symm.trans hc)
    rfl
  | revert read =>
    obtain rfl := Option.some.inj (read.symm.trans hc)
    rfl
  | @forward _ baseline candidates _ tuned verdict =>
    have hbase : baseline.config = c.config := by simpa [hc] using tuned.baseline_config
    generalize clockReads t = times at verdict
    cases verdict <;> simpa [Move.session, limitedSession] using hbase

/-- A move that saves nothing reports its baseline as the winner. -/
lemma chosen_winner_of_quiet (h : Chosen args l stored t move) (hquiet : move.saves args = []) :
    (move.session args l).winner.config = (move.session args l).baseline.config := by
  cases h with
  | skip => rfl
  | revert => simp [Move.saves] at hquiet
  | @forward _ baseline candidates _ tuned verdict =>
    generalize clockReads t = times at verdict
    cases verdict with
    | keep kept =>
      rcases conclude_cases args.modelId baseline candidates with hc | hc
      · simp [Move.session, hc.2]
      · exact absurd (kept.symm.trans hc.1) (by decide)
    | withhold => rfl
    | adopt => simp [Move.saves] at hquiet
    | adoptUncapped => simp [Move.saves] at hquiet

/-- What a move saves is its winner, under the model of the loop. -/
lemma chosen_saves (h : Chosen args l stored t move) :
    ∀ c ∈ move.saves args, c.modelId = args.modelId ∧
      c.config = (move.session args l).winner.config := by
  intro c hc
  cases h with
  | skip => simp [Move.saves] at hc
  | revert =>
    obtain rfl := List.mem_singleton.mp hc
    exact ⟨rfl, rfl⟩
  | forward tuned verdict =>
    generalize clockReads t = times at verdict
    cases verdict with
    | keep => simp [Move.saves] at hc
    | withhold => simp [Move.saves] at hc
    | adopt =>
      obtain rfl := List.mem_singleton.mp hc
      exact ⟨by simp, rfl⟩
    | adoptUncapped =>
      obtain rfl := List.mem_singleton.mp hc
      exact ⟨by simp, rfl⟩

end chosen

def adjusts (outcome : TuningOutcome) : Prop := outcome = .acceptedNew ∨ outcome = .rolledBack

instance (outcome : TuningOutcome) : Decidable (adjusts outcome) :=
  inferInstanceAs (Decidable (_ ∨ _))

lemma saves_length (args : AutopilotArgs) (move : Move) :
    (move.saves args).length = if adjusts (outcomeOf move) then 1 else 0 := by
  cases move <;> simp [Move.saves, adjusts, outcomeOf]

variable {W : Type}

/-- A session and the store it is yielded over. The last field says how the table of
tuned configs has changed since the pass began: rows of the model were appended. -/
structure Agrees (args : AutopilotArgs) (y : Yield W) : Prop where
  winner : ∀ c, y.after.store.getTunedConfig args.modelId = some c →
    c.config = y.session.winner.config
  baseline : ∀ c, y.before.store.getTunedConfig args.modelId = some c →
    y.session.baseline.config = c.config
  inserted : ∃ rows, y.after.store.tunedConfigs = y.before.store.tunedConfigs ++ rows ∧
    (∀ c ∈ rows, c.modelId = args.modelId) ∧
    rows.length = if adjusts y.session.outcome then 1 else 0

theorem isPass_agrees {args : AutopilotArgs} {y : Yield W} (h : IsPass args y) : Agrees args y := by
  obtain ⟨move, t₁, t₂, pass⟩ := h
  have hsession := pass.committed.session_eq
  have hsaves := chosen_saves pass.chosen
  have houtcome := chosen_outcome pass.chosen
  refine ⟨fun c hc => ?_, fun c hc => hsession ▸ chosen_baseline pass.chosen hc, _, pass.rows, ?_, ?_⟩
  · have hcurrent : current args.modelId y.after.store.tunedConfigs = some c := hc
    rw [pass.rows] at hcurrent
    rw [hsession]
    cases hm : move.saves args with
    | nil =>
      rw [hm, List.map_nil, List.append_nil] at hcurrent
      rw [chosen_winner_of_quiet pass.chosen hm, chosen_baseline pass.chosen hcurrent]
    | cons saved rest =>
      have hrest : rest = [] := by
        have hlen := saves_length args move
        rw [hm] at hlen
        split_ifs at hlen
        simpa using hlen
      obtain ⟨hmodel, hconfig⟩ := hsaves saved (by simp [hm])
      rw [hm, hrest, List.map_singleton, current_append, if_pos hmodel] at hcurrent
      cases hcurrent
      exact hconfig
  · intro c hc
    obtain ⟨saved, hs, rfl⟩ := List.mem_map.mp hc
    exact (hsaves saved hs).1
  · rw [List.length_map, saves_length, hsession, houtcome]

variable (env : Environment W) (args : AutopilotArgs)

/-- Session and storage agree over every run: the sessions handed out are those of the
yields, each pass starts from the store the previous one left, and at every yield the
session agrees with the store. -/
theorem run_agrees (draws : ℕ) (s : System W) :
    handovers (exec (serving env) (autopilotLoop args draws (.start args)) s).steps =
        (run env args draws s).map (fun y => (y.after, y.session)) ∧
      Each (fun earlier y =>
        y.before.store = (earlier.getLast?.map fun e => e.after.store).getD s.store ∧
          Agrees args y) [] (run env args draws s) :=
  ⟨autopilotLoop_handovers draws _ s,
    (run_follows draws s).imp fun _ _ h => ⟨h.store, isPass_agrees h.pass⟩⟩

end LlmMax.AutopilotAgreement
