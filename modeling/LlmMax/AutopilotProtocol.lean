import LlmMax.AutopilotRun
import LlmMax.EffectThreads

/-! How the loop treats the lock, whatever the replies to its calls: it saves only for its
own model, and only after a read in the same pass that found no locked config. -/
namespace LlmMax.AutopilotProtocol
open Domain BenchMetrics AutotuneState Storage EffectProgram EffectThreads Services
open AutotuneDecision AutotuneEngine AutotuneSpec AutopilotPass AutopilotRun

/-- The typestate tells whether the newest read found the model unlocked and nothing was
saved since. -/
def loopProtocol (modelId : String) : Protocol services Exn Bool where
  allowed fresh c := match c with
    | .storage (.getTunedConfig m) => m = modelId
    | .storage (.saveTunedConfig config) => fresh = true ∧ config.modelId = modelId
    | .storage (.lockConfig _) => False
    | _ => True
  move fresh c := match c with
    | .storage (.getTunedConfig _) => fun
      | .ok stored => !(stored.any TunedConfig.isLocked)
      | .error _ => fresh
    | .storage (.saveTunedConfig _) => fun _ => false
    | _ => fun _ => fresh

/-- Calls that neither read nor write the tuned configs. -/
def Bystander : Call → Prop
  | .storage (.getTunedConfig _) | .storage (.saveTunedConfig _) | .storage (.lockConfig _) => False
  | _ => True

lemma bystander_of_measuring {c : Call} (h : Measuring c) : Bystander c := by
  cases c with
  | storage op => exact absurd rfl (h.offStore op)
  | _ => trivial

section engine
variable {τ : Type} {P : Protocol services Exn τ} {q : τ}

/-- A tuning pass leaves the typestate alone where measuring does, and its session is about
its model. -/
lemma tuneOnce_complies (h : ∀ c, Measuring c → P.allowed q c ∧ ∀ r, P.move q c r = q)
    (modelId : String) (modelSpec : Option ModelSpec) (baselineConfig : Option Config) :
    Complies P (fun session q' => q' = q ∧ session.modelId = modelId) q
      (tuneOnce modelId modelSpec baselineConfig) := by
  have hrequire : Only Measuring requireRuntime :=
    requireRuntime_only.mono fun _ => measuring_of_asksOnly
  apply (complies_of_only hrequire h).bind
  rintro _ _ rfl
  apply (complies_of_only (baselineOr_only modelSpec baselineConfig) h).bind
  rintro config _ rfl
  apply (complies_of_only (measure_only modelId config) h).bind
  rintro benchmark _ rfl
  have hlift : Only Measuring (Program.lift (I := services) (generateCandidates config)) :=
    only_lift _
  apply (complies_of_only hlift h).bind
  rintro configs _ rfl
  apply (complies_of_only (measureCandidates_only modelId ⟨config, benchmark⟩ configs) h).bind
  rintro candidates _ rfl
  exact complies_pure ⟨rfl, conclude_modelId _ _ _⟩

end engine

variable {args : AutopilotArgs} {m : String} {fresh : Bool}

lemma loopProtocol_bystander {c : Call} (h : Bystander c) :
    (loopProtocol m).allowed fresh c ∧ ∀ r, (loopProtocol m).move fresh c r = fresh := by
  cases c with
  | storage op =>
    cases op with
    | getTunedConfig _ => cases h
    | saveTunedConfig _ => cases h
    | lockConfig _ => cases h
    | _ => exact ⟨trivial, fun _ => rfl⟩
  | _ => exact ⟨trivial, fun _ => rfl⟩

lemma only_bystander_complies {α : Type} {p : Engine α} (h : Only Bystander p) :
    Complies (loopProtocol m) (fun _ fresh' => fresh' = fresh) fresh p :=
  complies_of_only h fun _ hc => loopProtocol_bystander hc

/-- What a choice promises about the saves it leads to. -/
def Cleared (args : AutopilotArgs) (move : Move) (fresh : Bool) : Prop :=
  ∀ config ∈ move.saves args, fresh = true ∧ config.modelId = args.modelId

lemma chooseForward_complies (l : LoopState) (baselineConfig : Option Config) :
    Complies (loopProtocol args.modelId) (Cleared args) true
      (chooseForward args l baselineConfig) := by
  apply (tuneOnce_complies (fun c hc => loopProtocol_bystander (bystander_of_measuring hc)) args.modelId
    args.modelSpec baselineConfig).bind
  intro session _ hpost
  obtain ⟨rfl, hmodel⟩ := hpost
  split_ifs with h
  · have hlimit : Only Bystander (rateLimited args.maxAdjustmentsPerDay l.adjustmentTimestamps) := by
      refine (rateLimited_only _ _).mono fun c hc => ?_
      subst hc
      trivial
    apply (only_bystander_complies hlimit).bind
    rintro limited _ rfl
    refine complies_pure fun config hc => ?_
    cases limited with
    | true => cases hc
    | false =>
      obtain rfl := List.mem_singleton.mp hc
      exact ⟨rfl, hmodel⟩
  · exact complies_pure fun config hc => by cases hc

lemma choose_complies (l : LoopState) :
    Complies (loopProtocol args.modelId) (Cleared args) fresh (choose args l) := by
  have hread : Complies (loopProtocol args.modelId)
      (fun stored fresh' => fresh' = !(stored.any TunedConfig.isLocked)) fresh
      (getTunedConfig args.modelId) :=
    complies_perform (I := services) rfl fun _ => rfl
  apply hread.bind
  rintro stored _ rfl
  cases stored with
  | none => exact chooseForward_complies l none
  | some existing =>
    dsimp only
    split_ifs with hl
    · exact complies_pure fun config hc => by cases hc
    · have hfresh : (!(some existing).any TunedConfig.isLocked) = true := by simpa using hl
      rw [hfresh]
      have hactive : Only Bystander (checkActive args l existing.config) :=
        (checkActive_only _ _ _).mono fun c hc => bystander_of_measuring hc
      apply (only_bystander_complies hactive).bind
      rintro revert _ rfl
      cases revert with
      | none => exact chooseForward_complies l _
      | some r =>
        refine complies_pure fun config hc => ?_
        obtain rfl := List.mem_singleton.mp hc
        exact ⟨rfl, rfl⟩

lemma saveTunedConfig_complies {config : TunedConfig} (h : config.modelId = m) :
    Complies (loopProtocol m) (fun _ _ => True) true (saveTunedConfig config) :=
  complies_perform (I := services) ⟨rfl, h⟩ fun _ => trivial

lemma commit_complies (l : LoopState) {move : Move} (h : Cleared args move fresh) :
    Complies (loopProtocol args.modelId) (fun _ _ => True) fresh (commit args l move) := by
  have hlog (modelId eventType : String) (details : List (String × Detail)) :
      Only Bystander (logEvent modelId eventType details) := by
    refine (logEvent_only _ _ _).mono fun c hc => ?_
    obtain ⟨event, rfl⟩ := hc
    trivial
  have hnow : Only Bystander now := by
    refine now_only.mono fun c hc => ?_
    subst hc
    trivial
  cases move with
  | skip existing =>
    exact (only_bystander_complies ((hlog _ _ _).bind fun _ => only_pure _)).mono
      fun _ _ _ => trivial
  | revert probe target =>
    obtain ⟨rfl, hmodel⟩ := h _ (List.mem_singleton.mpr rfl)
    apply (saveTunedConfig_complies hmodel).bind
    intro _ fresh' _
    exact (only_bystander_complies (hnow.bind fun _ => (hlog _ _ _).bind fun _ =>
      only_pure _)).mono fun _ _ _ => trivial
  | keep session => exact complies_pure trivial
  | withhold session =>
    exact (only_bystander_complies ((hlog _ _ _).bind fun _ => only_pure _)).mono
      fun _ _ _ => trivial
  | adopt session =>
    obtain ⟨rfl, hmodel⟩ := h _ (List.mem_singleton.mpr rfl)
    have happly : Complies (loopProtocol args.modelId) (fun _ _ => True) true
        (AutotuneEngine.apply session) := by
      apply (saveTunedConfig_complies hmodel).bind
      intro _ fresh' _
      exact (only_bystander_complies ((hlog _ _ _).bind fun _ => only_pure _)).mono
        fun _ _ _ => trivial
    apply happly.bind
    intro _ fresh' _
    exact (only_bystander_complies (hnow.bind fun _ => only_pure _)).mono fun _ _ _ => trivial

theorem iterate_complies (l : LoopState) :
    Complies (loopProtocol args.modelId) (fun _ _ => True) fresh (iterate args l) := by
  rw [iterate_eq]
  apply (choose_complies l).bind
  intro move fresh' hcleared
  exact commit_complies l hcleared

/-- A protocol that every pass obeys and that the calls in between leave alone is obeyed by
every run of the loop. -/
theorem autopilotLoop_complies_of {τ : Type} {P : Protocol services Exn τ}
    (hpass : ∀ q l, Complies P (fun _ _ => True) q (iterate args l))
    (hbetween : ∀ q c, Between c → P.allowed q c ∧ ∀ r, P.move q c r = q) {q : τ} (draws : ℕ)
    (l : LoopState) : Complies P (fun _ _ => True) q (autopilotLoop args draws l) := by
  induction draws generalizing l q with
  | zero => exact complies_pure trivial
  | succ draws ih =>
    unfold autopilotLoop
    split_ifs with hc
    · apply (hpass q l).bind
      intro out q' _
      obtain ⟨session, l'⟩ := out
      have hyield : Only Between (yieldSession session) :=
        only_perform (I := services) trivial
      apply (complies_of_only hyield (hbetween q')).bind
      rintro _ _ rfl
      split_ifs with hlocked
      · exact complies_pure trivial
      · apply (complies_of_only (advance_between l') (hbetween _)).bind
        rintro next _ rfl
        exact ih next
    · exact complies_pure trivial

/-- Every run of the loop obeys its protocol. -/
theorem autopilotLoop_complies (draws : ℕ) (l : LoopState) :
    Complies (loopProtocol args.modelId) (fun _ _ => True) fresh (autopilotLoop args draws l) := by
  apply autopilotLoop_complies_of fun fresh l => iterate_complies l
  intro fresh c hc
  apply loopProtocol_bystander
  cases c with
  | yielded _ | sleep _ => trivial
  | _ => cases hc

end LlmMax.AutopilotProtocol
