import LlmMax.AutopilotPass
import LlmMax.EffectTwoRuns

/-! Failures of the audit log do not reach the tuning: two runs that differ only in which
audit events could be saved are alike in everything but the audit log. -/
namespace LlmMax.AuditInvisible
open Domain BenchMetrics AutotuneState Storage EffectProgram Services
open AutotuneEngine AutotuneSpec AutopilotPass

/-- How saving an audit event fails: the exception, and whether the row is there all the same. -/
structure AuditFault where
  failure : Failure
  stored : Bool

/-- A system, with the number of audit events it has been asked to save. -/
structure Audited (W : Type) where
  system : System W
  audits : ℕ := 0

variable {W : Type}

/-- The calls as served, except that saving the audit events fails where the pattern says so. -/
def auditing (env : Environment W) (fails : ℕ → Option AuditFault) :
    Handler services Exn (Audited W) where
  handle c s :=
    match c with
    | .storage (.saveAutopilotEvent event) =>
      let out := s.system.store.saveAutopilotEvent event
      match fails s.audits with
      | none => (.ok out.1, ⟨{ s.system with store := out.2 }, s.audits + 1⟩)
      | some fault =>
        (.error fault.failure,
          ⟨{ s.system with store := if fault.stored then out.2 else s.system.store }, s.audits + 1⟩)
    | c =>
      let out := (serving env).handle c s.system
      (out.1, { s with system := out.2 })

/-- The calls on the table of audit events. -/
def Auditing : Call → Prop
  | .storage (.saveAutopilotEvent _) | .storage (.listAutopilotEvents _ _) => True
  | _ => False

instance : DecidablePred Auditing
  | .storage (.saveAutopilotEvent _) | .storage (.listAutopilotEvents _ _) => isTrue trivial
  | .storage (.saveRun _) | .storage (.listRuns _ _) | .storage (.saveTunedConfig _)
  | .storage (.getTunedConfig _) | .storage (.lockConfig _) | .adapterName | .isAvailable
  | .adapterRun _ _ _ | .scanHardware | .now | .sleep _ | .measured _ | .yielded _ => isFalse id

/-- The replies that the engine swallows: anything but an interrupt. -/
def Swallowed (c : Call) (r : Except Exn c.Reply) : Prop :=
  ∀ e, r = .error e → ∃ message, e.caught = some message

/-- Equal but for the audit events. -/
structure Alike (s t : Audited W) : Prop where
  world : s.system.world = t.system.world
  savedRuns : s.system.store.savedRuns = t.system.store.savedRuns
  tunedConfigs : s.system.store.tunedConfigs = t.system.store.tunedConfigs

section handlers
variable (env : Environment W) (fails fails' : ℕ → Option AuditFault)

lemma auditing_of_not_auditing {c : Call} (hc : ¬ Auditing c) (s : Audited W) :
    (auditing env fails).handle c s =
      (((serving env).handle c s.system).1, { s with system := ((serving env).handle c s.system).2 }) := by
  cases c with
  | storage op =>
    cases op with
    | saveAutopilotEvent event => exact absurd trivial hc
    | _ => rfl
  | _ => rfl

/-- A call off the audit table gets the same reply in both systems and leaves them alike. -/
lemma serving_alike {c : Call} (hc : ¬ Auditing c) {s t : Audited W} (hst : Alike s t) :
    ((serving env).handle c s.system).1 = ((serving env).handle c t.system).1 ∧
      Alike { s with system := ((serving env).handle c s.system).2 }
        { t with system := ((serving env).handle c t.system).2 } := by
  obtain ⟨⟨world, runs, configs, events⟩, audits⟩ := s
  obtain ⟨⟨world', runs', configs', events'⟩, audits'⟩ := t
  obtain ⟨hworld, hruns, hconfigs⟩ := hst
  dsimp only at hworld hruns hconfigs
  subst hworld hruns hconfigs
  cases c with
  | storage op =>
    cases op with
    | saveAutopilotEvent event => exact absurd trivial hc
    | listAutopilotEvents modelId limit => exact absurd trivial hc
    | _ => exact ⟨rfl, rfl, rfl, rfl⟩
  | _ => exact ⟨rfl, rfl, rfl, rfl⟩

/-- A call on the audit table changes nothing else, and is at worst swallowed. -/
lemma auditing_frame {c : Call} (hc : Auditing c) (s : Audited W) :
    Swallowed c ((auditing env fails).handle c s).1 ∧
      Alike ((auditing env fails).handle c s).2 s := by
  cases c with
  | storage op =>
    cases op with
    | saveAutopilotEvent event =>
      simp only [auditing]
      cases fails s.audits with
      | none =>
        refine ⟨fun e he => ?_, rfl, rfl, rfl⟩
        cases he
      | some fault =>
        obtain ⟨failure, stored⟩ := fault
        have hswallowed : Swallowed (.storage (.saveAutopilotEvent event)) (.error failure) := by
          intro e he
          cases he
          exact Option.isSome_iff_exists.mp failure.2
        cases stored with
        | false => exact ⟨hswallowed, rfl, rfl, rfl⟩
        | true => exact ⟨hswallowed, rfl, rfl, rfl⟩
    | listAutopilotEvents modelId limit =>
      refine ⟨fun e he => ?_, rfl, rfl, rfl⟩
      cases he
    | _ => cases hc
  | _ => cases hc

lemma Alike.trans {s t u : Audited W} (hst : Alike s t) (htu : Alike t u) : Alike s u :=
  ⟨hst.world.trans htu.world, hst.savedRuns.trans htu.savedRuns,
    hst.tunedConfigs.trans htu.tunedConfigs⟩

lemma Alike.symm {s t : Audited W} (hst : Alike s t) : Alike t s :=
  ⟨hst.world.symm, hst.savedRuns.symm, hst.tunedConfigs.symm⟩

end handlers

/-- What a program has to be for its runs not to depend on the audit log. -/
abbrev AuditBlind {α : Type} (p : Engine α) : Prop := Blind Auditing Swallowed p

/-- Two runs of a program that is blind to the audit log, under two patterns of failures. -/
lemma AuditBlind.two_runs {α : Type} {p : Engine α} (hp : AuditBlind p) (env : Environment W)
    (fails fails' : ℕ → Option AuditFault) {s t : Audited W} (hst : Alike s t) :
    let out := exec (auditing env fails) p s
    let out' := exec (auditing env fails') p t
    out.result = out'.result ∧ visible Auditing out.steps = visible Auditing out'.steps ∧
      Alike out.state out'.state := by
  refine Blind.two_runs Alike (fun c s t hc hst => ?_) (fun c s t hc hst => ?_) hp hst
  · rw [auditing_of_not_auditing env fails hc, auditing_of_not_auditing env fails' hc]
    exact serving_alike env hc hst
  · obtain ⟨hs, hsame⟩ := auditing_frame env fails hc s
    obtain ⟨ht, htame⟩ := auditing_frame env fails' hc t
    exact ⟨hs, ht, hsame.trans (hst.trans htame.symm)⟩

lemma logEvent_blind (modelId eventType : String) (details : List (String × Detail)) :
    AuditBlind (logEvent modelId eventType details) := by
  unfold logEvent
  apply blind_attempt trivial (blind_pure ())
  intro r hr
  cases r with
  | ok _ => rfl
  | error e =>
    obtain ⟨message, hcaught⟩ := hr e rfl
    simp only [hcaught]

lemma choose_blind (args : AutopilotArgs) (l : LoopState) : AuditBlind (choose args l) := by
  apply (choose_only args l).blind
  intro c hc
  rcases hc with hc | rfl | ⟨m, rfl⟩
  · cases c with
    | storage op => exact absurd rfl (hc.offStore op)
    | _ => exact id
  · exact id
  · exact id

lemma now_blind : AuditBlind now :=
  now_only.blind (fun c hc => by subst hc; exact id)

lemma saveTunedConfig_blind (config : TunedConfig) : AuditBlind (saveTunedConfig config) :=
  (saveTunedConfig_only config).blind (fun c hc => by subst hc; exact id)

lemma apply_blind (session : TuningSession) : AuditBlind (apply session) :=
  (saveTunedConfig_blind _).bind fun _ => (logEvent_blind _ _ _).bind fun _ => blind_pure _

lemma commit_blind (args : AutopilotArgs) (l : LoopState) (move : Move) :
    AuditBlind (commit args l move) := by
  cases move with
  | skip existing => exact (logEvent_blind _ _ _).bind fun _ => blind_pure _
  | revert probe target =>
    exact (saveTunedConfig_blind _).bind fun _ => now_blind.bind fun _ =>
      (logEvent_blind _ _ _).bind fun _ => blind_pure _
  | keep session => exact blind_pure _
  | withhold session => exact (logEvent_blind _ _ _).bind fun _ => blind_pure _
  | adopt session => exact (apply_blind session).bind fun _ => now_blind.bind fun _ => blind_pure _

lemma advance_blind (args : AutopilotArgs) (l : LoopState) : AuditBlind (advance args l) := by
  have hsleep : AuditBlind (sleep args.intervalSeconds) := by
    have honly : Only (fun c => c = Call.sleep args.intervalSeconds) (sleep args.intervalSeconds) :=
      only_perform (I := services) rfl
    exact honly.blind fun c hc => by subst hc; exact id
  unfold advance
  dsimp only
  split_ifs
  · exact hsleep.bind fun _ => blind_pure _
  · exact blind_pure _

lemma yieldSession_blind (session : TuningSession) : AuditBlind (yieldSession session) := by
  have honly : Only (fun c => c = Call.yielded session) (yieldSession session) :=
    only_perform (I := services) rfl
  exact honly.blind fun c hc => by subst hc; exact id

lemma autopilotLoop_blind (args : AutopilotArgs) (draws : ℕ) (l : LoopState) :
    AuditBlind (autopilotLoop args draws l) := by
  induction draws generalizing l with
  | zero => exact blind_pure _
  | succ draws ih =>
    unfold autopilotLoop
    split_ifs
    · rw [iterate_eq]
      refine ((choose_blind args l).bind (commit_blind args l)).bind fun out => ?_
      refine (yieldSession_blind out.1).bind fun _ => ?_
      split_ifs
      · exact blind_pure _
      · exact (advance_blind args out.2).bind fun next => ih next
    · exact blind_pure _

/-- Whichever audit events fail to be saved, the autopilot and `apply` yield the same sessions,
make the same calls outside the audit log with the same replies, and leave the same tables
but for the audit events. -/
theorem audit_failures_invisible (env : Environment W) (fails fails' : ℕ → Option AuditFault)
    (args : AutopilotArgs) (draws : ℕ) (session : TuningSession) (s : System W) :
    (let out := exec (auditing env fails) (autopilotLoop args draws (.start args)) ⟨s, 0⟩
      let out' := exec (auditing env fails') (autopilotLoop args draws (.start args)) ⟨s, 0⟩
      out.result = out'.result ∧ visible Auditing out.steps = visible Auditing out'.steps ∧
        Alike out.state out'.state) ∧
      (let out := exec (auditing env fails) (apply session) ⟨s, 0⟩
      let out' := exec (auditing env fails') (apply session) ⟨s, 0⟩
      out.result = out'.result ∧ visible Auditing out.steps = visible Auditing out'.steps ∧
        Alike out.state out'.state) :=
  ⟨(autopilotLoop_blind _ _ _).two_runs env fails fails' ⟨rfl, rfl, rfl⟩,
    (apply_blind _).two_runs env fails fails' ⟨rfl, rfl, rfl⟩⟩

end LlmMax.AuditInvisible
