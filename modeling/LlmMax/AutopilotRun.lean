import LlmMax.AutopilotPass
import LlmMax.History

/-! Whole runs of the autopilot generator, one record for each session it yields, and
the induction that carries an invariant from pass to pass. -/
namespace LlmMax.AutopilotRun
open Domain BenchMetrics AutotuneState Storage EffectProgram Services History
open AutotuneEngine AutotuneSpec AutopilotPass

/-- One yield: the state and the loop variables when its pass began, the calls of the
pass, and the state and the variables when the consumer receives the session. -/
structure Yield (W : Type) where
  before : System W
  loop : LoopState
  steps : Trace W
  session : TuningSession
  after : System W
  loopAfter : LoopState

variable {W : Type} (env : Environment W) (args : AutopilotArgs)

/-- The yields of a run in which the consumer draws at most the given number of sessions. -/
def yields : ℕ → LoopState → System W → List (Yield W)
  | 0, _, _ => []
  | draws + 1, l, s =>
    if args.continues l.iteration then
      let pass := exec (serving env) (iterate args l) s
      match pass.result with
      | .error _ => []
      | .ok (session, l') =>
        ⟨s, l, pass.steps, session, pass.state, l'⟩ ::
          if session.outcome = .locked then []
          else
            let pause := exec (serving env) (advance args l') pass.state
            match pause.result with
            | .error _ => []
            | .ok next => yields draws next pause.state
    else []

/-- The run of a generator from its call on. -/
abbrev run (draws : ℕ) (s : System W) : List (Yield W) := yields env args draws (.start args) s

/-- The yield of a pass, unless it raises. -/
def passYield (l : LoopState) (s : System W) : Option (Yield W) :=
  let pass := exec (serving env) (iterate args l) s
  match pass.result with
  | .error _ => none
  | .ok (session, l') => some ⟨s, l, pass.steps, session, pass.state, l'⟩

/-- Where the passes of a run begin, with the one that raises. -/
def passes : ℕ → LoopState → System W → List (LoopState × System W)
  | 0, _, _ => []
  | draws + 1, l, s =>
    if args.continues l.iteration then
      (l, s) :: match passYield env args l s with
        | none => []
        | some y =>
          if y.session.outcome = .locked then []
          else
            let pause := exec (serving env) (advance args y.loopAfter) y.after
            match pause.result with
            | .error _ => []
            | .ok next => passes draws next pause.state
    else []

/-- The sessions handed to the consumer in a trace, each with the state at its yield. -/
def handovers (t : Trace W) : List (System W × TuningSession) :=
  t.filterMap fun x => match x.call with
    | .yielded session => some (x.before, session)
    | _ => none

def IsPass (y : Yield W) : Prop :=
  ∃ move t₁ t₂, Pass args y.loop y.before y.steps y.session y.loopAfter y.after move t₁ t₂

variable {env args}

@[simp] lemma handovers_append (t u : Trace W) : handovers (t ++ u) = handovers t ++ handovers u :=
  List.filterMap_append

@[simp] lemma handovers_yielded (s : System W) (session : TuningSession)
    (reply : Except Exn Unit) (t : Trace W) :
    handovers (⟨s, .yielded session, reply⟩ :: t) = (s, session) :: handovers t := rfl

lemma handovers_eq_nil {allowed : Call → Prop} {t : Trace W} (h : ∀ x ∈ t, allowed x.call)
    (hallowed : ∀ session, ¬ allowed (.yielded session)) : handovers t = [] := by
  apply List.filterMap_eq_nil_iff.mpr
  intro x hx
  have hc := h x hx
  split
  · rename_i hcall
    rw [hcall] at hc
    exact absurd hc (hallowed _)
  · rfl

/-- The calls of the body up to its yield. -/
def Iterating (c : Call) : Prop := Choosing c ∨ Committing c

lemma iterate_only (l : LoopState) : Only Iterating (iterate args l) := by
  rw [iterate_eq]
  have hchoose : Only Iterating (choose args l) := (choose_only args l).mono fun _ => .inl
  have hcommit (move : Move) : Only Iterating (commit args l move) :=
    (commit_only args l move).mono fun _ => .inr
  exact hchoose.bind hcommit

lemma iterate_handovers (l : LoopState) (s : System W) :
    handovers (exec (serving env) (iterate args l) s).steps = [] :=
  handovers_eq_nil (iterate_only l).steps (by simp [Iterating, Choosing, Committing, Measuring])

/-- The calls after the yield. -/
def Pausing (c : Call) : Prop := ∃ seconds, c = .sleep seconds

lemma advance_only (l : LoopState) : Only Pausing (advance args l) := by
  unfold advance
  dsimp only
  split_ifs
  · have hsleep : Only Pausing (sleep args.intervalSeconds) :=
      only_perform (I := services) ⟨_, rfl⟩
    exact hsleep.bind fun _ => only_pure _
  · exact only_pure _

lemma advance_handovers (l : LoopState) (s : System W) :
    handovers (exec (serving env) (advance args l) s).steps = [] :=
  handovers_eq_nil (advance_only l).steps (by simp [Pausing])

lemma advance_store (l : LoopState) (s : System W) :
    (exec (serving env) (advance args l) s).state.store = s.store :=
  ((advance_only l).frame System.store fun c s hc => serving_offStore env c s (by
    obtain ⟨seconds, rfl⟩ := hc
    intro op h
    cases h)).2

lemma advance_ensures {σ : Type} {H : Handler services Exn σ} (l : LoopState) (s : σ) :
    Ensures H (advance args l) s fun r _ _ =>
      ∀ next, r = .ok next → next = { l with iteration := l.iteration + 1 } := by
  unfold advance
  dsimp only
  split_ifs
  · refine (ensures_perform (Q := fun _ _ _ => True) trivial).bind_ok ?_
    exact fun _ t s' _ => ensures_ok rfl
  · exact ensures_ok rfl

/-- The records of a run are what the generator hands to its consumer. -/
theorem autopilotLoop_handovers (draws : ℕ) (l : LoopState) (s : System W) :
    handovers (exec (serving env) (autopilotLoop args draws l) s).steps =
      (yields env args draws l s).map fun y => (y.after, y.session) := by
  induction draws generalizing l s with
  | zero => rfl
  | succ draws ih =>
    unfold autopilotLoop yields
    split_ifs with hc
    · rw [exec_bind]
      have hs : handovers (exec (serving env) (iterate args l) s).steps = [] :=
        iterate_handovers l s
      cases hr : (exec (serving env) (iterate args l) s).result with
      | error e => simpa [hr] using hs
      | ok out =>
        obtain ⟨session, l'⟩ := out
        have hyield : exec (serving env) (yieldSession session)
            (exec (serving env) (iterate args l) s).state =
            ⟨.ok (), [⟨(exec (serving env) (iterate args l) s).state, .yielded session, .ok ()⟩],
              (exec (serving env) (iterate args l) s).state⟩ := rfl
        simp only [hr, exec_bind, hyield, handovers_append, hs, handovers_yielded, List.nil_append,
          List.map_cons, List.cons_append, List.cons.injEq, true_and]
        split_ifs with hl
        · rfl
        · have ha : handovers (exec (serving env) (advance args l')
              (exec (serving env) (iterate args l) s).state).steps = [] := advance_handovers l' _
          rw [exec_bind]
          cases hn : (exec (serving env) (advance args l')
              (exec (serving env) (iterate args l) s).state).result with
          | error e => simpa [hn] using ha
          | ok next => simp [ha, ih]
    · rfl

lemma start_mem_passes (h : args.continues 0) (draws : ℕ) (s : System W) :
    (.start args, s) ∈ passes env args (draws + 1) (.start args) s := by
  unfold passes
  rw [if_pos (show args.continues (LoopState.start args).iteration from h)]
  exact List.mem_cons_self ..

/-- The induction over the yields of a run, from the last one back: each pass ends as it does,
the rest of the run goes on from its store and its loop variables, and a lock has no rest. -/
theorem yields_rec {P : LoopState → System W → List (Yield W) → Prop} (nil : ∀ l s, P l s [])
    (cons : ∀ (y : Yield W) (s : System W) (ys : List (Yield W)),
      exec (serving env) (iterate args y.loop) y.before = ⟨.ok (y.session, y.loopAfter), y.steps, y.after⟩ →
      s.store = y.after.store → (y.session.outcome = .locked → ys = []) →
      P { y.loopAfter with iteration := y.loopAfter.iteration + 1 } s ys → P y.loop y.before (y :: ys))
    (draws : ℕ) (l : LoopState) (s : System W) : P l s (yields env args draws l s) := by
  induction draws generalizing l s with
  | zero => exact nil l s
  | succ draws ih =>
    unfold yields
    split_ifs with hc
    · dsimp only
      cases hr : (exec (serving env) (iterate args l) s).result with
      | error e => exact nil l s
      | ok out =>
        obtain ⟨session, l'⟩ := out
        let y : Yield W := ⟨s, l, (exec (serving env) (iterate args l) s).steps, session,
          (exec (serving env) (iterate args l) s).state, l'⟩
        have hpass : exec (serving env) (iterate args y.loop) y.before =
            ⟨.ok (y.session, y.loopAfter), y.steps, y.after⟩ := by
          rw [← hr]
        dsimp only
        split_ifs with hl
        · exact cons y y.after [] hpass rfl (fun _ => rfl) (nil _ _)
        · cases hn : (exec (serving env) (advance args l')
              (exec (serving env) (iterate args l) s).state).result with
          | error e => exact cons y y.after [] hpass rfl (fun _ => rfl) (nil _ _)
          | ok l'' =>
            obtain rfl : l'' = { l' with iteration := l'.iteration + 1 } := advance_ensures l' _ l'' hn
            exact cons y _ _ hpass (advance_store l' _) (fun hlocked => absurd hlocked hl) (ih _ _)
    · exact nil l s

lemma isPass_of_exec {y : Yield W} (h : exec (serving env) (iterate args y.loop) y.before =
    ⟨.ok (y.session, y.loopAfter), y.steps, y.after⟩) : IsPass args y := by
  let pass := exec (serving env) (iterate args y.loop) y.before
  have hpass : IsPass args ⟨y.before, y.loop, pass.steps, y.session, pass.state, y.loopAfter⟩ :=
    iterate_pass args y.loop y.before y.session y.loopAfter (by rw [h])
  have hsteps : pass.steps = y.steps := by simp only [pass, h]
  have hstate : pass.state = y.after := by simp only [pass, h]
  rw [hsteps, hstate] at hpass
  exact hpass

/-- The induction over a run. `Inv` speaks about the earlier yields, the loop variables
and the state at the start of a pass; `P` about a yield after the earlier ones. -/
theorem yields_each (Inv : List (Yield W) → LoopState → System W → Prop)
    {P : List (Yield W) → Yield W → Prop}
    (pass : ∀ earlier (y : Yield W), Inv earlier y.loop y.before → IsPass args y → P earlier y)
    (next : ∀ earlier (y : Yield W) (s : System W), Inv earlier y.loop y.before → IsPass args y →
      y.session.outcome ≠ .locked → s.store = y.after.store →
      Inv (earlier ++ [y]) { y.loopAfter with iteration := y.loopAfter.iteration + 1 } s)
    {draws : ℕ} {earlier : List (Yield W)} {l : LoopState} {s : System W} (h : Inv earlier l s) :
    Each P earlier (yields env args draws l s) := by
  revert earlier
  refine yields_rec (P := fun l s ys => ∀ {earlier}, Inv earlier l s → Each P earlier ys) ?_ ?_ draws l s
  · intro l s earlier _
    trivial
  · intro y s' rest hexec hstore hrest ih earlier hinv
    have hpass : IsPass args y := isPass_of_exec hexec
    refine ⟨pass earlier y hinv hpass, ?_⟩
    by_cases hlocked : y.session.outcome = .locked
    · rw [hrest hlocked]
      trivial
    · exact ih (next earlier y s' hinv hpass hlocked hstore)

/-- The induction over a run for properties of single yields. -/
theorem yields_forall (Inv : LoopState → System W → Prop) {P : Yield W → Prop}
    (pass : ∀ y : Yield W, Inv y.loop y.before → IsPass args y → P y)
    (next : ∀ (y : Yield W) (s : System W), Inv y.loop y.before → IsPass args y →
      y.session.outcome ≠ .locked → s.store = y.after.store →
      Inv { y.loopAfter with iteration := y.loopAfter.iteration + 1 } s)
    {draws : ℕ} {l : LoopState} {s : System W} (h : Inv l s) :
    ∀ y ∈ yields env args draws l s, P y := by
  intro y hy
  obtain ⟨pre, post, hsplit⟩ := List.append_of_mem hy
  have heach : Each (fun _ => P) [] (yields env args draws l s) :=
    yields_each (fun _ => Inv) (fun _ => pass) (fun _ => next) h
  exact each_iff.mp heach pre y post hsplit

/-- How a yield continues the run: its pass starts from the store and the history that
the previous one left, and nothing is lost in between. -/
structure Follows (args : AutopilotArgs) (s : System W) (earlier : List (Yield W))
    (y : Yield W) : Prop where
  pass : IsPass args y
  store : y.before.store = (earlier.getLast?.map fun e => e.after.store).getD s.store
  history : y.loop.history =
    (earlier.getLast?.map fun e => e.loopAfter.history).getD args.initialHistory

theorem run_follows (draws : ℕ) (s : System W) :
    Each (Follows args s) [] (run env args draws s) := by
  refine yields_each (fun earlier l s' =>
    s'.store = (earlier.getLast?.map fun e => e.after.store).getD s.store ∧
      l.history = (earlier.getLast?.map fun e => e.loopAfter.history).getD args.initialHistory)
    ?_ ?_ ⟨rfl, rfl⟩
  · exact fun earlier y hinv hpass => ⟨hpass, hinv.1, hinv.2⟩
  · intro earlier y s' _ _ _ hs'
    simp [hs']

/-- The calls of the loop outside its passes. -/
def Between : Call → Prop
  | .yielded _ | .sleep _ => True
  | _ => False

lemma advance_between (l : LoopState) : Only Between (advance args l) :=
  (advance_only l).mono fun c hc => by
    obtain ⟨seconds, rfl⟩ := hc
    trivial

/-- The induction over the single steps of a run, with those of a pass that raises. -/
theorem autopilotLoop_each {P : Trace W → Step services Exn (System W) → Prop}
    (Inv : Trace W → LoopState → System W → Prop)
    (pass : ∀ past l s, Inv past l s → Ensures (serving env) (iterate args l) s fun r t s' =>
      Each P past t ∧ ∀ session l', r = .ok (session, l') → Inv (past ++ t) l' s')
    (between : ∀ past x, Between x.call → P past x)
    (next : ∀ past l s t s', Inv past l s → (∀ x ∈ t, Between x.call) → s'.store = s.store →
      Inv (past ++ t) { l with iteration := l.iteration + 1 } s')
    {draws : ℕ} {past : Trace W} {l : LoopState} {s : System W} (h : Inv past l s) :
    Ensures (serving env) (autopilotLoop args draws l) s fun _ t _ => Each P past t := by
  induction draws generalizing past l s with
  | zero => exact ensures_pure trivial
  | succ draws ih =>
    unfold autopilotLoop
    split_ifs with hc
    · refine (pass past l s h).bind ?_ (fun e t s' ht => ht.1)
      rintro ⟨session, l'⟩ t₁ s₁ ⟨hp₁, hinv₁⟩
      have hinv := hinv₁ session l' rfl
      refine (ensures_perform (I := services) (c := .yielded session)
        (Q := fun _ u s' => (∀ x ∈ u, Between x.call) ∧ s'.store = s₁.store)
        ⟨fun x hx => by rw [List.mem_singleton.mp hx]; trivial, rfl⟩).bind ?_ ?_
      · intro _ t₂ s₂ hpost
        obtain ⟨ht₂, hs₂⟩ := hpost
        have hp₂ : Each P (past ++ t₁) t₂ := each_of_forall fun past' x hx => between _ x (ht₂ x hx)
        split_ifs with hl
        · exact ensures_pure ((each_append _ _ _).mpr ⟨hp₁, by simpa using hp₂⟩)
        · refine ((advance_ensures l' s₂).and
            (R := fun _ u s' => (∀ x ∈ u, Between x.call) ∧ s'.store = s₂.store)
            ⟨(advance_between l').steps, advance_store l' s₂⟩).bind ?_ ?_
          · intro l'' t₃ s₃ hpost
            obtain ⟨hl'', ht₃, hs₃⟩ := hpost
            have hp₃ : Each P (past ++ t₁ ++ t₂) t₃ :=
              each_of_forall fun past' x hx => between _ x (ht₃ x hx)
            obtain rfl := hl'' l'' rfl
            have hinv₃ := next _ l' s₁ (t₂ ++ t₃) s₃ hinv (fun x hx => by
              rcases List.mem_append.mp hx with hx | hx
              · exact ht₂ x hx
              · exact ht₃ x hx) (hs₃.trans hs₂)
            refine (ih hinv₃).mono fun r t₄ s₄ hp₄ => ?_
            simp only [each_append, List.append_assoc] at hp₂ hp₃ hp₄ ⊢
            exact ⟨hp₁, hp₂, hp₃, hp₄⟩
          · intro e t₃ s₃ hpost
            obtain ⟨-, ht₃, -⟩ := hpost
            have hp₃ : Each P (past ++ t₁ ++ t₂) t₃ :=
              each_of_forall fun past' x hx => between _ x (ht₃ x hx)
            simp only [each_append, List.append_assoc] at hp₂ hp₃ ⊢
            exact ⟨hp₁, hp₂, hp₃⟩
      · intro e t₂ s₂ hpost
        obtain ⟨ht₂, -⟩ := hpost
        exact (each_append _ _ _).mpr ⟨hp₁, each_of_forall fun past' x hx => between _ x (ht₂ x hx)⟩
    · exact ensures_pure trivial

end LlmMax.AutopilotRun
