import LlmMax.EffectProgram

/-! Two programs run side by side, whose calls and replies go together. What relates the values
that they return then relates the ends of the two runs. -/
namespace LlmMax.EffectCouplings
open EffectProgram

variable {I : Interface} {ε α β α' β' σ τ : Type}

/-- Which calls of the two programs go together, and which replies to them. -/
structure Coupling (I : Interface) (ε : Type) where
  pair : I.Call → I.Call → Prop
  replies : (c c' : I.Call) → Except ε (I.Reply c) → Except ε (I.Reply c') → Prop

/-- The programs make paired calls for as long as they get replies that go together, and return
related values or raise the same exception. -/
inductive Coupled (K : Coupling I ε) (Q : α → β → Prop) : Program I ε α → Program I ε β → Prop
  | ret {a : α} {b : β} (h : Q a b) : Coupled K Q (.ret a) (.ret b)
  | raise (e : ε) : Coupled K Q (.raise e) (.raise e)
  | call {c c' : I.Call} {next : Except ε (I.Reply c) → Program I ε α}
      {next' : Except ε (I.Reply c') → Program I ε β} (hpair : K.pair c c')
      (h : ∀ r r', K.replies c c' r r' → Coupled K Q (next r) (next' r')) :
    Coupled K Q (.call c next) (.call c' next')

/-- Related values, or the same exception. -/
inductive Alike (Q : α → β → Prop) : Except ε α → Except ε β → Prop
  | ok {a : α} {b : β} (h : Q a b) : Alike Q (.ok a) (.ok b)
  | error (e : ε) : Alike Q (.error e) (.error e)

lemma Alike.eq {x y : Except ε α} (h : Alike Eq x y) : x = y := by
  cases h with
  | ok h => exact congrArg Except.ok h
  | error e => rfl

section rules
variable {K : Coupling I ε} {Q : α → β → Prop} {p : Program I ε α} {p' : Program I ε β}

theorem coupled_pure {a : α} {b : β} (h : Q a b) :
    Coupled K Q (pure a : Program I ε α) (pure b) := .ret h

theorem coupled_lift {x : Except ε α} {y : Except ε β} (h : Alike Q x y) :
    Coupled K Q (Program.lift x) (Program.lift y) := by
  cases h with
  | ok h => exact .ret h
  | error e => exact .raise e

theorem Coupled.mono {R : α → β → Prop} (hp : Coupled K Q p p') (h : ∀ a b, Q a b → R a b) :
    Coupled K R p p' := by
  induction hp with
  | ret hq => exact .ret (h _ _ hq)
  | raise e => exact .raise e
  | call hpair _ ih => exact .call hpair ih

theorem Coupled.bind {R : α' → β' → Prop} {f : α → Program I ε α'} {g : β → Program I ε β'}
    (hp : Coupled K Q p p') (h : ∀ a b, Q a b → Coupled K R (f a) (g b)) :
    Coupled K R (p >>= f) (p' >>= g) := by
  induction hp with
  | ret hq => exact h _ _ hq
  | raise e => exact .raise e
  | call hpair _ ih => exact .call hpair ih

/-- Calls whose replies are taken as they are. -/
theorem coupled_attempt {c c' : I.Call} {f : Except ε (I.Reply c) → Program I ε α}
    {g : Except ε (I.Reply c') → Program I ε β} (hpair : K.pair c c')
    (h : ∀ r r', K.replies c c' r r' → Coupled K Q (f r) (g r')) :
    Coupled K Q (Program.attempt c >>= f) (Program.attempt c' >>= g) := .call hpair h

theorem coupled_perform {c c' : I.Call} {Q : I.Reply c → I.Reply c' → Prop} (hpair : K.pair c c')
    (h : ∀ r r', K.replies c c' r r' → Alike Q r r') :
    Coupled K Q (Program.perform c) (Program.perform c') := by
  refine .call hpair fun r r' hr => ?_
  cases h r r' hr with
  | ok hq => exact .ret hq
  | error e => exact .raise e

/-- A program beside itself, whose calls get the same replies. -/
theorem coupled_of_only {allowed : I.Call → Prop} {p : Program I ε α} (hp : Only allowed p)
    (h : ∀ c, allowed c → K.pair c c ∧ ∀ r r', K.replies c c r r' → r = r') :
    Coupled K Eq p p := by
  induction p with
  | ret a => exact .ret rfl
  | raise e => exact .raise e
  | call c next ih =>
    obtain ⟨hpair, hreplies⟩ := h c hp.1
    refine .call hpair fun r r' hr => ?_
    obtain rfl := hreplies r r' hr
    exact ih r (hp.2 r)

end rules

/-- What two runs side by side come to. -/
structure SideBySide (K : Coupling I ε) (Q : α → β → Prop) (S : σ → τ → Prop)
    (out : Outcome I ε α σ) (out' : Outcome I ε β τ) : Prop where
  result : Alike Q out.result out'.result
  steps : List.Forall₂ (fun x y => K.pair x.call y.call) out.steps out'.steps
  state : S out.state out'.state

/-- Handlers that answer paired calls with replies that go together. -/
theorem Coupled.two_runs {K : Coupling I ε} {Q : α → β → Prop} {p : Program I ε α}
    {p' : Program I ε β} {H : Handler I ε σ} {H' : Handler I ε τ} {S : σ → τ → Prop}
    (hH : ∀ c c' s t, K.pair c c' → S s t →
      K.replies c c' (H.handle c s).1 (H'.handle c' t).1 ∧ S (H.handle c s).2 (H'.handle c' t).2)
    (hp : Coupled K Q p p') {s : σ} {t : τ} (hst : S s t) :
    SideBySide K Q S (exec H p s) (exec H' p' t) := by
  induction hp generalizing s t with
  | ret h => exact ⟨.ok h, .nil, hst⟩
  | raise e => exact ⟨.error e, .nil, hst⟩
  | call hpair _ ih =>
    obtain ⟨hreplies, hrest⟩ := hH _ _ s t hpair hst
    obtain ⟨hresult, hsteps, hstate⟩ := ih _ _ hreplies hrest
    exact ⟨hresult, .cons hpair hsteps, hstate⟩

end LlmMax.EffectCouplings
