import LlmMax.EffectProgram

/-! Runs that an exception from outside cuts short. A program that does not catch it stops at
once, in a state that the whole run passes through. -/
namespace LlmMax.EffectProgram

variable {I : Interface} {ε α β σ : Type}

/-- The program raises that exception again wherever a call raises it. -/
def Transparent (stop : ε) : Program I ε α → Prop
  | .ret _ => True
  | .raise _ => True
  | .call _ next => next (.error stop) = .raise stop ∧ ∀ r, Transparent stop (next r)

/-- The exception comes at the call that is counted down to, before the call or after it. -/
def interrupting (stop : ε) (late : Bool) (H : Handler I ε σ) : Handler I ε (σ × ℕ) where
  handle c s :=
    match s.2 with
    | 0 => (.error stop, (if late then (H.handle c s.1).2 else s.1, 0))
    | n + 1 => ((H.handle c s.1).1, ((H.handle c s.1).2, n))

/-- The states that a run passes through, the first one included. -/
def Outcome.passed (out : Outcome I ε α σ) : List σ := out.steps.map Step.before ++ [out.state]

/-- The step without the count. -/
def Step.forget (x : Step I ε (σ × ℕ)) : Step I ε σ := ⟨x.before.1, x.call, x.reply⟩

/-- The run makes the same steps up to the call of that number, and stops there. -/
structure CutAt (stop : ε) (late : Bool) (n : ℕ) (whole : Outcome I ε α σ)
    (out : Outcome I ε α (σ × ℕ)) : Prop where
  result : out.result = .error stop
  steps : ∃ x, whole.steps[n]? = some x ∧
    out.steps.map Step.forget = whole.steps.take n ++ [⟨x.before, x.call, .error stop⟩]
  state : whole.passed[if late then n + 1 else n]? = some out.state.1

/-- The run ends before the exception comes. -/
structure Uncut (n : ℕ) (whole : Outcome I ε α σ) (out : Outcome I ε α (σ × ℕ)) : Prop where
  before : whole.steps.length ≤ n
  result : out.result = whole.result
  steps : out.steps.map Step.forget = whole.steps
  state : out.state.1 = whole.state

section transparent
variable {stop : ε} {p : Program I ε α}

theorem transparent_pure (a : α) : Transparent stop (pure a : Program I ε α) := trivial

theorem transparent_raise (e : ε) : Transparent stop (.raise e : Program I ε α) := trivial

theorem transparent_lift (x : Except ε α) : Transparent stop (Program.lift x : Program I ε α) := by
  cases x <;> trivial

theorem transparent_perform (c : I.Call) :
    Transparent stop (Program.perform c : Program I ε (I.Reply c)) :=
  ⟨rfl, fun r => by cases r <;> trivial⟩

theorem transparent_attempt_bind {c : I.Call} {f : Except ε (I.Reply c) → Program I ε β}
    (hstop : f (.error stop) = .raise stop) (hf : ∀ r, Transparent stop (f r)) :
    Transparent stop (Program.attempt c >>= f) := ⟨hstop, hf⟩

theorem Transparent.bind {f : α → Program I ε β} (hp : Transparent stop p)
    (hf : ∀ a, Transparent stop (f a)) : Transparent stop (p >>= f) := by
  induction p with
  | ret a => exact hf a
  | raise e => trivial
  | call c next ih =>
    refine ⟨?_, fun r => ih r (hp.2 r)⟩
    change (next (.error stop)).bind f = .raise stop
    rw [hp.1]
    rfl

end transparent

section cut
variable {stop : ε} (H : Handler I ε σ) (late : Bool)

lemma passed_head (p : Program I ε α) (s : σ) : (exec H p s).passed[0]? = some s := by
  cases p <;> rfl

theorem exec_interrupting {p : Program I ε α} (hp : Transparent stop p) (s : σ) (n : ℕ) :
    let whole := exec H p s
    let out := exec (interrupting stop late H) p (s, n)
    CutAt stop late n whole out ∨ Uncut n whole out := by
  intro whole out
  induction p generalizing s n with
  | ret a => exact .inr ⟨Nat.zero_le n, rfl, rfl, rfl⟩
  | raise e => exact .inr ⟨Nat.zero_le n, rfl, rfl, rfl⟩
  | call c next ih =>
    cases n with
    | zero =>
      left
      have hout : out = ⟨.error stop, [⟨(s, 0), c, .error stop⟩],
          (if late then (H.handle c s).2 else s, 0)⟩ := by
        simp only [out, exec, interrupting, hp.1]
      have hpassed : whole.passed =
          s :: (exec H (next (H.handle c s).1) (H.handle c s).2).passed := rfl
      rw [hout]
      refine ⟨rfl, ⟨_, rfl, rfl⟩, ?_⟩
      rw [hpassed]
      cases late with
      | true => exact passed_head H _ _
      | false => rfl
    | succ n =>
      rcases ih (H.handle c s).1 (hp.2 _) (H.handle c s).2 n with hcut | huncut
      · left
        obtain ⟨x, hx, hsteps⟩ := hcut.steps
        refine ⟨hcut.result, ⟨x, hx, congrArg (List.cons _) hsteps⟩, ?_⟩
        have hstate := hcut.state
        cases late <;> exact hstate
      · right
        exact ⟨Nat.succ_le_succ huncut.before, huncut.result,
          congrArg (List.cons _) huncut.steps, huncut.state⟩

end cut

end LlmMax.EffectProgram
