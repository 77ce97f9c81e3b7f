import Mathlib.Data.List.Basic
import Mathlib.Tactic

/-! Programs over an interface of calls. A program is a tree: each call branches
on its reply, which may be an exception the program can catch. Nothing is known
about the callee until a handler gives the calls a meaning. -/
namespace LlmMax.EffectProgram

/-- The calls a program can make, each with the type of its reply. -/
structure Interface where
  Call : Type
  Reply : Call → Type

inductive Program (I : Interface) (ε α : Type)
  | ret (a : α)
  | raise (e : ε)
  | call (c : I.Call) (next : Except ε (I.Reply c) → Program I ε α)

/-- The meaning of the calls: each is one atomic step on the state. -/
structure Handler (I : Interface) (ε σ : Type) where
  handle : (c : I.Call) → σ → Except ε (I.Reply c) × σ

/-- One call as it happened, with the state it was made in. -/
structure Step (I : Interface) (ε σ : Type) where
  before : σ
  call : I.Call
  reply : Except ε (I.Reply call)

/-- What executing a program leaves behind: the value or the exception it ends
with, the calls it made in order, and the final state. -/
structure Outcome (I : Interface) (ε α σ : Type) where
  result : Except ε α
  steps : List (Step I ε σ)
  state : σ

variable {I : Interface} {ε α β σ : Type}

namespace Program

def bind : Program I ε α → (α → Program I ε β) → Program I ε β
  | .ret a, f => f a
  | .raise e, _ => .raise e
  | .call c next, f => .call c fun r => (next r).bind f

/-- Make one call and return its reply; an exceptional reply is raised. -/
def perform (c : I.Call) : Program I ε (I.Reply c) :=
  .call c fun
    | .ok r => .ret r
    | .error e => .raise e

/-- Make one call and return its reply as it is, so that the program can catch an exception. -/
def attempt (c : I.Call) : Program I ε (Except ε (I.Reply c)) := .call c .ret

/-- The outcome of a pure computation that may raise. -/
def lift : Except ε α → Program I ε α
  | .ok a => .ret a
  | .error e => .raise e

instance : Monad (Program I ε) where
  pure := .ret
  bind := bind

theorem bind_assoc {γ : Type} (p : Program I ε α) (f : α → Program I ε β)
    (g : β → Program I ε γ) : p >>= f >>= g = p >>= fun a => f a >>= g := by
  induction p with
  | ret a => rfl
  | raise e => rfl
  | call c next ih => exact congrArg (Program.call c) (funext fun r => ih r)

end Program

/-- Run a program from a state, one handled call after the other. -/
def exec (H : Handler I ε σ) : Program I ε α → σ → Outcome I ε α σ
  | .ret a, s => ⟨.ok a, [], s⟩
  | .raise e, s => ⟨.error e, [], s⟩
  | .call c next, s =>
    let out := H.handle c s
    let rest := exec H (next out.1) out.2
    ⟨rest.result, ⟨s, c, out.1⟩ :: rest.steps, rest.state⟩

@[simp] theorem exec_pure (H : Handler I ε σ) (a : α) (s : σ) :
    exec H (pure a) s = ⟨.ok a, [], s⟩ := rfl

theorem exec_perform_ok {H : Handler I ε σ} {c : I.Call} {s s' : σ} {r : I.Reply c}
    (h : H.handle c s = (.ok r, s')) :
    exec H (Program.perform c) s = ⟨.ok r, [⟨s, c, .ok r⟩], s'⟩ := by
  simp only [Program.perform, exec, h]

/-- What holds of every handled call holds of every step of every program. -/
theorem exec_steps (H : Handler I ε σ) {Q : Step I ε σ → Prop}
    (h : ∀ s c, Q ⟨s, c, (H.handle c s).1⟩) (p : Program I ε α) (s : σ) :
    ∀ x ∈ (exec H p s).steps, Q x := by
  induction p generalizing s with
  | ret a => intro x hx; cases hx
  | raise e => intro x hx; cases hx
  | call c next ih =>
    intro x hx
    rcases List.mem_cons.mp hx with rfl | hx
    · exact h s c
    · exact ih _ _ x hx

/-- Execution of a sequence: the second part starts where the first one ended. -/
theorem exec_bind (H : Handler I ε σ) (p : Program I ε α) (f : α → Program I ε β) (s : σ) :
    exec H (p >>= f) s = match (exec H p s).result with
      | .ok a =>
        let rest := exec H (f a) (exec H p s).state
        ⟨rest.result, (exec H p s).steps ++ rest.steps, rest.state⟩
      | .error e => ⟨.error e, (exec H p s).steps, (exec H p s).state⟩ := by
  induction p generalizing s with
  | ret a => rfl
  | raise e => rfl
  | call c next ih =>
    change exec H (.call c fun r => next r >>= f) s = _
    simp only [exec, ih]
    cases (exec H (next (H.handle c s).1) (H.handle c s).2).result <;> rfl

theorem exec_bind_ok {H : Handler I ε σ} {p : Program I ε α} {s : σ} {a : α}
    (h : (exec H p s).result = .ok a) (f : α → Program I ε β) :
    exec H (p >>= f) s = ⟨(exec H (f a) (exec H p s).state).result,
      (exec H p s).steps ++ (exec H (f a) (exec H p s).state).steps,
      (exec H (f a) (exec H p s).state).state⟩ := by
  rw [exec_bind, h]

theorem exec_bind_error {H : Handler I ε σ} {p : Program I ε α} {s : σ} {e : ε}
    (h : (exec H p s).result = .error e) (f : α → Program I ε β) :
    exec H (p >>= f) s = ⟨.error e, (exec H p s).steps, (exec H p s).state⟩ := by
  rw [exec_bind, h]

/-- The result and the final state, when the first part is known up to its steps. -/
theorem exec_bind_state {H : Handler I ε σ} {p : Program I ε α} {s s' : σ} {a : α}
    (h : (exec H p s).result = .ok a ∧ (exec H p s).state = s') (f : α → Program I ε β) :
    (exec H (p >>= f) s).result = (exec H (f a) s').result ∧
      (exec H (p >>= f) s).state = (exec H (f a) s').state := by
  obtain ⟨hr, rfl⟩ := h
  rw [exec_bind_ok hr]
  exact ⟨rfl, rfl⟩

/-- Two continuations that run alike after what the first part returns. -/
theorem exec_bind_congr {H : Handler I ε σ} {p : Program I ε α} {f g : α → Program I ε β} {s : σ}
    (h : ∀ a, (exec H p s).result = .ok a →
      exec H (f a) (exec H p s).state = exec H (g a) (exec H p s).state) :
    exec H (p >>= f) s = exec H (p >>= g) s := by
  cases hr : (exec H p s).result with
  | ok a => rw [exec_bind_ok hr, exec_bind_ok hr, h a hr]
  | error e => rw [exec_bind_error hr, exec_bind_error hr]

/-- A call whose reply the program takes as it is. -/
theorem exec_attempt_bind (H : Handler I ε σ) (c : I.Call)
    (f : Except ε (I.Reply c) → Program I ε β) (s : σ) :
    (exec H (Program.attempt c >>= f) s).result =
      (exec H (f (H.handle c s).1) (H.handle c s).2).result := rfl

/-- Another value changes neither the steps nor the final state. -/
theorem exec_bind_pure (H : Handler I ε σ) (p : Program I ε α) (f : α → β) (s : σ) :
    (exec H (p >>= fun a => pure (f a)) s).steps = (exec H p s).steps ∧
      (exec H (p >>= fun a => pure (f a)) s).state = (exec H p s).state := by
  cases hr : (exec H p s).result with
  | ok a => simp [exec_bind_ok hr]
  | error e => simp [exec_bind_error hr]

theorem exec_discard (H : Handler I ε σ) (p : Program I ε α) (s : σ) :
    (exec H (p >>= fun _ => pure ()) s).steps = (exec H p s).steps ∧
      (exec H (p >>= fun _ => pure ()) s).state = (exec H p s).state :=
  exec_bind_pure H p (fun _ => ()) s

/-- The steps of the first part come first. -/
theorem exec_bind_isPrefix (H : Handler I ε σ) (p : Program I ε α) (f : α → Program I ε β) (s : σ) :
    (exec H p s).steps <+: (exec H (p >>= f) s).steps := by
  cases h : (exec H p s).result with
  | ok a => rw [exec_bind_ok h]; exact List.prefix_append _ _
  | error e => rw [exec_bind_error h]

/-- `Q` holds of the result, the steps and the final state of running `p` from `s`. -/
def Ensures (H : Handler I ε σ) (p : Program I ε α) (s : σ)
    (Q : Except ε α → List (Step I ε σ) → σ → Prop) : Prop :=
  Q (exec H p s).result (exec H p s).steps (exec H p s).state

section rules
variable {H : Handler I ε σ} {s : σ} {p : Program I ε α} {f : α → Program I ε β}

theorem Ensures.mono {Q R : Except ε α → List (Step I ε σ) → σ → Prop}
    (h : Ensures H p s R) (hRQ : ∀ r t s', R r t s' → Q r t s') : Ensures H p s Q :=
  hRQ _ _ _ h

theorem Ensures.and {Q R : Except ε α → List (Step I ε σ) → σ → Prop}
    (hQ : Ensures H p s Q) (hR : Ensures H p s R) :
    Ensures H p s (fun r t s' => Q r t s' ∧ R r t s') := ⟨hQ, hR⟩

theorem ensures_pure {a : α} {Q : Except ε α → List (Step I ε σ) → σ → Prop}
    (h : Q (.ok a) [] s) : Ensures H (pure a) s Q := h

/-- Returning a value, for a property of whatever value is returned. -/
theorem ensures_ok {a : α} {Q : α → List (Step I ε σ) → σ → Prop} (h : Q a [] s) :
    Ensures H (pure a) s fun r t s' => ∀ b, r = .ok b → Q b t s' := by
  intro b hb
  cases hb
  exact h

theorem ensures_raise {e : ε} {Q : Except ε α → List (Step I ε σ) → σ → Prop}
    (h : Q (.error e) [] s) : Ensures H (.raise e) s Q := h

theorem ensures_lift {x : Except ε α} {Q : Except ε α → List (Step I ε σ) → σ → Prop}
    (h : Q x [] s) : Ensures H (Program.lift x) s Q := by
  cases x with
  | ok a => exact h
  | error e => exact h

theorem ensures_call {c : I.Call} {next : Except ε (I.Reply c) → Program I ε α}
    {Q : Except ε α → List (Step I ε σ) → σ → Prop}
    (h : Ensures H (next (H.handle c s).1) (H.handle c s).2
      fun r t s' => Q r (⟨s, c, (H.handle c s).1⟩ :: t) s') :
    Ensures H (.call c next) s Q := h

theorem ensures_perform {c : I.Call} {Q : Except ε (I.Reply c) → List (Step I ε σ) → σ → Prop}
    (h : Q (H.handle c s).1 [⟨s, c, (H.handle c s).1⟩] (H.handle c s).2) :
    Ensures H (Program.perform c) s Q := by
  apply ensures_call
  cases hr : (H.handle c s).1 with
  | ok r => rw [hr] at h; exact h
  | error e => rw [hr] at h; exact h

theorem ensures_attempt {c : I.Call}
    {Q : Except ε (Except ε (I.Reply c)) → List (Step I ε σ) → σ → Prop}
    (h : Q (.ok (H.handle c s).1) [⟨s, c, (H.handle c s).1⟩] (H.handle c s).2) :
    Ensures H (Program.attempt c) s Q := h

/-- A call whose reply the program takes as it is, and what it does with it. -/
theorem ensures_attempt_bind {c : I.Call} {g : Except ε (I.Reply c) → Program I ε α}
    {Q : Except ε α → List (Step I ε σ) → σ → Prop}
    (h : Ensures H (g (H.handle c s).1) (H.handle c s).2
      fun r t s' => Q r (⟨s, c, (H.handle c s).1⟩ :: t) s') :
    Ensures H (Program.attempt c >>= g) s Q := h

/-- Sequencing: `R` describes what the first part may do. -/
theorem Ensures.bind {R : Except ε α → List (Step I ε σ) → σ → Prop}
    {Q : Except ε β → List (Step I ε σ) → σ → Prop} (hp : Ensures H p s R)
    (hok : ∀ a t s', R (.ok a) t s' → Ensures H (f a) s' fun r t' s'' => Q r (t ++ t') s'')
    (herr : ∀ e t s', R (.error e) t s' → Q (.error e) t s') :
    Ensures H (p >>= f) s Q := by
  induction p generalizing s R Q with
  | ret a => exact hok a [] s hp
  | raise e => exact herr e [] s hp
  | call c next ih =>
    change Ensures H (.call c fun r => next r >>= f) s Q
    apply ensures_call
    exact ih _ (R := fun r t s' => R r (⟨s, c, (H.handle c s).1⟩ :: t) s') hp
      (fun a t s' h => hok a _ s' h) (fun e t s' h => herr e _ s' h)

/-- Sequencing, when it is known what the first part returns. -/
theorem Ensures.bind_returned {a : α} {R : List (Step I ε σ) → σ → Prop}
    {Q : Except ε β → List (Step I ε σ) → σ → Prop}
    (hp : Ensures H p s fun r t s' => r = .ok a ∧ R t s')
    (hok : ∀ t s', R t s' → Ensures H (f a) s' fun r t' s'' => Q r (t ++ t') s'') :
    Ensures H (p >>= f) s Q := by
  apply hp.bind
  · intro a' t s' hpost
    obtain ⟨hreturned, hr⟩ := hpost
    cases hreturned
    exact hok t s' hr
  · intro e t s' hpost
    cases hpost.1

/-- Sequencing, for a property of whatever value is returned. -/
theorem Ensures.bind_ok {R : Except ε α → List (Step I ε σ) → σ → Prop}
    {Q : β → List (Step I ε σ) → σ → Prop} (hp : Ensures H p s R)
    (hok : ∀ a t s', R (.ok a) t s' →
      Ensures H (f a) s' fun r t' s'' => ∀ b, r = .ok b → Q b (t ++ t') s'') :
    Ensures H (p >>= f) s fun r t s' => ∀ b, r = .ok b → Q b t s' := by
  apply hp.bind hok
  intro e t s' _ b hb
  cases hb

end rules

/-- Every call the program can make, whatever the replies, is an allowed one. -/
def Only (allowed : I.Call → Prop) : Program I ε α → Prop
  | .ret _ => True
  | .raise _ => True
  | .call c next => allowed c ∧ ∀ r, Only allowed (next r)

section only
variable {allowed : I.Call → Prop} {p : Program I ε α} {f : α → Program I ε β}

theorem only_pure (a : α) : Only allowed (pure a : Program I ε α) := trivial

theorem only_raise (e : ε) : Only allowed (.raise e : Program I ε α) := trivial

theorem only_lift (x : Except ε α) : Only allowed (Program.lift x : Program I ε α) := by
  cases x <;> trivial

theorem only_attempt {c : I.Call} (h : allowed c) :
    Only allowed (Program.attempt c : Program I ε (Except ε (I.Reply c))) :=
  ⟨h, fun _ => trivial⟩

theorem only_perform {c : I.Call} (h : allowed c) :
    Only allowed (Program.perform c : Program I ε (I.Reply c)) :=
  ⟨h, fun r => by cases r <;> trivial⟩

theorem Only.bind (hp : Only allowed p) (hf : ∀ a, Only allowed (f a)) :
    Only allowed (p >>= f) := by
  induction p with
  | ret a => exact hf a
  | raise e => trivial
  | call c next ih => exact ⟨hp.1, fun r => ih r (hp.2 r)⟩

theorem Only.mono {more : I.Call → Prop} (hp : Only allowed p)
    (h : ∀ c, allowed c → more c) : Only more p := by
  induction p with
  | ret a => trivial
  | raise e => trivial
  | call c next ih => exact ⟨h c hp.1, fun r => ih r (hp.2 r)⟩

theorem Only.steps {H : Handler I ε σ} {s : σ} (hp : Only allowed p) :
    ∀ x ∈ (exec H p s).steps, allowed x.call := by
  induction p generalizing s with
  | ret a => intro x hx; cases hx
  | raise e => intro x hx; cases hx
  | call c next ih =>
    intro x hx
    rcases List.mem_cons.mp hx with rfl | hx
    · exact hp.1
    · exact ih _ (hp.2 _) x hx

/-- Two handlers that agree on the allowed calls run the program alike. -/
theorem Only.exec_congr {H H' : Handler I ε σ} {s : σ} (hp : Only allowed p)
    (h : ∀ c s, allowed c → H.handle c s = H'.handle c s) : exec H p s = exec H' p s := by
  induction p generalizing s with
  | ret a => rfl
  | raise e => rfl
  | call c next ih =>
    obtain ⟨hc, hnext⟩ := hp
    simp only [exec, h c s hc]
    rw [ih _ (hnext _)]

/-- What every allowed call preserves holds before every step and at the end. -/
theorem Only.invariant {H : Handler I ε σ} {s : σ} (Inv : σ → Prop)
    (hH : ∀ c s, allowed c → Inv s → Inv (H.handle c s).2) (hp : Only allowed p) (hs : Inv s) :
    (∀ x ∈ (exec H p s).steps, Inv x.before) ∧ Inv (exec H p s).state := by
  induction p generalizing s with
  | ret a => exact ⟨by simp [exec], hs⟩
  | raise e => exact ⟨by simp [exec], hs⟩
  | call c next ih =>
    obtain ⟨hmid, hend⟩ := ih (H.handle c s).1 (hp.2 _) (hH c s hp.1 hs)
    refine ⟨fun x hx => ?_, hend⟩
    rcases List.mem_cons.mp hx with rfl | hx
    · exact hs
    · exact hmid x hx

/-- Frame rule: what no allowed call changes is the same before every step and at the end. -/
theorem Only.frame {H : Handler I ε σ} {s : σ} {γ : Type} (view : σ → γ)
    (hH : ∀ c s, allowed c → view (H.handle c s).2 = view s) (hp : Only allowed p) :
    (∀ x ∈ (exec H p s).steps, view x.before = view s) ∧ view (exec H p s).state = view s :=
  hp.invariant (fun s' => view s' = view s) (fun c s' hc hs' => (hH c s' hc).trans hs') rfl

end only

end LlmMax.EffectProgram
