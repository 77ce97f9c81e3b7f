import LlmMax.EffectProgram

/-! Blocks of programs: a block with a handler for its exceptions, and one block for each
element of a list. -/
namespace LlmMax.EffectBlocks
open EffectProgram

variable {I : Interface} {ε α β σ : Type}

/-- `try` around a whole block: exceptions that can be caught go to the handler. -/
def catching (caught : ε → Bool) (handler : ε → Program I ε α) : Program I ε α → Program I ε α
  | .ret a => .ret a
  | .raise e => if caught e then handler e else .raise e
  | .call c next => .call c fun r => catching caught handler (next r)

/-- A block for each element, in order; the results in order. -/
def mapList (body : α → Program I ε β) : List α → Program I ε (List β)
  | [] => pure []
  | x :: xs => do
    let y ← body x
    let ys ← mapList body xs
    return y :: ys

/-- A value computed from the result of a program. -/
theorem exec_map (H : Handler I ε σ) (f : α → β) (p : Program I ε α) (s : σ) :
    exec H (p >>= fun a => pure (f a)) s =
      ⟨(exec H p s).result.map f, (exec H p s).steps, (exec H p s).state⟩ := by
  cases h : (exec H p s).result with
  | ok a =>
    rw [exec_bind_ok h]
    simp [Except.map]
  | error e => rw [exec_bind_error h, Except.map]

section rules
variable {H : Handler I ε σ} {s : σ} {caught : ε → Bool} {handler : ε → Program I ε α}
  {p : Program I ε α}

theorem ensures_catching {R Q : Except ε α → List (Step I ε σ) → σ → Prop}
    (hp : Ensures H p s R) (hok : ∀ a t s', R (.ok a) t s' → Q (.ok a) t s')
    (hcaught : ∀ e t s', R (.error e) t s' → caught e = true →
      Ensures H (handler e) s' fun r t' s'' => Q r (t ++ t') s'')
    (huncaught : ∀ e t s', R (.error e) t s' → caught e = false → Q (.error e) t s') :
    Ensures H (catching caught handler p) s Q := by
  induction p generalizing s R Q with
  | ret a => exact hok a [] s hp
  | raise e =>
    unfold catching
    cases he : caught e with
    | true => exact hcaught e [] s hp he
    | false => exact huncaught e [] s hp he
  | call c next ih =>
    apply ensures_call
    exact ih _ (R := fun r t s' => R r (⟨s, c, (H.handle c s).1⟩ :: t) s') hp
      (fun a t s' h => hok a _ s' h) (fun e t s' h => hcaught e _ s' h)
      (fun e t s' h => huncaught e _ s' h)

/-- The parts of a loop that ended well: each element has its result and its stretch of the
steps. -/
def Parts (P : α → β → List (Step I ε σ) → Prop) (xs : List α) (ys : List β)
    (t : List (Step I ε σ)) : Prop :=
  ∃ parts : List (β × List (Step I ε σ)), ys = parts.map Prod.fst ∧
    t = (parts.map Prod.snd).flatten ∧ List.Forall₂ (fun x part => P x part.1 part.2) xs parts

/-- A block that ends well took no bad step, and its value is what its steps say; one that ends
with an exception that can be caught took a bad step. -/
structure Accounts (bad : Step I ε σ → Bool) (caught : ε → Bool)
    (P : α → List (Step I ε σ) → Prop) (r : Except ε α) (t : List (Step I ε σ)) : Prop where
  value : ∀ a, r = .ok a → P a t ∧ ∀ x ∈ t, bad x = false
  blame : ∀ e, r = .error e → caught e = true → ∃ x ∈ t, bad x = true

variable {bad : Step I ε σ → Bool}

lemma Accounts.of_value {P : α → List (Step I ε σ) → Prop} {a : α} {t : List (Step I ε σ)}
    (h : P a t) (ht : ∀ x ∈ t, bad x = false) : Accounts bad caught P (.ok a) t := by
  constructor
  · rintro _ ⟨⟩
    exact ⟨h, ht⟩
  · rintro e ⟨⟩

lemma Accounts.of_blame {P : α → List (Step I ε σ) → Prop} {e : ε} {t : List (Step I ε σ)}
    (h : caught e = true → ∃ x ∈ t, bad x = true) : Accounts bad caught P (.error e) t := by
  constructor
  · rintro a ⟨⟩
  · rintro _ ⟨⟩
    exact h

/-- Good steps before it do not matter. -/
lemma Accounts.after {P : α → List (Step I ε σ) → Prop} {r : Except ε α} {t u : List (Step I ε σ)}
    (h : Accounts bad caught (fun a u => P a (t ++ u)) r u) (ht : ∀ x ∈ t, bad x = false) :
    Accounts bad caught P r (t ++ u) := by
  constructor
  · intro a ha
    obtain ⟨hp, hu⟩ := h.value a ha
    exact ⟨hp, List.forall_mem_append.mpr ⟨ht, hu⟩⟩
  · intro e he hcaught
    obtain ⟨x, hx, hbad⟩ := h.blame e he hcaught
    exact ⟨x, List.mem_append_right t hx, hbad⟩

theorem accounts_bind {f : α → Program I ε β} {P : α → List (Step I ε σ) → Prop}
    {Q : β → List (Step I ε σ) → Prop}
    (hp : Ensures H p s fun r t _ => Accounts bad caught P r t)
    (hf : ∀ a t s', P a t → Ensures H (f a) s' fun r u _ =>
      Accounts bad caught (fun b u => Q b (t ++ u)) r u) :
    Ensures H (p >>= f) s fun r t _ => Accounts bad caught Q r t := by
  apply hp.bind
  · intro a t s' h
    obtain ⟨ha, ht⟩ := h.value a rfl
    apply (hf a t s' ha).mono
    intro r u _ h
    exact h.after ht
  · intro e t s' h
    exact .of_blame (h.blame e rfl)

theorem accounts_mapList {body : α → Program I ε β} {P : α → β → List (Step I ε σ) → Prop}
    (h : ∀ x s, Ensures H (body x) s fun r t _ => Accounts bad caught (P x) r t) (xs : List α)
    (s : σ) :
    Ensures H (mapList body xs) s fun r t _ => Accounts bad caught (Parts P xs) r t := by
  induction xs generalizing s with
  | nil => exact ensures_pure (.of_value ⟨[], rfl, rfl, .nil⟩ (by simp))
  | cons x xs ih =>
    unfold mapList
    apply accounts_bind (h x s)
    intro y t s' hy
    apply accounts_bind (ih s')
    rintro ys t' s'' ⟨parts, rfl, rfl, hparts⟩
    apply ensures_pure
    apply Accounts.of_value
    · exact ⟨(y, t) :: parts, rfl, by simp, .cons hy hparts⟩
    · simp

end rules

section steady
variable {H : Handler I ε σ}

/-- No call changes the state. -/
def Steady (H : Handler I ε σ) : Prop := ∀ c s, (H.handle c s).2 = s

theorem exec_steady (h : Steady H) (p : Program I ε α) (s : σ) : (exec H p s).state = s := by
  induction p generalizing s with
  | ret a => rfl
  | raise e => rfl
  | call c next ih =>
    simp only [exec, ih]
    exact h c s

theorem exec_bind_steady (h : Steady H) {p : Program I ε α} {s : σ} {a : α}
    (hp : (exec H p s).result = .ok a) (f : α → Program I ε β) :
    (exec H (p >>= f) s).result = (exec H (f a) s).result := by
  rw [exec_bind_ok hp, exec_steady h]

/-- A loop in a state that never changes. -/
theorem exec_mapList_steady (h : Steady H) {body : α → Program I ε β} {value : α → β} {s : σ}
    {xs : List α} (hbody : ∀ x ∈ xs, (exec H (body x) s).result = .ok (value x)) :
    (exec H (mapList body xs) s).result = .ok (xs.map value) := by
  induction xs with
  | nil => rfl
  | cons x xs ih =>
    obtain ⟨hx, hxs⟩ := List.forall_mem_cons.mp hbody
    unfold mapList
    rw [exec_bind_steady h hx, exec_bind_steady h (ih hxs)]
    rfl

end steady

section only
variable {allowed : I.Call → Prop}

theorem only_catching {caught : ε → Bool} {handler : ε → Program I ε α} {p : Program I ε α}
    (hp : Only allowed p) (hhandler : ∀ e, Only allowed (handler e)) :
    Only allowed (catching caught handler p) := by
  induction p with
  | ret a => trivial
  | raise e =>
    unfold catching
    split_ifs
    · exact hhandler e
    · trivial
  | call c next ih => exact ⟨hp.1, fun r => ih r (hp.2 r)⟩

theorem only_mapList {body : α → Program I ε β} (h : ∀ x, Only allowed (body x)) (xs : List α) :
    Only allowed (mapList body xs) := by
  induction xs with
  | nil => exact only_pure _
  | cons x xs ih => exact (h x).bind fun y => ih.bind fun ys => only_pure _

end only

end LlmMax.EffectBlocks
