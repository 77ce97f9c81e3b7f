import LlmMax.EffectProgram

/-! Programs inside programs over another interface, which makes their calls for them. What the
smaller program does not see stays as it is. -/
namespace LlmMax.EffectEmbedding
open EffectProgram

variable {I J : Interface} {ε α σ τ φ : Type}

/-- The program, whose calls are made by programs over the other interface. -/
def within (make : (c : I.Call) → Program J ε (Except ε (I.Reply c))) :
    Program I ε α → Program J ε α
  | .ret a => .ret a
  | .raise e => .raise e
  | .call c next => make c >>= fun r => within make (next r)

/-- The calls are answered in the larger state as the handler answers them in the part of it that
is seen, and the rest of it is not touched. -/
def Makes (H : Handler I ε σ) (K : Handler J ε τ) (seen : τ → σ) (rest : τ → φ)
    (make : (c : I.Call) → Program J ε (Except ε (I.Reply c))) : Prop :=
  ∀ c t, Ensures K (make c) t fun r _ t' => r = .ok (H.handle c (seen t)).1 ∧
    seen t' = (H.handle c (seen t)).2 ∧ rest t' = rest t

variable {H : Handler I ε σ} {K : Handler J ε τ} {seen : τ → σ} {rest : τ → φ}
  {make : (c : I.Call) → Program J ε (Except ε (I.Reply c))}

/-- What a program ensures on its own it ensures inside. -/
theorem Ensures.within (hmake : Makes H K seen rest make) {p : Program I ε α} {t : τ}
    {Q : Except ε α → σ → Prop} (hp : Ensures H p (seen t) fun r _ s => Q r s) :
    Ensures K (within make p) t fun r _ t' => Q r (seen t') ∧ rest t' = rest t := by
  induction p generalizing t with
  | ret a => exact ensures_pure ⟨hp, rfl⟩
  | raise e => exact ensures_raise ⟨hp, rfl⟩
  | call c next ih =>
    refine (hmake c t).bind ?_ ?_
    · intro r u t' h
      obtain ⟨hr, hseen, hrest⟩ := h
      cases hr
      have hnext : Ensures H (next (H.handle c (seen t)).1) (seen t') fun r _ s => Q r s := by
        rw [hseen]
        exact hp
      exact (ih _ hnext).mono fun r _ s h => ⟨h.1, h.2.trans hrest⟩
    · intro e u t' h
      cases h.1

end LlmMax.EffectEmbedding
