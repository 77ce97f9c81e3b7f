import LlmMax.EffectProgram

/-! Two runs of one program. When the program goes on alike whatever some calls reply, two
handlers that differ on those calls only give runs that differ there only. -/
namespace LlmMax.EffectProgram

variable {I : Interface} {ε α β σ τ : Type}

/-- A program that goes on alike after any two expected replies of a hidden call. -/
def Blind (hidden : I.Call → Prop) (expected : (c : I.Call) → Except ε (I.Reply c) → Prop) :
    Program I ε α → Prop
  | .ret _ => True
  | .raise _ => True
  | .call c next => (∀ r, (hidden c → expected c r) → Blind hidden expected (next r)) ∧
      (hidden c → ∀ r r', expected c r → expected c r' → next r = next r')

/-- The calls of a run that are not hidden, with their replies. -/
def visible (hidden : I.Call → Prop) [DecidablePred hidden] (t : List (Step I ε σ)) :
    List (Σ c : I.Call, Except ε (I.Reply c)) :=
  (t.filter fun x => ¬ hidden x.call).map fun x => ⟨x.call, x.reply⟩

section blind
variable {hidden : I.Call → Prop} {expected : (c : I.Call) → Except ε (I.Reply c) → Prop}
  {p : Program I ε α} {f : α → Program I ε β}

theorem blind_pure (a : α) : Blind hidden expected (pure a : Program I ε α) := trivial

theorem Blind.bind (hp : Blind hidden expected p) (hf : ∀ a, Blind hidden expected (f a)) :
    Blind hidden expected (p >>= f) := by
  induction p with
  | ret a => exact hf a
  | raise e => trivial
  | call c next ih =>
    refine ⟨fun r hr => ih r (hp.1 r hr), fun hc r r' hr hr' => ?_⟩
    exact congrArg (fun p => Program.bind p f) (hp.2 hc r r' hr hr')

/-- A hidden call whose expected replies are all followed by the same program. -/
theorem blind_attempt {c : I.Call} {f : Except ε (I.Reply c) → Program I ε β} {q : Program I ε β}
    (hc : hidden c) (hq : Blind hidden expected q) (h : ∀ r, expected c r → f r = q) :
    Blind hidden expected (Program.attempt c >>= f) := by
  refine ⟨fun r hr => ?_, fun _ r r' hr hr' => (h r hr).trans (h r' hr').symm⟩
  change Blind hidden expected (f r)
  rw [h r (hr hc)]
  exact hq

/-- A program that makes no hidden call. -/
theorem Only.blind {allowed : I.Call → Prop} (hp : Only allowed p)
    (h : ∀ c, allowed c → ¬ hidden c) : Blind hidden expected p := by
  induction p with
  | ret a => trivial
  | raise e => trivial
  | call c next ih =>
    refine ⟨fun r _ => ih r (hp.2 r), fun hc => ?_⟩
    exact absurd hc (h c hp.1)

/-- Two handlers that agree on the calls in the open, and reply as expected to the hidden
ones, give the same result and the same visible run, and end in related states. -/
theorem Blind.two_runs [DecidablePred hidden] {H : Handler I ε σ} {K : Handler I ε τ}
    (R : σ → τ → Prop)
    (hopen : ∀ c s t, ¬ hidden c → R s t →
      (H.handle c s).1 = (K.handle c t).1 ∧ R (H.handle c s).2 (K.handle c t).2)
    (hhidden : ∀ c s t, hidden c → R s t → expected c (H.handle c s).1 ∧
      expected c (K.handle c t).1 ∧ R (H.handle c s).2 (K.handle c t).2)
    (hp : Blind hidden expected p) {s : σ} {t : τ} (hst : R s t) :
    (exec H p s).result = (exec K p t).result ∧
      visible hidden (exec H p s).steps = visible hidden (exec K p t).steps ∧
      R (exec H p s).state (exec K p t).state := by
  induction p generalizing s t with
  | ret a => exact ⟨rfl, rfl, hst⟩
  | raise e => exact ⟨rfl, rfl, hst⟩
  | call c next ih =>
    by_cases hc : hidden c
    · obtain ⟨hs, ht, hrest⟩ := hhidden c s t hc hst
      have hnext := hp.2 hc _ _ hs ht
      obtain ⟨hresult, hvisible, hstate⟩ := ih _ (hp.1 _ fun _ => hs) hrest
      simp only [exec, visible, hc, not_true_eq_false, decide_false, Bool.false_eq_true,
        not_false_eq_true, List.filter_cons_of_neg]
      rw [← hnext]
      exact ⟨hresult, hvisible, hstate⟩
    · obtain ⟨hreply, hrest⟩ := hopen c s t hc hst
      obtain ⟨hresult, hvisible, hstate⟩ := ih _ (hp.1 _ fun h => absurd h hc) hrest
      simp only [exec, visible, hc, not_false_eq_true, decide_true, List.filter_cons_of_pos,
        List.map_cons]
      rw [← hreply]
      refine ⟨hresult, ?_, hstate⟩
      exact congrArg (List.cons _) hvisible

end blind

end LlmMax.EffectProgram
