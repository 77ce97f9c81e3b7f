import LlmMax.History

/-! Services that answer one call after the other, whatever the answers are. One service refines
another when its calls, replies and states mean those of the other; and what a service returns
comes from somewhere. -/
namespace LlmMax.ServiceRefinement
open History

variable {C D σ τ δ : Type} {R : C → Type} {S : D → Type}

/-- The answers to the calls, and the state after them. -/
def answers (serve : (c : C) → σ → R c × σ) : List C → σ → List (Σ c, R c) × σ
  | [], s => ([], s)
  | c :: calls, s =>
    let out := serve c s
    let later := answers serve calls out.2
    (⟨c, out.1⟩ :: later.1, later.2)

/-- On the states that meet the condition, which every call keeps, the one service does what the
other does, through what its calls, replies and states mean. -/
structure Refines (serve : (c : C) → σ → R c × σ) (serve' : (d : D) → τ → S d × τ) (call : C → D)
    (reply : (c : C) → R c → S (call c)) (state : σ → τ) (Good : σ → Prop) : Prop where
  keeps : ∀ c s, Good s → Good (serve c s).2
  replies : ∀ c s, Good s → reply c (serve c s).1 = (serve' (call c) (state s)).1
  states : ∀ c s, Good s → state (serve c s).2 = (serve' (call c) (state s)).2

/-- Everything that a call returns or leaves behind was there before it or came with it. -/
structure Conserves (serve : (c : C) → σ → R c × σ) (held : σ → δ → Prop) (given : C → δ → Prop)
    (returned : (c : C) → R c → δ → Prop) : Prop where
  returns : ∀ c s x, returned c (serve c s).1 x → held s x ∨ given c x
  keeps : ∀ c s x, held (serve c s).2 x → held s x ∨ given c x

section run
variable {serve : (c : C) → σ → R c × σ} {serve' : (d : D) → τ → S d × τ} {call : C → D}
  {reply : (c : C) → R c → S (call c)} {state : σ → τ} {Good : σ → Prop}

/-- Refinement of single calls is refinement of runs. -/
theorem Refines.answers_eq (h : Refines serve serve' call reply state Good) (calls : List C) (s : σ)
    (hs : Good s) :
    (answers serve calls s).1.map (fun a => (⟨call a.1, reply a.1 a.2⟩ : Σ d, S d)) =
        (answers serve' (calls.map call) (state s)).1 ∧
      state (answers serve calls s).2 = (answers serve' (calls.map call) (state s)).2 ∧
      Good (answers serve calls s).2 := by
  induction calls generalizing s with
  | nil => exact ⟨rfl, rfl, hs⟩
  | cons c calls ih =>
    obtain ⟨hreplies, hstate, hgood⟩ := ih (serve c s).2 (h.keeps c s hs)
    rw [h.states c s hs] at hreplies hstate
    refine ⟨?_, hstate, hgood⟩
    simp only [answers, List.map_cons]
    rw [hreplies, h.replies c s hs]

variable {held : σ → δ → Prop} {given : C → δ → Prop} {returned : (c : C) → R c → δ → Prop}

/-- In a run, what is returned was there at the start or came with a call up to then. -/
theorem Conserves.answers_each (h : Conserves serve held given returned) (calls : List C) (s : σ) :
    Each (fun past a => ∀ x, returned a.1 a.2 x → held s x ∨ ∃ b ∈ past ++ [a], given b.1 x) []
      (answers serve calls s).1 := by
  suffices hlater : ∀ (past : List (Σ c, R c)) (t : σ),
      (∀ x, held t x → held s x ∨ ∃ b ∈ past, given b.1 x) →
      Each (fun past a => ∀ x, returned a.1 a.2 x → held s x ∨ ∃ b ∈ past ++ [a], given b.1 x) past
        (answers serve calls t).1 from hlater [] s fun x hx => .inl hx
  induction calls with
  | nil => intro past t _; trivial
  | cons c calls ih =>
    intro past t ht
    have hcome (x : δ) (hx : held t x ∨ given c x) :
        held s x ∨ ∃ b ∈ past ++ [⟨c, (serve c t).1⟩], given b.1 x := by
      rcases hx with hx | hx
      · rcases ht x hx with hstart | ⟨b, hb, hgiven⟩
        · exact .inl hstart
        · exact .inr ⟨b, List.mem_append_left _ hb, hgiven⟩
      · exact .inr ⟨⟨c, (serve c t).1⟩, by simp, hx⟩
    refine ⟨fun x hx => hcome x (h.returns c t x hx), ih _ _ ?_⟩
    intro x hx
    exact hcome x (h.keeps c t x hx)

end run

end LlmMax.ServiceRefinement
