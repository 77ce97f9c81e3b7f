import LlmMax.EffectThreads

/-! What a schedule leaves behind: the state, and the threads that have not ended. -/
namespace LlmMax.EffectSchedules
open EffectProgram History EffectThreads

variable {I : Interface} {ε σ τ : Type}

/-- The threads as they stand after the schedule, and the state. -/
def leave (H : Handler I ε σ) : List ℕ → List (Program I ε Unit) → σ →
    List (Program I ε Unit) × σ
  | [], threads, s => (threads, s)
  | i :: schedule, threads, s =>
    match threads[i]? with
    | some (.call c next) =>
      let out := H.handle c s
      leave H schedule (threads.set i (next out.1)) out.2
    | _ => leave H schedule threads s

variable {H : Handler I ε σ} {P : ℕ → Protocol I ε τ} {post : ℕ → Unit → τ → Prop}

/-- The threads obey their protocols from their typestates on. -/
def AllComply (P : ℕ → Protocol I ε τ) (post : ℕ → Unit → τ → Prop) (q : ℕ → τ)
    (threads : List (Program I ε Unit)) : Prop :=
  ∀ i p, threads[i]? = some p → Complies (P i) (post i) (q i) p

lemma AllComply.move {q : ℕ → τ} {threads : List (Program I ε Unit)} {i : ℕ} {c : I.Call}
    {next : Except ε (I.Reply c) → Program I ε Unit} (h : AllComply P post q threads)
    (hi : threads[i]? = some (.call c next)) (reply : Except ε (I.Reply c)) :
    AllComply P post (Function.update q i ((P i).move (q i) c reply)) (threads.set i (next reply)) := by
  intro j p hj
  rw [List.getElem?_set] at hj
  split_ifs at hj with hij hlt
  · subst hij
    obtain rfl : next reply = p := Option.some.inj hj
    rw [Function.update_self]
    exact (h _ _ hi).2 reply
  · rw [Function.update_of_ne (Ne.symm hij)]
    exact h j p hj

/-- The induction over an interleaving, up to what it leaves: the invariant in some typestates,
from which the threads that are left still obey their protocols. -/
theorem interleave_leave {Q : List (Event I ε σ) → Event I ε σ → Prop}
    (Inv : List (Event I ε σ) → (ℕ → τ) → σ → Prop)
    (step : ∀ past q s i c, Inv past q s → (P i).allowed (q i) c →
      Q past ⟨i, s, c, (H.handle c s).1⟩ ∧
      Inv (past ++ [⟨i, s, c, (H.handle c s).1⟩])
        (Function.update q i ((P i).move (q i) c (H.handle c s).1)) (H.handle c s).2)
    {schedule : List ℕ} {threads : List (Program I ε Unit)} {past : List (Event I ε σ)}
    {q : ℕ → τ} {s : σ} (hinv : Inv past q s) (hthreads : AllComply P post q threads) :
    Each Q past (interleave H schedule threads s) ∧
      ∃ q', Inv (past ++ interleave H schedule threads s) q' (leave H schedule threads s).2 ∧
        AllComply P post q' (leave H schedule threads s).1 := by
  induction schedule generalizing threads past q s with
  | nil => exact ⟨trivial, q, by rwa [interleave, List.append_nil], hthreads⟩
  | cons i schedule ih =>
    rcases hi : threads[i]? with _ | (a | e | ⟨c, next⟩)
    case some.call =>
      obtain ⟨hQ, hinv'⟩ := step past q s i c hinv (hthreads i _ hi).1
      obtain ⟨heach, q', hinv'', hleft⟩ := ih hinv' (hthreads.move hi (H.handle c s).1)
      rw [List.append_assoc, List.singleton_append] at hinv''
      simp only [interleave, leave, hi]
      exact ⟨⟨hQ, heach⟩, q', hinv'', hleft⟩
    all_goals
      simp only [interleave, leave, hi]
      exact ih hinv hthreads

end LlmMax.EffectSchedules
