import LlmMax.EffectProgram
import LlmMax.History
import Mathlib.Data.List.Chain
import Mathlib.Logic.Function.Basic

/-! Programs that obey a protocol, and interleavings of such programs over one state. A
protocol allows calls in a typestate and moves it by their replies. -/
namespace LlmMax.EffectThreads
open EffectProgram History

structure Protocol (I : Interface) (ε τ : Type) where
  allowed : τ → I.Call → Prop
  move : τ → (c : I.Call) → Except ε (I.Reply c) → τ

variable {I : Interface} {ε α β σ τ : Type}

/-- From the typestate on, whatever the replies, the program makes allowed calls only,
and a value it returns satisfies `post` in the typestate it ends in. -/
def Complies (P : Protocol I ε τ) (post : α → τ → Prop) : τ → Program I ε α → Prop
  | q, .ret a => post a q
  | _, .raise _ => True
  | q, .call c next => P.allowed q c ∧ ∀ r, Complies P post (P.move q c r) (next r)

section complies
variable {P : Protocol I ε τ} {post : α → τ → Prop} {q : τ} {p : Program I ε α}

theorem complies_pure {a : α} (h : post a q) : Complies P post q (pure a) := h

theorem complies_perform {c : I.Call} {post : I.Reply c → τ → Prop} (h : P.allowed q c)
    (hpost : ∀ r, post r (P.move q c (.ok r))) : Complies P post q (Program.perform c) := by
  refine ⟨h, fun r => ?_⟩
  cases r with
  | ok r => exact hpost r
  | error e => trivial

theorem complies_attempt_bind {c : I.Call} {g : Except ε (I.Reply c) → Program I ε α}
    (h : P.allowed q c) (hg : ∀ r, Complies P post (P.move q c r) (g r)) :
    Complies P post q (Program.attempt c >>= g) := ⟨h, hg⟩

theorem Complies.bind {post' : β → τ → Prop} {f : α → Program I ε β} (hp : Complies P post q p)
    (hf : ∀ a q', post a q' → Complies P post' q' (f a)) : Complies P post' q (p >>= f) := by
  induction p generalizing q with
  | ret a => exact hf a q hp
  | raise e => trivial
  | call c next ih =>
    obtain ⟨hc, hnext⟩ := hp
    exact ⟨hc, fun r => ih r (hnext r)⟩

theorem Complies.mono {post' : α → τ → Prop} (hp : Complies P post q p)
    (h : ∀ a q', post a q' → post' a q') : Complies P post' q p := by
  induction p generalizing q with
  | ret a => exact h a q hp
  | raise e => trivial
  | call c next ih =>
    obtain ⟨hc, hnext⟩ := hp
    exact ⟨hc, fun r => ih r (hnext r)⟩

/-- What a protocol allows in any typestate bounds the calls of a program that obeys it. -/
theorem Complies.only {allowed : I.Call → Prop} (hp : Complies P post q p)
    (h : ∀ q c, P.allowed q c → allowed c) : Only allowed p := by
  induction p generalizing q with
  | ret a => trivial
  | raise e => trivial
  | call c next ih =>
    obtain ⟨hc, hnext⟩ := hp
    exact ⟨h q c hc, fun r => ih r (hnext r)⟩

/-- Calls that every typestate allows and that move none leave the typestate alone. -/
theorem complies_of_only {allowed : I.Call → Prop} (hp : Only allowed p)
    (h : ∀ c, allowed c → P.allowed q c ∧ ∀ r, P.move q c r = q) :
    Complies P (fun _ q' => q' = q) q p := by
  induction p with
  | ret a => rfl
  | raise e => trivial
  | call c next ih =>
    obtain ⟨hc, hnext⟩ := hp
    obtain ⟨hallowed, hmove⟩ := h c hc
    refine ⟨hallowed, fun r => ?_⟩
    rw [hmove r]
    exact ih r (hnext r)

/-- What every allowed call preserves holds after the program. -/
theorem Complies.invariant {H : Handler I ε σ} (Inv : τ → σ → Prop)
    (hH : ∀ q s c, Inv q s → P.allowed q c → Inv (P.move q c (H.handle c s).1) (H.handle c s).2)
    {s : σ} (hp : Complies P post q p) (hs : Inv q s) : ∃ q', Inv q' (exec H p s).state := by
  induction p generalizing q s with
  | ret a => exact ⟨q, hs⟩
  | raise e => exact ⟨q, hs⟩
  | call c next ih =>
    obtain ⟨hc, hnext⟩ := hp
    exact ih _ (hnext _) (hH q s c hs hc)

end complies

/-- One step of a thread among others. -/
structure Event (I : Interface) (ε σ : Type) where
  thread : ℕ
  step : Step I ε σ

variable (H : Handler I ε σ)

/-- The state a step leaves behind. -/
def Event.after (e : Event I ε σ) : σ := (H.handle e.step.call e.step.before).2

/-- The events of a schedule, which names the thread that moves next; a thread that has
ended, or that does not exist, lets its turn pass. -/
def interleave : List ℕ → List (Program I ε Unit) → σ → List (Event I ε σ)
  | [], _, _ => []
  | i :: schedule, threads, s =>
    match threads[i]? with
    | some (.call c next) =>
      let out := H.handle c s
      ⟨i, s, c, out.1⟩ :: interleave schedule (threads.set i (next out.1)) out.2
    | _ => interleave schedule threads s

/-- The states that the events pass through, the first one included. -/
def trail (s : σ) (events : List (Event I ε σ)) : List σ := s :: events.map (Event.after H)

variable {H}

/-- A transitive relation holds between any two states of an interleaving, the earlier one
first, if and only if every single event keeps it. -/
theorem trail_pairwise_iff {R : σ → σ → Prop} [Trans R R R] (schedule : List ℕ)
    (threads : List (Program I ε Unit)) (s : σ) :
    (trail H s (interleave H schedule threads s)).Pairwise R ↔
      ∀ e ∈ interleave H schedule threads s, R e.step.before (e.after H) := by
  unfold trail
  rw [← List.isChain_iff_pairwise]
  induction schedule generalizing threads s with
  | nil => simp [interleave]
  | cons i schedule ih =>
    unfold interleave
    split
    · rename_i c next hi
      simp only [List.map_cons, List.isChain_cons_cons, List.forall_mem_cons]
      exact and_congr_right fun _ => ih _ _
    · exact ih _ _

/-- The induction over an interleaving of threads that obey one protocol each. `Inv` speaks
about the earlier events, the typestates and the state. -/
theorem interleave_each (P : ℕ → Protocol I ε τ) {Q : List (Event I ε σ) → Event I ε σ → Prop}
    (Inv : List (Event I ε σ) → (ℕ → τ) → σ → Prop)
    (step : ∀ past q s i c, Inv past q s → (P i).allowed (q i) c →
      Q past ⟨i, s, c, (H.handle c s).1⟩ ∧
      Inv (past ++ [⟨i, s, c, (H.handle c s).1⟩])
        (Function.update q i ((P i).move (q i) c (H.handle c s).1)) (H.handle c s).2)
    {schedule : List ℕ} {threads : List (Program I ε Unit)} {past : List (Event I ε σ)}
    {q : ℕ → τ} {s : σ} (hinv : Inv past q s)
    (hthreads : ∀ i p, threads[i]? = some p → Complies (P i) (fun _ _ => True) (q i) p) :
    Each Q past (interleave H schedule threads s) := by
  induction schedule generalizing threads past q s with
  | nil => trivial
  | cons i schedule ih =>
    unfold interleave
    split
    · rename_i c next hi
      obtain ⟨hallowed, hnext⟩ := hthreads i _ hi
      obtain ⟨hQ, hinv'⟩ := step past q s i c hinv hallowed
      refine ⟨hQ, ih hinv' fun j p hj => ?_⟩
      rw [List.getElem?_set] at hj
      split_ifs at hj with hij hlt
      · subst hij
        obtain rfl : next (H.handle c s).1 = p := Option.some.inj hj
        rw [Function.update_self]
        exact hnext _
      · rw [Function.update_of_ne (Ne.symm hij)]
        exact hthreads j p hj
    · exact ih hinv hthreads

end LlmMax.EffectThreads
