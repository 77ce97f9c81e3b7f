import Mathlib.Data.List.Basic
import Mathlib.Tactic

/-! A client that may send one request several times. The server handles what reaches it, and the
client takes the first reply that it gets. -/
namespace LlmMax.Resending

inductive Attempt
  /-- The request does not get to the server. -/
  | notReached
  /-- The server handles the request, and the client does not get the reply. -/
  | replyLost
  | answered
  deriving DecidableEq

variable {ρ σ α : Type}

/-- What the client gets, and the server after it. A server that ends without a reply is like one
whose reply is lost. -/
def send (handle : σ → Option ρ × σ) : List Attempt → σ → Option ρ × σ
  | [], s => (none, s)
  | .notReached :: rest, s => send handle rest s
  | .replyLost :: rest, s => send handle rest (handle s).2
  | .answered :: rest, s =>
    match handle s with
    | (some reply, s') => (some reply, s')
    | (none, s') => send handle rest s'

/-- How often the request gets to the server at most. -/
def reached (attempts : List Attempt) : ℕ := attempts.countP (· ≠ .notReached)

/-- The effect, that many times. -/
inductive Repeated (Effect : α → α → Prop) : ℕ → α → α → Prop
  | zero (a : α) : Repeated Effect 0 a a
  | succ {n : ℕ} {a b c : α} (h : Effect a b) (hrest : Repeated Effect n b c) :
    Repeated Effect (n + 1) a c

/-- What has happened at the server when the client stops: the effect at most once for each
unanswered handling, and then the handling that is answered. -/
def Delivered (handle : σ → Option ρ × σ) (view : σ → α) (Effect : α → α → Prop) (most : ℕ)
    (s : σ) : Option ρ × σ → Prop
  | (some reply, s') => ∃ n s₁, Repeated Effect n (view s) (view s₁) ∧ n + 1 ≤ most ∧
      handle s₁ = (some reply, s')
  | (none, s') => ∃ n, Repeated Effect n (view s) (view s') ∧ n ≤ most

section send
variable {handle : σ → Option ρ × σ} {view : σ → α} {Effect : α → α → Prop}

lemma Repeated.snoc {n : ℕ} {a b c : α} (h : Repeated Effect n a b) (hlast : Effect b c) :
    Repeated Effect (n + 1) a c := by
  induction h with
  | zero a => exact .succ hlast (.zero c)
  | succ hfirst _ ih => exact .succ hfirst (ih hlast)

lemma Repeated.unchanged {n : ℕ} {a b : α} (h : Repeated Effect n a b)
    (hnone : ∀ a b, ¬ Effect a b) : b = a := by
  cases h with
  | zero a => rfl
  | succ heffect _ => exact absurd heffect (hnone _ _)

lemma Delivered.later {most most' : ℕ} {s : σ} {out : Option ρ × σ} (hle : most ≤ most')
    (h : Delivered handle view Effect most s out) : Delivered handle view Effect most' s out := by
  rcases out with ⟨_ | reply, s'⟩
  · obtain ⟨n, hn, hmost⟩ := h
    exact ⟨n, hn, by omega⟩
  · obtain ⟨n, s₁, hn, hmost, hlast⟩ := h
    exact ⟨n, s₁, hn, by omega, hlast⟩

/-- One unanswered handling before the others. -/
lemma Delivered.after {most : ℕ} {s s₁ : σ} {out : Option ρ × σ}
    (hstep : view s₁ = view s ∨ Effect (view s) (view s₁))
    (h : Delivered handle view Effect most s₁ out) :
    Delivered handle view Effect (most + 1) s out := by
  rcases hstep with hsame | heffect
  · rcases out with ⟨_ | reply, s'⟩
    · obtain ⟨n, hn, hmost⟩ := h
      exact ⟨n, hsame ▸ hn, by omega⟩
    · obtain ⟨n, s₂, hn, hmost, hlast⟩ := h
      exact ⟨n, s₂, hsame ▸ hn, by omega, hlast⟩
  · rcases out with ⟨_ | reply, s'⟩
    · obtain ⟨n, hn, hmost⟩ := h
      exact ⟨n + 1, .succ heffect hn, by omega⟩
    · obtain ⟨n, s₂, hn, hmost, hlast⟩ := h
      exact ⟨n + 1, s₂, .succ heffect hn, by omega, hlast⟩

/-- A server whose handling has at most the one effect. -/
theorem send_delivered (h : ∀ s, view (handle s).2 = view s ∨ Effect (view s) (view (handle s).2))
    (attempts : List Attempt) (s : σ) :
    Delivered handle view Effect (reached attempts) s (send handle attempts s) := by
  induction attempts generalizing s with
  | nil => exact ⟨0, .zero _, le_rfl⟩
  | cons attempt rest ih =>
    cases attempt with
    | notReached =>
      apply (ih s).later
      simp [reached]
    | replyLost =>
      apply ((ih _).after (h s)).later
      simp [reached]
    | answered =>
      have hmost : reached (.answered :: rest) = reached rest + 1 := by simp [reached]
      rw [hmost, send]
      cases hlast : handle s with
      | mk reply s' =>
        cases reply with
        | none =>
          have hs := h s
          rw [hlast] at hs
          exact (ih s').after hs
        | some reply => exact ⟨0, s, .zero _, by omega, hlast⟩

end send

end LlmMax.Resending
