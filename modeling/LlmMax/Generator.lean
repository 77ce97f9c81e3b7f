import Mathlib.Data.List.Basic
import Mathlib.Tactic

/-! Finite generators: values handed out one by one, until the body returns or raises. -/
namespace LlmMax.Generators

inductive Generator (ε α : Type)
  | done
  | raise (e : ε)
  | yield (a : α) (rest : Generator ε α)

variable {ε α β σ : Type}

namespace Generator

/-- What a consumer that asks to the end is handed. -/
def delivered : Generator ε α → List α
  | .done => []
  | .raise _ => []
  | .yield a rest => a :: rest.delivered

/-- What it is raised at the end, if anything. -/
def failure : Generator ε α → Option ε
  | .done => none
  | .raise e => some e
  | .yield _ rest => rest.failure

/-- A body that yields a value for each one it is handed. -/
def map (f : α → β) : Generator ε α → Generator ε β
  | .done => .done
  | .raise e => .raise e
  | .yield a rest => .yield (f a) (rest.map f)

/-- `except` around the whole body. -/
def handle (handler : ε → Generator ε α) : Generator ε α → Generator ε α
  | .done => .done
  | .raise e => handler e
  | .yield a rest => .yield a (rest.handle handler)

/-- A loop over the generator, which ends early if its body raises. -/
def forEach (body : σ → α → σ × Option ε) (s : σ) : Generator ε α → σ × Option ε
  | .done => (s, none)
  | .raise e => (s, some e)
  | .yield a rest =>
    match (body s a).2 with
    | some e => ((body s a).1, some e)
    | none => rest.forEach body (body s a).1

@[simp] lemma delivered_map (f : α → β) (g : Generator ε α) :
    (g.map f).delivered = g.delivered.map f := by
  induction g with
  | done => rfl
  | raise e => rfl
  | yield a rest ih => simp [map, delivered, ih]

@[simp] lemma failure_map (f : α → β) (g : Generator ε α) : (g.map f).failure = g.failure := by
  induction g with
  | done => rfl
  | raise e => rfl
  | yield a rest ih => simp [map, failure, ih]

/-- What the handler yields follows what was yielded before the exception. -/
lemma delivered_handle (handler : ε → Generator ε α) (g : Generator ε α) :
    (g.handle handler).delivered =
      g.delivered ++ g.failure.elim [] fun e => (handler e).delivered := by
  induction g with
  | done => rfl
  | raise e => rfl
  | yield a rest ih => simp [handle, delivered, failure, ih]

/-- What the body keeps, the loop keeps. -/
lemma forEach_keeps {body : σ → α → σ × Option ε} {P : σ → Prop}
    (hbody : ∀ s a, P s → P (body s a).1) (g : Generator ε α) {s : σ} (h : P s) :
    P (g.forEach body s).1 := by
  induction g generalizing s with
  | done => exact h
  | raise e => exact h
  | yield a rest ih =>
    have hstep := hbody s a h
    unfold forEach
    split
    · exact hstep
    · exact ih hstep

/-- A loop that raises nothing has asked to the end, and nothing was raised there. -/
lemma failure_of_forEach {body : σ → α → σ × Option ε} {g : Generator ε α} {s : σ}
    (h : (g.forEach body s).2 = none) : g.failure = none := by
  induction g generalizing s with
  | done => rfl
  | raise e => cases h
  | yield a rest ih =>
    unfold forEach at h
    split at h
    · cases h
    · exact ih h

end Generator

end LlmMax.Generators
