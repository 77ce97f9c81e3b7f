import Mathlib.Algebra.Order.Group.Defs
import Mathlib.Data.List.Basic
import Mathlib.Tactic

/-! Histories of events, oldest first: properties of each event relative to the earlier
ones, and the limiter that admits an event only while few enough were recorded in the
window that ends at its check. -/
namespace LlmMax.History

/-- Every entry of a history satisfies `P` relative to the entries before it;
the first argument is what had happened before the history began. -/
def Each {τ : Type} (P : List τ → τ → Prop) : List τ → List τ → Prop
  | _, [] => True
  | past, x :: xs => P past x ∧ Each P (past ++ [x]) xs

section each
variable {τ : Type} {P : List τ → τ → Prop}

theorem each_append (past xs ys : List τ) :
    Each P past (xs ++ ys) ↔ Each P past xs ∧ Each P (past ++ xs) ys := by
  induction xs generalizing past with
  | nil => simp [Each]
  | cons x xs ih => simp [Each, ih, and_assoc]

theorem each_iff {past xs : List τ} :
    Each P past xs ↔ ∀ pre x post, xs = pre ++ x :: post → P (past ++ pre) x := by
  constructor
  · rintro h pre x post rfl
    rw [each_append] at h
    exact h.2.1
  · intro h
    induction xs generalizing past with
    | nil => trivial
    | cons x xs ih =>
      refine ⟨by simpa using h [] x xs rfl, ih fun pre y post hxs => ?_⟩
      simpa using h (x :: pre) y post (by simp [hxs])

theorem Each.imp {Q : List τ → τ → Prop} {past xs : List τ} (h : Each P past xs)
    (hPQ : ∀ past x, P past x → Q past x) : Each Q past xs := by
  induction xs generalizing past with
  | nil => trivial
  | cons x xs ih => exact ⟨hPQ _ _ h.1, ih h.2⟩

theorem each_of_forall {past xs : List τ} (h : ∀ past', ∀ x ∈ xs, P past' x) : Each P past xs :=
  each_iff.mpr fun pre x post hxs => h _ x (by simp [hxs])

/-- Two properties hold along the same histories if an invariant of the past makes them agree on
the next event, and the second one keeps the invariant. -/
theorem each_congr {Q : List τ → τ → Prop} (Inv : List τ → Prop) {past xs : List τ} (hpast : Inv past)
    (step : ∀ pre x post, xs = pre ++ x :: post → Inv (past ++ pre) →
      (P (past ++ pre) x ↔ Q (past ++ pre) x) ∧ (Q (past ++ pre) x → Inv (past ++ pre ++ [x]))) :
    Each P past xs ↔ Each Q past xs := by
  induction xs generalizing past with
  | nil => exact Iff.rfl
  | cons x xs ih =>
    obtain ⟨hiff, hkeep⟩ := step [] x xs rfl (by simpa using hpast)
    rw [List.append_nil] at hiff hkeep
    unfold Each
    rw [hiff]
    apply and_congr_right
    intro hx
    apply ih (hkeep hx)
    intro pre y post hsplit hinv
    have hnext := step (x :: pre) y post (by rw [hsplit, List.cons_append])
    rw [← List.append_cons] at hinv ⊢
    exact hnext hinv

instance Each.instDecidable [∀ past x, Decidable (P past x)] :
    ∀ past xs, Decidable (Each P past xs)
  | _, [] => .isTrue trivial
  | past, x :: xs =>
    have := Each.instDecidable (past ++ [x]) xs
    inferInstanceAs (Decidable (P past x ∧ Each P (past ++ [x]) xs))

end each

section window
variable {T τ : Type} [AddCommGroup T] [LinearOrder T]
variable (times : τ → List T)

/-- How many of the recorded times are not before the cutoff. -/
def countSince (past : List τ) (cutoff : T) : ℕ :=
  (past.flatMap times).countP fun time => cutoff ≤ time

/-- Some time of the event lies in the closed window of that width. -/
def Within (width start : T) (e : τ) : Prop :=
  ∃ time ∈ times e, start ≤ time ∧ time ≤ start + width

instance (width start : T) (e : τ) : Decidable (Within times width start e) :=
  inferInstanceAs (Decidable (∃ time ∈ times e, start ≤ time ∧ time ≤ start + width))

/-- An admitted event was checked no later than it was recorded, and at the check fewer
than the limit of earlier times lay in the window. -/
def Guarded (admitted : τ → Prop) (limit : ℕ) (width : T) (past : List τ) (e : τ) : Prop :=
  admitted e → ∃ check time, times e = [time] ∧ check ≤ time ∧
    countSince times past (check - width) < limit

variable {times} {admitted : τ → Prop} [DecidablePred admitted] {limit : ℕ} {width : T}

lemma countP_within_le (past : List τ) {start cutoff : T} (h : cutoff ≤ start) :
    past.countP (fun e => admitted e ∧ Within times width start e) ≤
      countSince times past cutoff := by
  induction past with
  | nil => simp [countSince]
  | cons e past ih =>
    have hcount : countSince times (e :: past) cutoff =
        (times e).countP (fun time => cutoff ≤ time) + countSince times past cutoff := by
      simp [countSince]
    rw [hcount, List.countP_cons]
    split_ifs with he
    · obtain ⟨-, time, htime, hstart, -⟩ := of_decide_eq_true he
      have hpos : 0 < (times e).countP fun time => cutoff ≤ time :=
        List.countP_pos_iff.mpr ⟨time, htime, by simpa using h.trans hstart⟩
      omega
    · omega

/-- No closed window of the width ever holds more than the limit of admitted events,
whatever other events are recorded and however the times run back in between. -/
theorem within_le_limit [IsOrderedAddMonoid T] {history : List τ} (h : Each (Guarded times admitted limit width) [] history)
    (start : T) :
    history.countP (fun e => admitted e ∧ Within times width start e) ≤ limit := by
  induction history using List.reverseRecOn with
  | nil => simp
  | append_singleton past e ih =>
    rw [each_append] at h
    obtain ⟨hpast, he, -⟩ := h
    have hle := ih hpast
    rw [List.countP_append, List.countP_singleton]
    split_ifs with hin
    · obtain ⟨hadm, time, htime, hstart, hend⟩ := of_decide_eq_true hin
      obtain ⟨check, time', htimes, hcheck, hroom⟩ := he hadm
      rw [htimes, List.mem_singleton] at htime
      subst htime
      have hcut : check - width ≤ start := by
        rw [sub_le_iff_le_add]
        exact hcheck.trans hend
      have hpast : past.countP (fun e => admitted e ∧ Within times width start e) ≤
          countSince times past (check - width) := countP_within_le past hcut
      rw [List.nil_append] at hroom
      omega
    · omega

end window

end LlmMax.History
