import Mathlib.Data.List.Basic
import Mathlib.Order.Defs.LinearOrder
import Mathlib.Tactic

/-! A register that is written with times and touched in between. It keeps the write of the latest
time, and of those the one made last; a touch changes what it keeps. -/
namespace LlmMax.TimedRegister

inductive Deed (T α : Type)
  | wrote (time : T) (value : α)
  | touched

variable {T α : Type}

def Deed.isTouch : Deed T α → Bool
  | .wrote _ _ => false
  | .touched => true

/-- The register has been touched. -/
def Touched (deeds : List (Deed T α)) : Bool := deeds.any Deed.isTouch

section register
variable [LinearOrder T] (touch : α → α)

def step (held : Option (T × α)) : Deed T α → Option (T × α)
  | .wrote time value =>
    match held with
    | none => some (time, value)
    | some (t, v) => if time < t then some (t, v) else some (time, value)
  | .touched => held.map fun h => (h.1, touch h.2)

/-- What the register keeps after the deeds, with the time of its write. -/
def kept (deeds : List (Deed T α)) : Option (T × α) := deeds.foldl (step touch) none

end register

/-- The write that stands: none before it has a later time, and all after it have earlier ones. -/
structure Stands [LinearOrder T] (deeds before : List (Deed T α)) (time : T) (value : α)
    (after : List (Deed T α)) : Prop where
  split : deeds = before ++ .wrote time value :: after
  earlier : ∀ t v, .wrote t v ∈ before → t ≤ time
  later : ∀ t v, .wrote t v ∈ after → t < time

lemma touched_concat (deeds : List (Deed T α)) (d : Deed T α) :
    Touched (deeds ++ [d]) = (Touched deeds || d.isTouch) := by
  simp [Touched]

section register
variable [LinearOrder T] {touch : α → α} {deeds before after : List (Deed T α)} {time : T} {value : α}

lemma kept_concat (deeds : List (Deed T α)) (d : Deed T α) :
    kept touch (deeds ++ [d]) = step touch (kept touch deeds) d := by
  simp [kept]

/-- A write is kept unless the register holds a later one. -/
lemma step_wrote (touch : α → α) (before : Option (T × α)) (time : T) (value : α) :
    (step touch before (.wrote time value) = some (time, value) ∧
      ∀ h, before = some h → h.1 ≤ time) ∨
    ∃ h, before = some h ∧ time < h.1 ∧ step touch before (.wrote time value) = some h := by
  cases before with
  | none => exact .inl ⟨rfl, fun h hh => by cases hh⟩
  | some h =>
    by_cases hlt : time < h.1
    · exact .inr ⟨h, rfl, hlt, if_pos hlt⟩
    · refine .inl ⟨if_neg hlt, fun h' hh' => ?_⟩
      cases hh'
      exact not_lt.mp hlt

/-- The time that is kept is that of a write. -/
lemma kept_mem {h : T × α} (hkept : kept touch deeds = some h) : ∃ v, .wrote h.1 v ∈ deeds := by
  induction deeds using List.reverseRecOn generalizing h with
  | nil => cases hkept
  | append_singleton deeds d ih =>
    rw [kept_concat] at hkept
    cases d with
    | wrote time value =>
      rcases step_wrote touch (kept touch deeds) time value with ⟨hstep, -⟩ | ⟨h', hbefore, -, hstep⟩
      · rw [hstep] at hkept
        cases hkept
        exact ⟨value, by simp⟩
      · rw [hstep] at hkept
        cases hkept
        obtain ⟨v, hv⟩ := ih hbefore
        exact ⟨v, List.mem_append_left _ hv⟩
    | touched =>
      obtain ⟨h', hbefore, he⟩ := Option.map_eq_some_iff.mp hkept
      cases he
      obtain ⟨v, hv⟩ := ih hbefore
      exact ⟨v, List.mem_append_left _ hv⟩

/-- No write is later than the one that is kept. -/
lemma le_kept {v : α} (hwrote : .wrote time v ∈ deeds) :
    ∃ h, kept touch deeds = some h ∧ time ≤ h.1 := by
  induction deeds using List.reverseRecOn with
  | nil => cases hwrote
  | append_singleton deeds d ih =>
    rw [kept_concat]
    cases d with
    | wrote t value =>
      rcases step_wrote touch (kept touch deeds) t value with ⟨hstep, hle⟩ | ⟨h, hbefore, hlt, hstep⟩
      · refine ⟨(t, value), hstep, ?_⟩
        rcases List.mem_append.mp hwrote with hin | hlast
        · obtain ⟨h, hh, htime⟩ := ih hin
          exact htime.trans (hle h hh)
        · cases List.mem_singleton.mp hlast
          exact le_rfl
      · refine ⟨h, hstep, ?_⟩
        rcases List.mem_append.mp hwrote with hin | hlast
        · obtain ⟨h', hh', htime⟩ := ih hin
          cases hbefore.symm.trans hh'
          exact htime
        · cases List.mem_singleton.mp hlast
          exact hlt.le
    | touched =>
      have hin : .wrote time v ∈ deeds := by simpa using hwrote
      obtain ⟨h, hh, htime⟩ := ih hin
      exact ⟨(h.1, touch h.2), by simp [step, hh], htime⟩

/-- The register keeps the write that stands, touched if a touch has come after it. -/
lemma Stands.kept_eq (htouch : ∀ v, touch (touch v) = touch v)
    (h : Stands deeds before time value after) :
    kept touch deeds = some (time, if Touched after then touch value else value) := by
  obtain ⟨rfl, hbefore, hafter⟩ := h
  induction after using List.reverseRecOn with
  | nil =>
    rw [kept_concat]
    rcases step_wrote touch (kept touch before) time value with ⟨hstep, -⟩ | ⟨h, hh, hlt, -⟩
    · exact hstep
    · obtain ⟨v, hv⟩ := kept_mem hh
      exact absurd hlt (not_lt.mpr (hbefore h.1 v hv))
  | append_singleton after d ih =>
    have hlast : before ++ .wrote time value :: (after ++ [d]) =
        (before ++ .wrote time value :: after) ++ [d] := by simp
    rw [hlast, kept_concat, ih fun t v hv => hafter t v (List.mem_append_left _ hv), touched_concat]
    cases d with
    | wrote t v =>
      have hlt : t < time := hafter t v (by simp)
      simp [step, hlt, Deed.isTouch]
    | touched => cases Touched after <;> simp [step, Deed.isTouch, htouch]

/-- If anything is kept, some write stands. -/
lemma exists_stands {h : T × α} (hkept : kept touch deeds = some h) :
    ∃ before value after, Stands deeds before h.1 value after := by
  induction deeds using List.reverseRecOn generalizing h with
  | nil => cases hkept
  | append_singleton deeds d ih =>
    have hstay {h' : T × α} (hbefore : kept touch deeds = some h') (htime : h'.1 = h.1)
        (hd : ∀ t v, d = .wrote t v → t < h.1) :
        ∃ before value after, Stands (deeds ++ [d]) before h.1 value after := by
      rw [← htime] at hd ⊢
      obtain ⟨before, value, after, hsplit, hearlier, hlater⟩ := ih hbefore
      refine ⟨before, value, after ++ [d], by simp [hsplit], hearlier, fun t v hv => ?_⟩
      rcases List.mem_append.mp hv with hv | hv
      · exact hlater t v hv
      · exact hd t v (List.mem_singleton.mp hv).symm
    rw [kept_concat] at hkept
    cases d with
    | wrote time value =>
      rcases step_wrote touch (kept touch deeds) time value with ⟨hstep, hle⟩ | ⟨h', hbefore, hlt, hstep⟩
      · rw [hstep] at hkept
        cases hkept
        refine ⟨deeds, value, [], rfl, fun t v hv => ?_, by simp⟩
        obtain ⟨h', hh', htime⟩ := le_kept hv
        exact htime.trans (hle h' hh')
      · rw [hstep] at hkept
        cases hkept
        refine hstay hbefore rfl fun t v he => ?_
        cases he
        exact hlt
    | touched =>
      obtain ⟨h', hbefore, he⟩ := Option.map_eq_some_iff.mp hkept
      cases he
      exact hstay hbefore rfl fun t v he => by cases he

/-- What the register keeps is the write that stands, touched or not. -/
theorem kept_eq_some_iff (htouch : ∀ v, touch (touch v) = touch v) {h : T × α} :
    kept touch deeds = some h ↔ ∃ before value after, Stands deeds before h.1 value after ∧
      h.2 = if Touched after then touch value else value := by
  constructor
  · intro hkept
    obtain ⟨before, value, after, hstands⟩ := exists_stands hkept
    refine ⟨before, value, after, hstands, ?_⟩
    rw [hstands.kept_eq htouch, Option.some.injEq] at hkept
    rw [← hkept]
  · intro hstands
    obtain ⟨before, value, after, hstands, hvalue⟩ := hstands
    rw [hstands.kept_eq htouch, ← hvalue]

end register

end LlmMax.TimedRegister
