import Mathlib.Data.List.Sort
import Mathlib.Data.List.Forall2
import Mathlib.Tactic

/-! What a sort keeps of its input: pointwise larger lists are pointwise larger once sorted,
and the first find in a list sorted by a key is the earliest one of least key. -/
namespace LlmMax.SortedLists

section pointwise
variable {α : Type} [LinearOrder α] {a a' : α} {xs ys : List α}

lemma orderedInsert_of_least (h : ∀ x ∈ xs, a ≤ x) : xs.orderedInsert (· ≤ ·) a = a :: xs := by
  induction xs with
  | nil => rfl
  | cons x xs ih => exact List.orderedInsert_cons_of_le _ _ (h x List.mem_cons_self)

lemma forall₂_orderedInsert (h : List.Forall₂ (· ≤ ·) xs ys) (hxs : xs.Pairwise (· ≤ ·))
    (hys : ys.Pairwise (· ≤ ·)) (ha : a ≤ a') :
    List.Forall₂ (· ≤ ·) (xs.orderedInsert (· ≤ ·) a) (ys.orderedInsert (· ≤ ·) a') := by
  induction h generalizing a a' with
  | nil => simpa using ha
  | @cons x y xs ys hxy hrest ih =>
    obtain ⟨hx, hxs⟩ := List.pairwise_cons.mp hxs
    obtain ⟨hy, hys⟩ := List.pairwise_cons.mp hys
    simp only [List.orderedInsert_cons]
    split_ifs with hax hay hay
    · exact .cons ha (.cons hxy hrest)
    · -- the larger one moves on, and the heads of the two lists stay apart
      have hlater := ih hxs hys (hxy.trans (not_le.mp hay).le)
      rw [orderedInsert_of_least hx] at hlater
      exact .cons (hax.trans hxy) hlater
    · have hlater := ih hxs hys (ha.trans hay)
      rw [orderedInsert_of_least hy] at hlater
      exact .cons ((not_le.mp hax).le.trans ha) hlater
    · exact .cons hxy (ih hxs hys ha)

theorem forall₂_insertionSort (h : List.Forall₂ (· ≤ ·) xs ys) :
    List.Forall₂ (· ≤ ·) (xs.insertionSort (· ≤ ·)) (ys.insertionSort (· ≤ ·)) := by
  induction h with
  | nil => exact .nil
  | @cons x y xs ys hxy _ ih =>
    have hxs := List.pairwise_insertionSort (· ≤ ·) xs
    have hys := List.pairwise_insertionSort (· ≤ ·) ys
    exact forall₂_orderedInsert ih hxs hys hxy

end pointwise

section stable
variable {α β : Type} [LinearOrder α] {key : β → α} {xs : List β} {a b : β}

/-- In a list without duplicates two members stand in one order only. -/
lemma not_pair_both (hxs : xs.Nodup) (hab : [a, b].Sublist xs) : ¬ [b, a].Sublist xs := by
  induction xs with
  | nil => cases hab
  | cons x xs ih =>
    obtain ⟨hx, hxs⟩ := List.nodup_cons.mp hxs
    intro hba
    cases hab with
    | cons _ hab =>
      cases hba with
      | cons _ hba => exact ih hxs hab hba
      | cons_cons _ hba => exact hx (hab.subset (by simp))
    | cons_cons _ hb =>
      cases hba with
      | cons _ hba => exact hx (hba.subset (by simp))
      | cons_cons _ ha => exact hx (ha.subset (by simp))

lemma pair_or_pair (ha : a ∈ xs) (hb : b ∈ xs) (hne : a ≠ b) :
    [a, b].Sublist xs ∨ [b, a].Sublist xs := by
  induction xs with
  | nil => cases ha
  | cons x xs ih =>
    rcases List.mem_cons.mp ha with rfl | ha'
    · have hb' := (List.mem_cons.mp hb).resolve_left hne.symm
      exact .inl ((List.singleton_sublist.mpr hb').cons_cons a)
    · rcases List.mem_cons.mp hb with rfl | hb'
      · exact .inr ((List.singleton_sublist.mpr ha').cons_cons b)
      · rcases ih ha' hb' with h | h
        · exact .inl (h.cons x)
        · exact .inr (h.cons x)

variable (key xs) in
/-- The list sorted by the key; entries of one key stay in their order. -/
def sortByKey : List β := xs.insertionSort fun a b => key a ≤ key b

variable (key) in
lemma mem_sortByKey : a ∈ sortByKey key xs ↔ a ∈ xs := List.mem_insertionSort _

/-- One entry stands before another one if its key is less, or is the same and it stood before. -/
theorem pair_sortByKey_iff (hxs : xs.Nodup) (ha : a ∈ xs) (hb : b ∈ xs) (hne : a ≠ b) :
    [a, b].Sublist (sortByKey key xs) ↔
      key a < key b ∨ key a = key b ∧ [a, b].Sublist xs := by
  have hle {a b : β} (h : [a, b].Sublist (sortByKey key xs)) : key a ≤ key b := by
    have hsorted := (List.pairwise_insertionSort (fun a b => key a ≤ key b) xs).sublist h
    exact List.rel_of_pairwise_cons hsorted List.mem_cons_self
  have hkept {a b : β} (hab : key a ≤ key b) (h : [a, b].Sublist xs) :
      [a, b].Sublist (sortByKey key xs) :=
    List.pair_sublist_insertionSort (r := fun a b => key a ≤ key b) hab h
  have hnodup : (sortByKey key xs).Nodup := (List.perm_insertionSort _ xs).nodup_iff.mpr hxs
  constructor
  · intro h
    rcases (hle h).lt_or_eq with hlt | heq
    · exact .inl hlt
    · rcases pair_or_pair ha hb hne with hab | hba
      · exact .inr ⟨heq, hab⟩
      · exact absurd (hkept (le_of_eq heq.symm) hba) (not_pair_both hnodup h)
  · intro h
    rcases h with hlt | ⟨heq, hab⟩
    · rcases pair_or_pair ((mem_sortByKey key).mpr ha) ((mem_sortByKey key).mpr hb) hne with hab | hba
      · exact hab
      · exact absurd (hle hba) (not_le.mpr hlt)
    · exact hkept heq.le hab

/-- What is found first in the sorted list stands before everything else that could be. -/
theorem find?_sortByKey_iff (hxs : xs.Nodup) {p : β → Bool} :
    (sortByKey key xs).find? p = some a ↔ a ∈ xs ∧ p a ∧
      ∀ b ∈ xs, p b → b ≠ a → key a < key b ∨ key a = key b ∧ [a, b].Sublist xs := by
  have hnodup : (sortByKey key xs).Nodup := (List.perm_insertionSort _ xs).nodup_iff.mpr hxs
  rw [List.find?_eq_some_iff_append]
  constructor
  · intro h
    obtain ⟨hp, before, after, hsplit, hbefore⟩ := h
    have ha : a ∈ xs := by
      rw [← mem_sortByKey key, hsplit]
      simp
    refine ⟨ha, hp, ?_⟩
    intro b hb hpb hne
    rw [← pair_sortByKey_iff hxs ha hb hne.symm, hsplit]
    have hmem : b ∈ before ++ a :: after := by
      rw [← hsplit]
      exact (mem_sortByKey key).mpr hb
    rcases List.mem_append.mp hmem with hmem | hmem
    · have hnot := hbefore b hmem
      simp [hpb] at hnot
    · have hafter := (List.mem_cons.mp hmem).resolve_left hne
      exact ((List.singleton_sublist.mpr hafter).cons_cons a).trans (List.sublist_append_right _ _)
  · intro h
    obtain ⟨ha, hp, hfirst⟩ := h
    obtain ⟨before, after, hsplit⟩ := List.append_of_mem ((mem_sortByKey key).mpr ha)
    refine ⟨hp, before, after, hsplit, ?_⟩
    intro b hb
    by_contra hpb
    have hpb : p b = true := by simpa using hpb
    have hba : [b, a].Sublist (sortByKey key xs) := by
      rw [hsplit]
      exact (List.singleton_sublist.mpr hb).append (List.singleton_sublist.mpr List.mem_cons_self)
    have hne : b ≠ a := by
      rintro rfl
      exact not_pair_both hnodup hba hba
    have hmem : b ∈ xs := (mem_sortByKey key).mp (hba.subset (by simp))
    have hab := (pair_sortByKey_iff hxs ha hmem hne.symm).mpr (hfirst b hmem hpb hne)
    exact not_pair_both hnodup hab hba

end stable

end LlmMax.SortedLists
