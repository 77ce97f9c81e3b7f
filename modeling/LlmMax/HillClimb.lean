import Mathlib.Data.Finset.Card
import Mathlib.Data.List.Nodup
import Mathlib.Tactic

/-! A climb goes from a point to a better one, as long as the terrain offers one. It never
comes back to a point, and on finitely many points it ends. -/
namespace LlmMax.HillClimb

variable {X R : Type} (climb : X → Option X)

/-- The points reached one after the other, from the start on. -/
def Path : X → List X → Prop
  | _, [] => True
  | x, y :: ys => climb x = some y ∧ Path y ys

/-- Every step of a climb goes up. -/
def Ascends [LT R] (rank : X → R) : Prop := ∀ x y, climb x = some y → rank x < rank y

/-- No step leaves the set. -/
def Closed (S : Finset X) : Prop := ∀ x ∈ S, ∀ y, climb x = some y → y ∈ S

variable {climb} {x : X} {ys : List X}

theorem Path.rank_lt [Preorder R] {rank : X → R} (hrank : Ascends climb rank)
    (hpath : Path climb x ys) : ∀ y ∈ ys, rank x < rank y := by
  induction ys generalizing x with
  | nil =>
    intro y hy
    cases hy
  | cons z ys ih =>
    obtain ⟨hstep, hrest⟩ := hpath
    have hz := hrank x z hstep
    intro y hy
    rcases List.mem_cons.mp hy with rfl | hy
    · exact hz
    · exact hz.trans (ih hrest y hy)

theorem Path.nodup [Preorder R] {rank : X → R} (hrank : Ascends climb rank)
    (hpath : Path climb x ys) : ys.Nodup := by
  induction ys generalizing x with
  | nil => exact List.nodup_nil
  | cons z ys ih =>
    obtain ⟨-, hrest⟩ := hpath
    refine List.nodup_cons.mpr ⟨fun hz => ?_, ih hrest⟩
    exact lt_irrefl _ (hrest.rank_lt hrank z hz)

theorem Path.mem {S : Finset X} (hclosed : Closed climb S) (hx : x ∈ S) (hpath : Path climb x ys) :
    ∀ y ∈ ys, y ∈ S := by
  induction ys generalizing x with
  | nil =>
    intro y hy
    cases hy
  | cons z ys ih =>
    obtain ⟨hstep, hrest⟩ := hpath
    have hz := hclosed x hx z hstep
    exact List.forall_mem_cons.mpr ⟨hz, ih hz hrest⟩

/-- A climb within a finite set has at most as many steps as the set has points. -/
theorem Path.length_le [Preorder R] {rank : X → R} {S : Finset X} (hrank : Ascends climb rank)
    (hclosed : Closed climb S) (hx : x ∈ S) (hpath : Path climb x ys) : ys.length ≤ S.card := by
  classical
  rw [← List.toFinset_card_of_nodup (hpath.nodup hrank)]
  apply Finset.card_le_card
  intro y hy
  exact hpath.mem hclosed hx y (List.mem_toFinset.mp hy)

end LlmMax.HillClimb
