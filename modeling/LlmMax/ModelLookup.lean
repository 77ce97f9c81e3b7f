import LlmMax.HardwareVerdict

/-! Looking a model up by its id: in catalog order by the exact id, and in the web backend
among the verdicts, best fit first, whatever the case of the letters. -/
namespace LlmMax.ModelLookup
open Domain Catalog Compatibility SortedLists

/-- The first model of that id in catalog order. -/
def findModelSpec (catalog : List ModelSpec) (modelId : String) : Option ModelSpec :=
  catalog.find? fun m => m.id == modelId

/-- `fold` is what the comparison makes of a character, upper case and then lower case. -/
def equalsIgnoreCase (fold : Char → Char) (a b : String) : Bool :=
  a.toList.map fold == b.toList.map fold

lemma equalsIgnoreCase_symm {fold : Char → Char} {a b : String} (h : equalsIgnoreCase fold a b) :
    equalsIgnoreCase fold b a := by
  simp only [equalsIgnoreCase, beq_iff_eq] at h ⊢
  exact h.symm

structure ResponseStatusException where
  status : ℕ
  reason : String
  deriving DecidableEq

/-- `GET /models/{modelId}` over the list of verdicts. -/
def hardwareModel (fold : Char → Char) (models : List ModelCompatibility) (modelId : String) :
    Except ResponseStatusException ModelCompatibility :=
  match models.find? fun item => equalsIgnoreCase fold item.model.id modelId with
  | some item => .ok item
  | none => .error { status := 404, reason := "Model '" ++ modelId ++ "' not found" }

/-- Every lookup of the entry's id returns the entry. -/
def FoundEverywhere (fold : Char → Char) (catalog : List ModelSpec) (hw : HardwareProfile)
    (entry : ModelSpec) : Prop :=
  findModelSpec catalog entry.id = some entry ∧
    (hardwareModel fold (classifyAll catalog hw) entry.id).map (·.model) = .ok entry

variable {fold : Char → Char} {catalog : List ModelSpec} {hw : HardwareProfile}
  {entry other : ModelSpec}

lemma findModelSpec_self (hids : (catalog.map ModelSpec.id).Nodup) (h : entry ∈ catalog) :
    findModelSpec catalog entry.id = some entry := by
  unfold findModelSpec
  induction catalog with
  | nil => cases h
  | cons m catalog ih =>
    obtain ⟨hm, hids⟩ := List.nodup_cons.mp hids
    rcases List.mem_cons.mp h with rfl | h
    · simp
    · have hne : m.id ≠ entry.id := by
        intro heq
        exact hm (heq ▸ List.mem_map_of_mem h)
      rw [List.find?_cons_of_neg (by simpa using hne)]
      exact ih hids h

/-- The verdict on the entry stands before that on the other one. -/
def Precedes (catalog : List ModelSpec) (hw : HardwareProfile) (entry other : ModelSpec) : Prop :=
  tierSortOrder (classify entry hw).tier < tierSortOrder (classify other hw).tier ∨
    tierSortOrder (classify entry hw).tier = tierSortOrder (classify other hw).tier ∧
      [entry, other].Sublist catalog

lemma hardwareModel_ok_iff {models : List ModelCompatibility} {modelId : String} :
    (hardwareModel fold models modelId).map (·.model) = .ok entry ↔
      ∃ item, models.find? (fun item => equalsIgnoreCase fold item.model.id modelId) = some item ∧
        item.model = entry := by
  unfold hardwareModel
  cases models.find? fun item => equalsIgnoreCase fold item.model.id modelId <;>
    simp [Except.map]

lemma classify_injective : Function.Injective fun m => classify m hw := by
  intro m m' h
  simpa using congrArg ModelCompatibility.model h

lemma precedes_of_verdicts
    (h : tierSortOrder (classify entry hw).tier < tierSortOrder (classify other hw).tier ∨
      tierSortOrder (classify entry hw).tier = tierSortOrder (classify other hw).tier ∧
        [classify entry hw, classify other hw].Sublist (catalog.map fun m => classify m hw)) :
    Precedes catalog hw entry other := by
  rcases h with hlt | ⟨heq, hsub⟩
  · exact .inl hlt
  · -- every verdict names its model, so the order of the verdicts is that of the models
    exact .inr ⟨heq, by simpa [Function.comp_def] using hsub.map ModelCompatibility.model⟩

/-- The backend returns the entry if its verdict stands before that on every id like it. -/
lemma hardwareModel_self_iff (hnodup : catalog.Nodup) (h : entry ∈ catalog) :
    (hardwareModel fold (classifyAll catalog hw) entry.id).map (·.model) = .ok entry ↔
      ∀ other ∈ catalog, equalsIgnoreCase fold other.id entry.id → other ≠ entry →
        Precedes catalog hw entry other := by
  have hverdicts : (catalog.map fun m => classify m hw).Nodup := hnodup.map classify_injective
  rw [hardwareModel_ok_iff]
  unfold classifyAll
  constructor
  · intro hfound
    obtain ⟨item, hitem, hmodel⟩ := hfound
    obtain ⟨hmem, -, hfirst⟩ := (find?_sortByKey_iff hverdicts).mp hitem
    obtain ⟨m, -, rfl⟩ := List.mem_map.mp hmem
    obtain rfl : m = entry := by simpa using hmodel
    intro other hother hlike hne
    exact precedes_of_verdicts <| hfirst (classify other hw) (List.mem_map_of_mem hother)
      (by simpa using hlike) (classify_injective.ne hne)
  · intro hbefore
    refine ⟨classify entry hw, (find?_sortByKey_iff hverdicts).mpr ⟨List.mem_map_of_mem h, ?_, ?_⟩,
      classify_model entry hw⟩
    · simp [equalsIgnoreCase]
    · intro item hitem hlike hne
      obtain ⟨other, hother, rfl⟩ := List.mem_map.mp hitem
      have hdifferent : other ≠ entry := by
        rintro rfl
        exact hne rfl
      rcases hbefore other hother (by simpa using hlike) hdifferent with hlt | ⟨heq, hsub⟩
      · exact .inl hlt
      · exact .inr ⟨heq, hsub.map fun m => classify m hw⟩

lemma not_precedes_both (hnodup : catalog.Nodup) (h : Precedes catalog hw entry other) :
    ¬ Precedes catalog hw other entry := by
  intro hback
  rcases h with hlt | ⟨heq, hsub⟩
  · rcases hback with hlt' | ⟨heq', -⟩ <;> omega
  · rcases hback with hlt' | ⟨-, hsub'⟩
    · omega
    · exact not_pair_both hnodup hsub hsub'

/-- The lookups of an entry agree exactly if its verdict stands before that on every other id
equal to it but for case; all entries are found exactly if there are no such ids. -/
theorem foundEverywhere_iff {entries : List (Entry String ℚ)}
    (hload : loadCatalog entries = .ok catalog) (fold : Char → Char) (hw : HardwareProfile) :
    (∀ entry ∈ catalog, FoundEverywhere fold catalog hw entry ↔
      ∀ other ∈ catalog, equalsIgnoreCase fold other.id entry.id → other ≠ entry →
        Precedes catalog hw entry other) ∧
    ((∀ entry ∈ catalog, FoundEverywhere fold catalog hw entry) ↔
      ∀ entry ∈ catalog, ∀ other ∈ catalog,
        equalsIgnoreCase fold other.id entry.id → other = entry) := by
  obtain ⟨hids, -⟩ := loadCatalog_valid hload
  have hnodup : catalog.Nodup := hids.of_map
  have heach : ∀ entry ∈ catalog, FoundEverywhere fold catalog hw entry ↔
      ∀ other ∈ catalog, equalsIgnoreCase fold other.id entry.id → other ≠ entry →
        Precedes catalog hw entry other := by
    intro entry hentry
    simp only [FoundEverywhere, findModelSpec_self hids hentry, true_and]
    exact hardwareModel_self_iff hnodup hentry
  refine ⟨heach, ?_⟩
  constructor
  · intro hall entry hentry other hother hlike
    by_contra hne
    have hlike' := equalsIgnoreCase_symm hlike
    have hfirst := (heach entry hentry).mp (hall entry hentry) other hother hlike hne
    have hback := (heach other hother).mp (hall other hother) entry hentry hlike' (Ne.symm hne)
    exact not_precedes_both hnodup hfirst hback
  · intro hdistinct entry hentry
    rw [heach entry hentry]
    intro other hother hlike hne
    exact absurd (hdistinct entry hentry other hother hlike) hne

def rawEntry (id : String) (minVramMb recommendedVramMb : ℚ) : Entry String ℚ where
  id := some id
  displayName := some "Llama 3"
  family := some "llama3"
  paramSizeB := some 8
  minVramMb := some minVramMb
  recommendedVramMb := some recommendedVramMb
  minRamMb := some 12000

def spec (id : String) (minVramMb recommendedVramMb : ℤ) : ModelSpec where
  id := id
  paramSizeB := 8
  minVramMb := minVramMb
  recommendedVramMb := recommendedVramMb
  minRamMb := 12000

def twoCases : List (Entry String ℚ) := [rawEntry "Llama3" 6000 9000, rawEntry "llama3" 4000 5000]

lemma loadCatalog_twoCases :
    loadCatalog twoCases = .ok [spec "Llama3" 6000 9000, spec "llama3" 4000 5000] := by
  rfl

/-- The smaller model is found in place of the one whose id is written with a capital. -/
theorem foundElsewhere : ¬ ∀ (entries : List (Entry String ℚ)) (catalog : List ModelSpec)
    (hw : HardwareProfile), loadCatalog entries = .ok catalog →
      ∀ entry ∈ catalog, FoundEverywhere Char.toLower catalog hw entry := by
  intro h
  have hwrong : ¬ FoundEverywhere Char.toLower
      [spec "Llama3" 6000 9000, spec "llama3" 4000 5000] (HardwareVerdict.withGpu 5000)
      (spec "Llama3" 6000 9000) := by
    rintro ⟨-, hfound⟩
    revert hfound
    decide +kernel
  exact hwrong (h twoCases _ (HardwareVerdict.withGpu 5000) loadCatalog_twoCases _
    List.mem_cons_self)

theorem foundEverywhere_smaller : FoundEverywhere Char.toLower
    [spec "Llama3" 6000 9000, spec "llama3" 4000 5000] (HardwareVerdict.withGpu 5000)
    (spec "llama3" 4000 5000) := by
  apply ((foundEverywhere_iff loadCatalog_twoCases Char.toLower
    (HardwareVerdict.withGpu 5000)).1 _ (by simp)).mpr
  intro other hother _ hne
  simp only [List.mem_cons, List.not_mem_nil, or_false] at hother
  rcases hother with rfl | rfl
  · exact .inl (by decide +kernel)
  · exact absurd rfl hne

end LlmMax.ModelLookup
