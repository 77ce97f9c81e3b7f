import LlmMax.Domain

/-! The curated catalog: which raw entries are accepted, and the models they stand for. -/
namespace LlmMax.Catalog
open Domain

/-- A raw entry, in which any key may be absent. Sizes are of any type that can be compared,
NaN included; other values are of any type with an equality. -/
structure Entry (τ ν : Type) where
  id : Option τ := none
  displayName : Option τ := none
  family : Option τ := none
  paramSizeB : Option ν := none
  minVramMb : Option ν := none
  recommendedVramMb : Option ν := none
  minRamMb : Option ν := none
  deriving DecidableEq

/-- A piece of an error's text. -/
inductive Piece (τ ν : Type)
  | text (s : String)
  | index (i : ℕ)
  | value (v : τ)
  | quoted (v : τ)
  | size (n : ν)
  | names (fields : List String)

structure CatalogValidationError (τ ν : Type) where
  message : List (Piece τ ν)

def requiredFields : List String :=
  ["id", "display_name", "family", "param_size_b", "min_vram_mb", "recommended_vram_mb",
    "min_ram_mb"]

variable {τ ν : Type}

/-- An entry with every required field. -/
structure Complete (τ ν : Type) where
  id : τ
  displayName : τ
  family : τ
  paramSizeB : ν
  minVramMb : ν
  recommendedVramMb : ν
  minRamMb : ν

namespace Entry

/-- The required fields that are keys of the entry. -/
def keys (entry : Entry τ ν) : List String :=
  (entry.id.map fun _ => "id").toList ++
  (entry.displayName.map fun _ => "display_name").toList ++
  (entry.family.map fun _ => "family").toList ++
  (entry.paramSizeB.map fun _ => "param_size_b").toList ++
  (entry.minVramMb.map fun _ => "min_vram_mb").toList ++
  (entry.recommendedVramMb.map fun _ => "recommended_vram_mb").toList ++
  (entry.minRamMb.map fun _ => "min_ram_mb").toList

def missing (entry : Entry τ ν) : List String :=
  requiredFields.filter fun field => field ∉ entry.keys

def complete (entry : Entry τ ν) : Option (Complete τ ν) := do
  return { id := ← entry.id
           displayName := ← entry.displayName
           family := ← entry.family
           paramSizeB := ← entry.paramSizeB
           minVramMb := ← entry.minVramMb
           recommendedVramMb := ← entry.recommendedVramMb
           minRamMb := ← entry.minRamMb }

lemma mem_keys_iff (entry : Entry τ ν) : (∀ field ∈ requiredFields, field ∈ entry.keys) ↔
    entry.id.isSome ∧ entry.displayName.isSome ∧ entry.family.isSome ∧ entry.paramSizeB.isSome ∧
      entry.minVramMb.isSome ∧ entry.recommendedVramMb.isSome ∧ entry.minRamMb.isSome := by
  simp [requiredFields, keys, Option.isSome_iff_exists]

end Entry

/-- The raw entry with just these fields. -/
def Complete.entry (c : Complete τ ν) : Entry τ ν where
  id := some c.id
  displayName := some c.displayName
  family := some c.family
  paramSizeB := some c.paramSizeB
  minVramMb := some c.minVramMb
  recommendedVramMb := some c.recommendedVramMb
  minRamMb := some c.minRamMb

lemma Entry.complete_eq_some_iff {entry : Entry τ ν} {c : Complete τ ν} :
    entry.complete = some c ↔ entry = c.entry := by
  obtain ⟨id, displayName, family, paramSizeB, minVramMb, recommendedVramMb, minRamMb⟩ := entry
  obtain ⟨id', displayName', family', paramSizeB', minVramMb', recommendedVramMb', minRamMb'⟩ := c
  simp only [complete, Option.bind_eq_bind, Option.pure_def, Option.bind_eq_some_iff,
    Option.some.injEq, Complete.mk.injEq, Complete.entry, Entry.mk.injEq]
  grind

lemma Entry.complete_eq_none_iff {entry : Entry τ ν} :
    entry.complete = none ↔ ∃ field ∈ requiredFields, field ∉ entry.keys := by
  have hall : (∀ field ∈ requiredFields, field ∈ entry.keys) ↔ ∃ c, entry.complete = some c := by
    rw [mem_keys_iff]
    simp only [complete_eq_some_iff, Complete.entry]
    constructor
    · intro h
      obtain ⟨id, displayName, family, paramSizeB, minVramMb, recommendedVramMb, minRamMb⟩ := entry
      simp only [Option.isSome_iff_exists] at h
      obtain ⟨⟨id, rfl⟩, ⟨displayName, rfl⟩, ⟨family, rfl⟩, ⟨size, rfl⟩, ⟨least, rfl⟩,
        ⟨recommended, rfl⟩, ⟨ram, rfl⟩⟩ := h
      exact ⟨⟨id, displayName, family, size, least, recommended, ram⟩, rfl⟩
    · intro h
      obtain ⟨c, rfl⟩ := h
      simp
  rw [Option.eq_none_iff_forall_ne_some, ← not_exists, ← hall]
  simp

/-- A required field is not among the entry's keys. -/
def Entry.MissesField (entry : Entry τ ν) : Prop :=
  ∃ field ∈ requiredFields, field ∉ entry.keys

def Entry.SharesId (entry entry' : Entry τ ν) : Prop :=
  ∃ id, entry.id = some id ∧ entry'.id = some id

lemma nodup_ids_iff {entries : List (Entry τ ν)} : (entries.filterMap Entry.id).Nodup ↔
    ∀ entry entry', [entry, entry'].Sublist entries → ¬ entry.SharesId entry' := by
  rw [List.Nodup, List.pairwise_filterMap, List.pairwise_iff_forall_sublist]
  constructor
  · intro h entry entry' hpair hshares
    obtain ⟨id, hid, hid'⟩ := hshares
    exact h hpair id hid id hid' rfl
  · intro h entry entry' hpair id hid id' hid' heq
    subst heq
    exact h entry entry' hpair ⟨id, hid, hid'⟩

section rules
variable [LT ν] [LE ν] [Zero ν]

/-- What an entry needs by itself. -/
def Entry.WellFormed (entry : Entry τ ν) : Prop :=
  ∃ c, entry.complete = some c ∧ ¬ c.recommendedVramMb < c.minVramMb ∧ ¬ c.paramSizeB ≤ 0

lemma Entry.WellFormed.has_id {entry : Entry τ ν} (h : entry.WellFormed) :
    ∃ id, entry.id = some id := by
  obtain ⟨c, hc, -⟩ := h
  rw [complete_eq_some_iff.mp hc]
  exact ⟨c.id, rfl⟩

/-- A catalog by itself, whatever the order of its entries. -/
def WellFormed (entries : List (Entry τ ν)) : Prop :=
  (∀ entry ∈ entries, entry.WellFormed) ∧ (entries.filterMap Entry.id).Nodup

lemma WellFormed.perm {entries entries' : List (Entry τ ν)} (h : entries'.Perm entries) :
    WellFormed entries' ↔ WellFormed entries := by
  unfold WellFormed
  rw [(h.filterMap Entry.id).nodup_iff]
  simp only [h.mem_iff]

lemma WellFormed.sublist {entries entries' : List (Entry τ ν)} (h : entries'.Sublist entries)
    (hall : WellFormed entries) : WellFormed entries' :=
  ⟨fun entry hentry => hall.1 entry (h.subset hentry), hall.2.sublist (h.filterMap Entry.id)⟩

/-- Of the sizes that are there, the recommended memory is less than the least one, or there
are no parameters. -/
def Entry.Inconsistent (entry : Entry τ ν) : Prop :=
  (∃ least recommended, entry.minVramMb = some least ∧
    entry.recommendedVramMb = some recommended ∧ recommended < least) ∨
  ∃ size, entry.paramSizeB = some size ∧ size ≤ 0

lemma Entry.not_wellFormed_iff {entry : Entry τ ν} :
    ¬ entry.WellFormed ↔ entry.MissesField ∨ entry.Inconsistent := by
  unfold MissesField WellFormed
  rw [← complete_eq_none_iff]
  cases hc : entry.complete with
  | none => simp
  | some c =>
    obtain rfl := complete_eq_some_iff.mp hc
    have hsizes : c.entry.Inconsistent ↔ c.recommendedVramMb < c.minVramMb ∨ c.paramSizeB ≤ 0 := by
      simp [Inconsistent, Complete.entry]
    simp [hsizes, imp_iff_not_or]

end rules

section validate
variable [DecidableEq τ] [LT ν] [LE ν] [Zero ν] [DecidableLT ν] [DecidableLE ν]

/-- One turn of the validation loop: the ids seen after the entry, or the error it raises. -/
def checkEntry (seenIds : List τ) (i : ℕ) (entry : Entry τ ν) :
    Except (CatalogValidationError τ ν) (List τ) :=
  match entry.complete with
  | none => .error ⟨[.text "Catalog entry #", .index i, .text " (",
      (entry.id.map Piece.value).getD (.text "?"), .text ") missing required fields: ",
      .names (entry.missing.insertionSort (· ≤ ·))]⟩
  | some c =>
    if c.id ∈ seenIds then .error ⟨[.text "Duplicate catalog id: ", .quoted c.id]⟩
    else if c.recommendedVramMb < c.minVramMb then
      .error ⟨[.value c.id, .text ": recommended_vram_mb (", .size c.recommendedVramMb,
        .text ") is less than min_vram_mb (", .size c.minVramMb, .text ")"]⟩
    else if c.paramSizeB ≤ 0 then
      .error ⟨[.value c.id, .text ": param_size_b must be > 0"]⟩
    else .ok (c.id :: seenIds)

def validateFrom (seenIds : List τ) (i : ℕ) :
    List (Entry τ ν) → Except (CatalogValidationError τ ν) Unit
  | [] => .ok ()
  | entry :: entries => do
    let seenIds ← checkEntry seenIds i entry
    validateFrom seenIds (i + 1) entries

def validateCatalogEntries (entries : List (Entry τ ν)) :
    Except (CatalogValidationError τ ν) Unit :=
  validateFrom [] 0 entries

/-- An entry passes if it is well formed and its id is new. -/
lemma checkEntry_ok_iff {seenIds seenIds' : List τ} {i : ℕ} {entry : Entry τ ν} :
    checkEntry seenIds i entry = .ok seenIds' ↔ entry.WellFormed ∧
      ∃ id, entry.id = some id ∧ id ∉ seenIds ∧ seenIds' = id :: seenIds := by
  unfold checkEntry Entry.WellFormed
  cases hc : entry.complete with
  | none => simp
  | some c =>
    have hid : entry.id = some c.id := by
      rw [Entry.complete_eq_some_iff.mp hc]
      rfl
    dsimp only
    split_ifs with hseen hvram hsize
    · simp [hid, hseen]
    · simp [hvram]
    · simp [hsize]
    · simp [hid, hseen, hvram, hsize, eq_comm]

lemma validateFrom_cons_ok_iff {seenIds : List τ} {i : ℕ} {entry : Entry τ ν}
    {entries : List (Entry τ ν)} :
    validateFrom seenIds i (entry :: entries) = .ok () ↔ entry.WellFormed ∧
      ∃ id, entry.id = some id ∧ id ∉ seenIds ∧
        validateFrom (id :: seenIds) (i + 1) entries = .ok () := by
  have hstep : validateFrom seenIds i (entry :: entries) = .ok () ↔
      ∃ seenIds', checkEntry seenIds i entry = .ok seenIds' ∧
        validateFrom seenIds' (i + 1) entries = .ok () := by
    cases h : checkEntry seenIds i entry <;> simp [validateFrom, h, bind, Except.bind]
  rw [hstep]
  simp only [checkEntry_ok_iff]
  constructor
  · intro h
    obtain ⟨_, ⟨hentry, id, hid, hfresh, rfl⟩, hlater⟩ := h
    exact ⟨hentry, id, hid, hfresh, hlater⟩
  · intro h
    obtain ⟨hentry, id, hid, hfresh, hlater⟩ := h
    exact ⟨_, ⟨hentry, id, hid, hfresh, rfl⟩, hlater⟩

/-- The ids still to come are distinct from each other and from those seen. -/
lemma validateFrom_ok_iff {seenIds : List τ} {i : ℕ} {entries : List (Entry τ ν)} :
    validateFrom seenIds i entries = .ok () ↔ (∀ entry ∈ entries, entry.WellFormed) ∧
      (entries.filterMap Entry.id).Nodup ∧ ∀ id ∈ entries.filterMap Entry.id, id ∉ seenIds := by
  induction entries generalizing seenIds i with
  | nil => simp [validateFrom]
  | cons entry entries ih =>
    rw [validateFrom_cons_ok_iff]
    simp only [ih]
    constructor
    · intro h
      obtain ⟨hentry, id, hid, hfresh, hall, hnodup, hunseen⟩ := h
      simp only [List.mem_cons, not_or] at hunseen
      rw [List.filterMap_cons_some hid]
      refine ⟨List.forall_mem_cons.mpr ⟨hentry, hall⟩, ?_, ?_⟩
      · exact List.nodup_cons.mpr ⟨fun hmem => (hunseen id hmem).1 rfl, hnodup⟩
      · exact List.forall_mem_cons.mpr ⟨hfresh, fun id' hid' => (hunseen id' hid').2⟩
    · intro h
      obtain ⟨hall, hnodup, hunseen⟩ := h
      obtain ⟨hentry, hlater⟩ := List.forall_mem_cons.mp hall
      obtain ⟨id, hid⟩ := hentry.has_id
      rw [List.filterMap_cons_some hid] at hnodup hunseen
      obtain ⟨hnew, hnodup⟩ := List.nodup_cons.mp hnodup
      obtain ⟨hfresh, hunseen⟩ := List.forall_mem_cons.mp hunseen
      refine ⟨hentry, id, hid, hfresh, hlater, hnodup, ?_⟩
      intro id' hid' hmem
      rcases List.mem_cons.mp hmem with rfl | hmem
      · exact hnew hid'
      · exact hunseen id' hid' hmem

theorem accepted_iff {entries : List (Entry τ ν)} :
    validateCatalogEntries entries = .ok () ↔ WellFormed entries := by
  simp [validateCatalogEntries, validateFrom_ok_iff, WellFormed]

/-- An entry is checked alike after a list and after its tail with the first id seen. -/
lemma checkEntry_later {first : Entry τ ν} {id : τ} (hid : first.id = some id)
    (before : List (Entry τ ν)) (seenIds : List τ) (i : ℕ) (entry : Entry τ ν) :
    checkEntry (((first :: before).filterMap Entry.id).reverse ++ seenIds)
        (i + (first :: before).length) entry =
      checkEntry ((before.filterMap Entry.id).reverse ++ id :: seenIds)
        (i + 1 + before.length) entry := by
  have hindex : i + (first :: before).length = i + 1 + before.length := by
    rw [List.length_cons]
    omega
  rw [List.filterMap_cons_some hid, List.reverse_cons, List.append_assoc, List.singleton_append,
    hindex]

lemma validateFrom_error_iff {seenIds : List τ} {i : ℕ} {entries : List (Entry τ ν)}
    {error : CatalogValidationError τ ν} :
    validateFrom seenIds i entries = .error error ↔ ∃ before entry after,
      entries = before ++ entry :: after ∧ validateFrom seenIds i before = .ok () ∧
        checkEntry ((before.filterMap Entry.id).reverse ++ seenIds) (i + before.length) entry =
          .error error := by
  induction entries generalizing seenIds i with
  | nil => simp [validateFrom]
  | cons first entries ih =>
    constructor
    · intro h
      cases hfirst : checkEntry seenIds i first with
      | error e =>
        simp only [validateFrom, hfirst, bind, Except.bind] at h
        exact ⟨[], first, entries, rfl, rfl, by simpa [hfirst] using h⟩
      | ok seenIds' =>
        simp only [validateFrom, hfirst, bind, Except.bind] at h
        obtain ⟨before, entry, after, rfl, hbefore, herror⟩ := ih.mp h
        obtain ⟨hentry, id, hid, hfresh, rfl⟩ := checkEntry_ok_iff.mp hfirst
        refine ⟨first :: before, entry, after, rfl, ?_, ?_⟩
        · exact validateFrom_cons_ok_iff.mpr ⟨hentry, id, hid, hfresh, hbefore⟩
        · rw [checkEntry_later hid, herror]
    · intro h
      obtain ⟨before, entry, after, hsplit, hbefore, herror⟩ := h
      cases before with
      | nil =>
        obtain ⟨rfl, rfl⟩ := List.cons.inj hsplit
        simp only [List.filterMap_nil, List.reverse_nil, List.nil_append, List.length_nil,
          Nat.add_zero] at herror
        simp [validateFrom, herror, bind, Except.bind]
      | cons x before =>
        obtain ⟨rfl, rfl⟩ := List.cons.inj hsplit
        obtain ⟨hentry, id, hid, hfresh, hbefore⟩ := validateFrom_cons_ok_iff.mp hbefore
        have hfirst : checkEntry seenIds i first = .ok (id :: seenIds) :=
          checkEntry_ok_iff.mpr ⟨hentry, id, hid, hfresh, rfl⟩
        simp only [validateFrom, hfirst, bind, Except.bind]
        rw [checkEntry_later hid] at herror
        exact ih.mpr ⟨before, entry, after, rfl, hbefore, herror⟩

/-- The error that is raised is that of the first entry that does not pass after those before it. -/
theorem error_iff {entries : List (Entry τ ν)} {error : CatalogValidationError τ ν} :
    validateCatalogEntries entries = .error error ↔ ∃ before entry after,
      entries = before ++ entry :: after ∧ WellFormed before ∧
        checkEntry (before.filterMap Entry.id).reverse before.length entry = .error error := by
  simp only [← accepted_iff, validateCatalogEntries, validateFrom_error_iff, List.append_nil,
    Nat.zero_add]

/-- An error is raised exactly if an entry misses a field or has inconsistent sizes or two
entries share an id; so the order of the entries does not matter, and fewer are accepted too. -/
theorem validateCatalogEntries_exact (entries : List (Entry τ ν)) :
    ((∃ error, validateCatalogEntries entries = .error error) ↔
      (∃ entry ∈ entries, entry.MissesField) ∨
      (∃ entry entry', [entry, entry'].Sublist entries ∧ entry.SharesId entry') ∨
      ∃ entry ∈ entries, entry.Inconsistent) ∧
    (∀ entries' : List (Entry τ ν), entries'.Perm entries →
      (validateCatalogEntries entries' = .ok () ↔ validateCatalogEntries entries = .ok ())) ∧
    ∀ entries' : List (Entry τ ν), entries'.Sublist entries →
      validateCatalogEntries entries = .ok () → validateCatalogEntries entries' = .ok () := by
  refine ⟨?_, ?_, ?_⟩
  · have hraises : (∃ error, validateCatalogEntries entries = .error error) ↔
        ¬ validateCatalogEntries entries = .ok () := by
      cases validateCatalogEntries entries <;> simp
    rw [hraises, accepted_iff, WellFormed, nodup_ids_iff, not_and_or]
    push Not
    simp only [Entry.not_wellFormed_iff]
    grind
  · intro entries' h
    rw [accepted_iff, accepted_iff]
    exact WellFormed.perm h
  · intro entries' h
    rw [accepted_iff, accepted_iff]
    exact WellFormed.sublist h

end validate

inductive LoadError
  | catalog (error : CatalogValidationError String ℚ)
  | model (entry : Entry String ℚ)

/-- A size that is stored as an integer has no fraction. -/
def integral (q : ℚ) : Option ℤ := if q.den = 1 then some q.num else none

/-- `ModelSpec(**entry)`. -/
def modelSpec (entry : Entry String ℚ) : Option ModelSpec := do
  return { id := ← entry.id
           paramSizeB := ← entry.paramSizeB
           minVramMb := ← entry.minVramMb.bind integral
           recommendedVramMb := ← entry.recommendedVramMb.bind integral
           minRamMb := ← entry.minRamMb.bind integral }

def parseEntries : List (Entry String ℚ) → Except LoadError (List ModelSpec)
  | [] => .ok []
  | entry :: entries =>
    match modelSpec entry with
    | none => .error (.model entry)
    | some model => (parseEntries entries).map (model :: ·)

/-- The catalog is validated as a whole before any entry becomes a model. -/
def loadCatalog (entries : List (Entry String ℚ)) : Except LoadError (List ModelSpec) :=
  match validateCatalogEntries entries with
  | .error error => .error (.catalog error)
  | .ok _ => parseEntries entries

/-- What validation promises about a model. -/
structure CatalogValid (model : ModelSpec) : Prop where
  vram : model.minVramMb ≤ model.recommendedVramMb
  params : 0 < model.paramSizeB

lemma integral_eq_some_iff {q : ℚ} {n : ℤ} : integral q = some n ↔ q = n := by
  unfold integral
  split_ifs with h
  · rw [Option.some.injEq]
    constructor
    · intro hn
      rw [← hn, Rat.coe_int_num_of_den_eq_one h]
    · intro hq
      simp [hq]
  · simp only [false_iff]
    intro hq
    exact h (by simp [hq])

lemma modelSpec_valid {entry : Entry String ℚ} {model : ModelSpec}
    (hmodel : modelSpec entry = some model) (h : entry.WellFormed) :
    entry.id = some model.id ∧ CatalogValid model := by
  obtain ⟨c, hc, hvram, hparams⟩ := h
  obtain rfl := Entry.complete_eq_some_iff.mp hc
  simp only [modelSpec, Complete.entry, Option.bind_eq_bind, Option.bind_some, Option.pure_def,
    Option.bind_eq_some_iff, Option.some.injEq, integral_eq_some_iff] at hmodel
  obtain ⟨least, hleast, recommended, hrecommended, ram, -, rfl⟩ := hmodel
  refine ⟨rfl, ?_, not_le.mp hparams⟩
  have hle : c.minVramMb ≤ c.recommendedVramMb := not_lt.mp hvram
  rw [hleast, hrecommended] at hle
  exact_mod_cast hle

lemma parseEntries_valid {entries : List (Entry String ℚ)} {catalog : List ModelSpec}
    (hparse : parseEntries entries = .ok catalog) (h : ∀ entry ∈ entries, entry.WellFormed) :
    catalog.map ModelSpec.id = entries.filterMap Entry.id ∧ ∀ model ∈ catalog, CatalogValid model := by
  induction entries generalizing catalog with
  | nil =>
    cases hparse
    simp
  | cons entry entries ih =>
    simp only [parseEntries] at hparse
    obtain ⟨hentry, hlater⟩ := List.forall_mem_cons.mp h
    cases hmodel : modelSpec entry with
    | none => simp [hmodel] at hparse
    | some model =>
      obtain ⟨hid, hvalid⟩ := modelSpec_valid hmodel hentry
      cases hrest : parseEntries entries with
      | error error => simp [hmodel, hrest, Except.map] at hparse
      | ok models =>
        simp only [hmodel, hrest, Except.map, Except.ok.injEq] at hparse
        subst hparse
        obtain ⟨hids, hvalids⟩ := ih hrest hlater
        rw [List.map_cons, hids, List.filterMap_cons_some hid]
        exact ⟨rfl, List.forall_mem_cons.mpr ⟨hvalid, hvalids⟩⟩

/-- The models of a catalog that loads are valid and have distinct ids. -/
theorem loadCatalog_valid {entries : List (Entry String ℚ)} {catalog : List ModelSpec}
    (h : loadCatalog entries = .ok catalog) :
    (catalog.map ModelSpec.id).Nodup ∧ ∀ model ∈ catalog, CatalogValid model := by
  unfold loadCatalog at h
  cases hcheck : validateCatalogEntries entries with
  | error error => simp [hcheck] at h
  | ok _ =>
    obtain ⟨hall, hnodup⟩ := accepted_iff.mp hcheck
    simp only [hcheck] at h
    obtain ⟨hids, hvalid⟩ := parseEntries_valid h hall
    rw [hids]
    exact ⟨hnodup, hvalid⟩

end LlmMax.Catalog
