import LlmMax.SqliteAgreement

/-! The history route of the daemon over the SQLite store: when its answer is bounded, filtered
and the one that the in-memory store would give. -/
namespace LlmMax.HistoryRoute
open Domain BenchMetrics Storage SqlTable SqlStorage SqliteStore SqliteAgreement

/-- The query parameters, with their defaults. -/
structure HistoryQuery where
  modelId : Option String := none
  limit : ℤ := 20

/-- `Query(default=20, le=200)`: the limit has an upper bound only. -/
def HistoryQuery.Accepted (query : HistoryQuery) : Prop := query.limit ≤ 200

instance (query : HistoryQuery) : Decidable query.Accepted := inferInstanceAs (Decidable (_ ≤ _))

/-- What the daemon answers when there are no runs to show. -/
inductive Rejection
  | unprocessable
  | raised (exc : Failure)

def history (listRuns : Option String → ℤ → Except Failure (List RunRecord)) (query : HistoryQuery) :
    Except Rejection (List RunRecord) :=
  if query.Accepted then (listRuns query.modelId query.limit).mapError .raised
  else .error .unprocessable

/-- The in-memory store with the same runs, saved in the same order. -/
def sameRuns (db : Database) : InMemoryStorage where
  savedRuns := db.runRecords.rows.map fun row => undatedRun (rowToRunRecord row)

/-- The creation time of a run, then its key. -/
def stamp (run : RunRecord) : String ×ₗ ℕ := toLex (run.createdAt.getD "", run.id.getD 0)

/-- What the route promises of its answer. -/
structure Answers (query : HistoryQuery) (db : Database) (runs : List RunRecord) : Prop where
  within : runs.length ≤ query.limit
  capped : runs.length ≤ 200
  asked : ∀ m, query.modelId = some m → ∀ run ∈ runs, run.modelId = m
  recent : runs.Pairwise fun a b => stamp b ≤ stamp a
  same : ∃ runs', history (fun modelId limit => .ok ((sameRuns db).listRuns modelId limit)) query =
    .ok runs' ∧ runs.map undatedRun = runs'.map undatedRun

/-- The runs that the query asks for, in the order of insertion. -/
def askedRows (query : HistoryQuery) (db : Database) : List (Row String RunColumns) :=
  db.runRecords.rows.filter fun row => Asked query.modelId row.columns.modelId

/-- The limit is not negative; for the empty model id, every run of a named model has as many
newer runs without a name; and none of the runs inserted last, up to the limit, was inserted
after a run with a later creation time. -/
structure Favourable (query : HistoryQuery) (db : Database) : Prop where
  nonneg : 0 ≤ query.limit
  unnamed : query.modelId = some "" → ∀ row ∈ db.runRecords.rows, row.columns.modelId ≠ "" →
    query.limit ≤ (db.runRecords.rows.filter fun newer =>
      newer.columns.modelId = "" ∧ row.key < newer.key).length
  steady : ∀ older row newer, askedRows query db = older ++ row :: newer →
    newer.length < query.limit → ∀ r ∈ older, r.createdAt ≤ row.createdAt

section listed
variable {query : HistoryQuery} {db : Database}

/-- The rows behind the answer for a limit that is not negative. -/
def listed (query : HistoryQuery) (db : Database) : List (Row String RunColumns) :=
  (newestFirst (matching RunColumns.modelId query.modelId db.runRecords)).take query.limit.toNat

lemma history_sqlite (h : query.Accepted) (hlimit : 0 ≤ query.limit) :
    history (fun modelId limit => SqliteStore.listRuns modelId limit db) query =
      .ok ((listed query db).map rowToRunRecord) := by
  have hupper : query.limit ≤ 200 := h
  have hfits : FitsInteger query.limit := by
    constructor <;> omega
  have hlist : SqliteStore.listRuns query.modelId query.limit db =
      .ok ((listed query db).map rowToRunRecord) := by
    have hrows : listNewest RunColumns.modelId query.modelId query.limit db.runRecords =
        listed query db := if_pos hlimit
    unfold SqliteStore.listRuns
    rw [bindInteger_ok hfits, ← hrows]
    rfl
  unfold history
  dsimp only
  rw [if_pos h, hlist]
  rfl

lemma history_memory (h : query.Accepted) (hlimit : 0 ≤ query.limit) :
    history (fun modelId limit => .ok ((sameRuns db).listRuns modelId limit)) query =
      .ok (((askedRows query db).reverse.take query.limit.toNat).map
        fun row => undatedRun (rowToRunRecord row)) := by
  have hlist : (sameRuns db).listRuns query.modelId query.limit =
      ((askedRows query db).reverse.take query.limit.toNat).map
        fun row => undatedRun (rowToRunRecord row) := by
    unfold InMemoryStorage.listRuns sameRuns upTo askedRows
    rw [if_pos hlimit, List.filter_map, List.map_take, List.map_reverse]
    rfl
  unfold history
  dsimp only
  rw [if_pos h, hlist]
  rfl

lemma listed_subset {row : Row String RunColumns} (h : row ∈ listed query db) :
    row ∈ db.runRecords.rows := by
  have hmem := (newestFirst_perm _).mem_iff.mp (List.mem_of_mem_take h)
  unfold matching at hmem
  split at hmem
  · exact hmem
  · split_ifs at hmem
    · exact hmem
    · exact (List.mem_filter.mp hmem).1

lemma matching_of_unnamed (h : query.modelId = some "") :
    matching RunColumns.modelId query.modelId db.runRecords = db.runRecords.rows := by
  rw [h]
  rfl

lemma listed_recent : (listed query db).Pairwise fun a b => b.key ≤ a.key :=
  (newestFirst_sorted _).sublist (List.take_sublist _ _)

/-- The runs without their creation times tell the rows. -/
lemma rows_eq_of_runs_eq {rows rows' : List (Row String RunColumns)}
    (hrows : ∀ row ∈ rows, row ∈ db.runRecords.rows) (hrows' : ∀ row ∈ rows', row ∈ db.runRecords.rows)
    (h : rows.map (fun row => undatedRun (rowToRunRecord row)) =
      rows'.map fun row => undatedRun (rowToRunRecord row)) : rows = rows' := by
  induction rows generalizing rows' with
  | nil => exact (List.map_eq_nil_iff.mp h.symm).symm
  | cons row rows ih =>
    obtain ⟨row', rest, rfl, hrow, hrest⟩ := List.map_eq_cons_iff.mp h.symm
    obtain ⟨hmem, hmems⟩ := List.forall_mem_cons.mp hrows
    obtain ⟨hmem', hmems'⟩ := List.forall_mem_cons.mp hrows'
    have hid : row'.id = row.id := Option.some.inj (congrArg RunRecord.id hrow)
    rw [eq_of_id db.runRecords.ascending hmem' hmem hid, ih hmems hmems' hrest.symm]

lemma askedRows_subset {row : Row String RunColumns} (h : row ∈ askedRows query db) :
    row ∈ db.runRecords.rows := (List.mem_filter.mp h).1

/-- For a limit that is accepted and not negative, the answer is right when it shows asked-for
rows only, and those inserted last. -/
lemma answers_iff (h : query.Accepted) (hlimit : 0 ≤ query.limit) :
    Answers query db ((listed query db).map rowToRunRecord) ↔
      (∀ m, query.modelId = some m → ∀ row ∈ listed query db, row.columns.modelId = m) ∧
        listed query db = (askedRows query db).reverse.take query.limit.toNat := by
  have hupper : query.limit ≤ 200 := h
  have hlength : ((listed query db).map rowToRunRecord).length ≤ query.limit.toNat := by
    rw [List.length_map]
    exact List.length_take_le _ _
  constructor
  · intro hanswers
    constructor
    · intro m hm row hrow
      exact hanswers.asked m hm _ (List.mem_map_of_mem hrow)
    · obtain ⟨runs', hruns', hsame⟩ := hanswers.same
      rw [history_memory h hlimit] at hruns'
      cases hruns'
      apply rows_eq_of_runs_eq fun row => listed_subset
      · intro row hrow
        exact askedRows_subset (List.mem_reverse.mp (List.mem_of_mem_take hrow))
      · simpa only [List.map_map, Function.comp_def, undatedRun] using hsame
  · intro hright
    obtain ⟨hasked, hlast⟩ := hright
    constructor
    · omega
    · omega
    · intro m hm run hrun
      obtain ⟨row, hrow, rfl⟩ := List.mem_map.mp hrun
      exact hasked m hm row hrow
    · rw [List.pairwise_map]
      exact listed_recent
    · refine ⟨_, history_memory h hlimit, ?_⟩
      rw [hlast]
      simp only [List.map_map, Function.comp_def, undatedRun]

/-- Where a model is named, only the clock can make a difference. -/
lemma listed_named_iff (hnamed : query.modelId ≠ some "") (hlimit : 0 ≤ query.limit) :
    ((∀ m, query.modelId = some m → ∀ row ∈ listed query db, row.columns.modelId = m) ∧
      listed query db = (askedRows query db).reverse.take query.limit.toNat) ↔
    Favourable query db := by
  have hlisted : listed query db = (newestFirst (askedRows query db)).take query.limit.toNat := by
    unfold listed
    rw [matching_eq RunColumns.modelId db.runRecords hnamed]
    rfl
  have hids : (askedRows query db).Pairwise fun a b => a.id < b.id := db.runRecords.ascending.filter _
  rw [hlisted, take_newestFirst_eq_iff hids]
  constructor
  · intro h
    obtain ⟨-, hsteady⟩ := h
    refine ⟨hlimit, fun hunnamed => absurd hunnamed hnamed, ?_⟩
    intro older row newer hsplit hlen
    exact hsteady older row newer hsplit (by omega)
  · intro h
    constructor
    · intro m hm row hrow
      have hmem := (newestFirst_perm _).mem_iff.mp (List.mem_of_mem_take hrow)
      have hasked := (List.mem_filter.mp hmem).2
      simpa [hm, Asked, eq_comm] using hasked
    · intro older row newer hsplit hlen
      exact h.steady older row newer hsplit (by omega)

/-- For the empty model id all rows are listed, so that those of named models have to be out of
reach as well. -/
lemma listed_unnamed_iff (hunnamed : query.modelId = some "") (hlimit : 0 ≤ query.limit) :
    ((∀ m, query.modelId = some m → ∀ row ∈ listed query db, row.columns.modelId = m) ∧
      listed query db = (askedRows query db).reverse.take query.limit.toNat) ↔
    Favourable query db := by
  have hlisted : listed query db = (newestFirst db.runRecords.rows).take query.limit.toNat := by
    unfold listed
    rw [matching_of_unnamed hunnamed]
  have hasked : askedRows query db = db.runRecords.rows.filter fun row => row.columns.modelId = "" := by
    apply List.filter_congr
    intro row _
    rw [hunnamed]
    simp only [Asked, reduceCtorEq, Option.some.injEq, false_or]
    exact decide_eq_decide.mpr eq_comm
  have hids := db.runRecords.ascending
  have hall : (∀ m, query.modelId = some m → ∀ row ∈ listed query db, row.columns.modelId = m) ↔
      ∀ row ∈ db.runRecords.rows, row.columns.modelId ≠ "" →
        query.limit ≤ (db.runRecords.rows.filter fun newer =>
          newer.columns.modelId = "" ∧ row.key < newer.key).length := by
    have hnewest := take_newestFirst_all_iff (n := query.limit.toNat)
      (p := fun row => row.columns.modelId = "") hids
    simp only [decide_eq_true_eq, decide_eq_false_iff_not, Int.toNat_le] at hnewest
    rw [← hnewest, ← hlisted, hunnamed]
    simp
  have hlast (h : ∀ row ∈ listed query db, row.columns.modelId = "") :
      listed query db = (newestFirst (askedRows query db)).take query.limit.toNat := by
    rw [hlisted] at h ⊢
    rw [hasked, newestFirst_filter hids, take_filter_of_all]
    simpa using h
  have hsteady := take_newestFirst_eq_iff (n := query.limit.toNat)
    (hids.filter fun row => Asked query.modelId row.columns.modelId)
  constructor
  · intro h
    obtain ⟨honly, heq⟩ := h
    refine ⟨hlimit, fun _ => hall.mp honly, ?_⟩
    rw [hlast (honly "" hunnamed)] at heq
    intro older row newer hsplit hlen
    exact hsteady.mp heq older row newer hsplit (by omega)
  · intro h
    have honly := hall.mpr (h.unnamed hunnamed)
    refine ⟨honly, ?_⟩
    rw [hlast (honly "" hunnamed)]
    apply hsteady.mpr
    intro older row newer hsplit hlen
    exact h.steady older row newer hsplit (by omega)

end listed

/-- The answer to a query that is accepted is the promised one exactly if query and content are
favourable. -/
theorem history_answers_iff (query : HistoryQuery) (h : query.Accepted) (db : Database) :
    (∃ runs, history (fun modelId limit => SqliteStore.listRuns modelId limit db) query = .ok runs ∧
      Answers query db runs) ↔ Favourable query db := by
  by_cases hlimit : 0 ≤ query.limit
  · have hright : Answers query db ((listed query db).map rowToRunRecord) ↔ Favourable query db := by
      rw [answers_iff h hlimit]
      by_cases hunnamed : query.modelId = some ""
      · exact listed_unnamed_iff hunnamed hlimit
      · exact listed_named_iff hunnamed hlimit
    rw [history_sqlite h hlimit, ← hright]
    simp
  · constructor
    · intro hanswers
      obtain ⟨runs, -, hruns⟩ := hanswers
      have hwithin := hruns.within
      omega
    · intro hfavourable
      exact absurd hfavourable.nonneg hlimit

/-- Runs of two models, the second one recorded after the clock went back. -/
def mixedRuns : Database where
  runRecords := ((Table.empty.insert "2024-01-02 00:00:00" ⟨"m", "ollama", "hello", 42, 2, some 21⟩).insert
    "2024-01-01 00:00:00" ⟨"m", "ollama", "again", 40, 2, some 20⟩).insert
    "2024-01-03 00:00:00" ⟨"other", "ollama", "hello", 10, 1, none⟩

theorem history_answers_iff_mixed :
    let query : HistoryQuery := { modelId := some "m", limit := 1 }
    (∃ runs, history (fun modelId limit => SqliteStore.listRuns modelId limit mixedRuns) query = .ok runs ∧
      Answers query mixedRuns runs) ↔ Favourable query mixedRuns :=
  history_answers_iff _ (by decide) _

/-- A limit of -1 is accepted, and all three runs are shown. -/
theorem history_exceeds_limit :
    let query : HistoryQuery := { limit := -1 }
    query.Accepted ∧ (∃ runs, history (fun modelId limit =>
      SqliteStore.listRuns modelId limit mixedRuns) query = .ok runs ∧ runs.length = 3) ∧
    ¬ ∃ runs, history (fun modelId limit => SqliteStore.listRuns modelId limit mixedRuns) query =
      .ok runs ∧ Answers query mixedRuns runs := by
  intro query
  refine ⟨by decide, ⟨_, rfl, by decide +kernel⟩, ?_⟩
  intro hanswers
  obtain ⟨runs, -, hruns⟩ := hanswers
  have hwithin : (runs.length : ℤ) ≤ -1 := hruns.within
  omega

end LlmMax.HistoryRoute
