import Mathlib.Data.List.Sort
import Mathlib.Data.Prod.Lex
import Mathlib.Tactic

/-! Tables of an SQL database whose rows get an auto-increment key and a creation time.
Rows are kept in the order of insertion; queries for recent rows sort by creation time
first and by key second. -/
namespace LlmMax.SqlTable

structure Row (T α : Type) where
  id : ℕ
  createdAt : T
  columns : α
  deriving DecidableEq

/-- Keys ascend in the order of insertion, and the next key is above all of them. -/
@[ext] structure Table (T α : Type) where
  rows : List (Row T α)
  nextId : ℕ
  ascending : rows.Pairwise fun a b => a.id < b.id
  below : ∀ r ∈ rows, r.id < nextId

variable {T α : Type}

namespace Table

def empty : Table T α where
  rows := []
  nextId := 1
  ascending := .nil
  below := by simp

/-- `INSERT`: the row gets the next key and the time of the clock. -/
def insert (time : T) (columns : α) (t : Table T α) : Table T α where
  rows := t.rows ++ [⟨t.nextId, time, columns⟩]
  nextId := t.nextId + 1
  ascending := by
    refine List.pairwise_append.mpr ⟨t.ascending, List.pairwise_singleton _ _, ?_⟩
    simpa using t.below
  below := by
    intro r hr
    rcases List.mem_append.mp hr with hr | hr
    · have := t.below r hr
      omega
    · simp [List.mem_singleton.mp hr]

/-- What an `INSERT` that is rolled back leaves behind: its key is not given out again. -/
def skipId (t : Table T α) : Table T α where
  rows := t.rows
  nextId := t.nextId + 1
  ascending := t.ascending
  below r hr := (t.below r hr).trans (Nat.lt_succ_self _)

/-- `SELECT … WHERE id = ?`. -/
def byId (id : ℕ) (t : Table T α) : Option (Row T α) := t.rows.find? fun r => r.id = id

end Table

def Row.change (p : Row T α → Bool) (f : α → α) (r : Row T α) : Row T α :=
  if p r then { r with columns := f r.columns } else r

@[simp] lemma Row.change_id (p : Row T α → Bool) (f : α → α) (r : Row T α) :
    (r.change p f).id = r.id := by
  unfold Row.change
  split_ifs <;> rfl

@[simp] lemma Row.change_createdAt (p : Row T α → Bool) (f : α → α) (r : Row T α) :
    (r.change p f).createdAt = r.createdAt := by
  unfold Row.change
  split_ifs <;> rfl

/-- `UPDATE`: the columns of the rows that meet the condition change. -/
def Table.update (p : Row T α → Bool) (f : α → α) (t : Table T α) : Table T α where
  rows := t.rows.map (Row.change p f)
  nextId := t.nextId
  ascending := List.pairwise_map.mpr (by simpa using t.ascending)
  below := by simpa using t.below

section recency
variable [LinearOrder T]

def Row.key (r : Row T α) : T ×ₗ ℕ := toLex (r.createdAt, r.id)

/-- `ORDER BY created_at DESC, id DESC`. -/
def newestFirst (rows : List (Row T α)) : List (Row T α) :=
  rows.insertionSort fun a b => b.key ≤ a.key

/-- `WHERE … ORDER BY created_at DESC, id DESC LIMIT 1`. -/
def Table.newest (p : α → Bool) (t : Table T α) : Option (Row T α) :=
  (newestFirst (t.rows.filter fun r => p r.columns)).head?

end recency

/-- The row that was inserted last among those that meet the condition. -/
def Table.lastInserted (p : α → Bool) (t : Table T α) : Option (Row T α) :=
  (t.rows.filter fun r => p r.columns).getLast?

/-- Taking rows that all meet a condition is taking the rows that meet it. -/
lemma take_filter_of_all {p : α → Bool} {xs : List α} {n : ℕ}
    (h : ∀ x ∈ xs.take n, p x) : (xs.filter p).take n = xs.take n := by
  induction xs generalizing n with
  | nil => rfl
  | cons x xs ih =>
    cases n with
    | zero => simp
    | succ n =>
      obtain ⟨hx, hxs⟩ := List.forall_mem_cons.mp h
      rw [List.filter_cons_of_pos hx, List.take_succ_cons, List.take_succ_cons, ih hxs]

/-- A key determines its row. -/
lemma eq_of_id {rows : List (Row T α)} (hids : rows.Pairwise fun a b => a.id < b.id)
    {r r' : Row T α} (hr : r ∈ rows) (hr' : r' ∈ rows) (h : r.id = r'.id) : r = r' := by
  have hnodup : (rows.map Row.id).Nodup := List.pairwise_map.mpr (hids.imp fun hlt => hlt.ne)
  exact List.inj_on_of_nodup_map hnodup hr hr' h

namespace Table
variable (t : Table T α)

@[simp] lemma rows_empty : (empty : Table T α).rows = [] := rfl

@[simp] lemma rows_insert (time : T) (columns : α) :
    (t.insert time columns).rows = t.rows ++ [⟨t.nextId, time, columns⟩] := rfl

@[simp] lemma rows_update (p : Row T α → Bool) (f : α → α) :
    (t.update p f).rows = t.rows.map (Row.change p f) := rfl

/-- An update whose condition no row meets changes nothing. -/
lemma update_of_none {p : Row T α → Bool} (f : α → α) (h : ∀ r ∈ t.rows, p r = false) :
    t.update p f = t := by
  apply Table.ext
  · refine (List.map_congr_left fun r hr => ?_).trans (List.map_id _)
    simp [Row.change, h r hr]
  · rfl

/-- The row just inserted is read back under its key. -/
lemma byId_insert (time : T) (columns : α) :
    (t.insert time columns).byId t.nextId = some ⟨t.nextId, time, columns⟩ := by
  have hfresh : t.rows.find? (fun r => r.id = t.nextId) = none := by
    rw [List.find?_eq_none]
    intro r hr
    have := t.below r hr
    simp [this.ne]
  simp [byId, hfresh]

lemma lastInserted_eq_find (p : α → Bool) :
    t.lastInserted p = t.rows.reverse.find? fun r => p r.columns := by
  simp [lastInserted, List.getLast?_eq_head?_reverse, ← List.filter_reverse]

/-- The row inserted last, with those before it and those after it. -/
lemma lastInserted_split {p : α → Bool} {r : Row T α} (h : t.lastInserted p = some r) :
    ∃ front back, t.rows = front ++ r :: back ∧ p r.columns ∧
      ∀ r' ∈ back, p r'.columns = false := by
  rw [lastInserted_eq_find, List.find?_eq_some_iff_append] at h
  obtain ⟨hp, back, front, hsplit, hback⟩ := h
  refine ⟨front.reverse, back.reverse, ?_, hp, fun r' hr' => ?_⟩
  · rw [← List.reverse_reverse t.rows, hsplit]
    simp
  · simpa using hback r' (List.mem_reverse.mp hr')

lemma lastInserted_mem {p : α → Bool} {r : Row T α} (h : t.lastInserted p = some r) :
    r ∈ t.rows ∧ p r.columns := by
  simpa using List.mem_of_getLast? h

end Table

section recency
variable [LinearOrder T]

lemma newestFirst_perm (rows : List (Row T α)) : (newestFirst rows).Perm rows :=
  List.perm_insertionSort _ _

lemma newestFirst_sorted (rows : List (Row T α)) :
    (newestFirst rows).Pairwise fun a b => b.key ≤ a.key := by
  have htotal : Std.Total fun a b : Row T α => b.key ≤ a.key := ⟨fun a b => le_total _ _⟩
  have htrans : IsTrans (Row T α) fun a b => b.key ≤ a.key := ⟨fun _ _ _ hab hbc => hbc.trans hab⟩
  exact List.pairwise_insertionSort _ _

/-- There is only one way to put rows with ascending keys in that order. -/
lemma eq_newestFirst {rows sorted : List (Row T α)} (hids : rows.Pairwise fun a b => a.id < b.id)
    (hperm : sorted.Perm rows) (hsorted : sorted.Pairwise fun a b => b.key ≤ a.key) :
    newestFirst rows = sorted := by
  refine List.Perm.eq_of_pairwise ?_ (newestFirst_sorted rows) hsorted
    ((newestFirst_perm rows).trans hperm.symm)
  intro a b ha hb hba hab
  have hmem : a ∈ rows := (newestFirst_perm rows).mem_iff.mp ha
  have hkey : a.key = b.key := le_antisymm hab hba
  exact eq_of_id hids hmem (hperm.mem_iff.mp hb) (Prod.mk.inj (toLex.injective hkey)).2

lemma newestFirst_filter {rows : List (Row T α)} (hids : rows.Pairwise fun a b => a.id < b.id)
    (p : Row T α → Bool) : newestFirst (rows.filter p) = (newestFirst rows).filter p :=
  eq_newestFirst (hids.filter p) ((newestFirst_perm rows).filter p)
    ((newestFirst_sorted rows).filter p)

lemma key_lt {a b : Row T α} (hid : a.id < b.id) (htime : a.createdAt ≤ b.createdAt) :
    a.key < b.key := by
  rcases htime.lt_or_eq with hlt | heq
  · exact Prod.Lex.toLex_lt_toLex.mpr (.inl hlt)
  · exact Prod.Lex.toLex_lt_toLex.mpr (.inr ⟨heq, hid⟩)

lemma createdAt_le {a b : Row T α} (h : a.key ≤ b.key) : a.createdAt ≤ b.createdAt := by
  rcases Prod.Lex.toLex_le_toLex.mp h with hlt | heq
  · exact hlt.le
  · exact heq.1.le

/-- As long as no creation time goes back, the newest rows are those inserted last. -/
lemma newestFirst_of_steady {rows : List (Row T α)}
    (hids : rows.Pairwise fun a b => a.id < b.id)
    (hsteady : rows.Pairwise fun a b => a.createdAt ≤ b.createdAt) :
    newestFirst rows = rows.reverse := by
  have hkeys : rows.Pairwise fun a b => a.key < b.key :=
    (hids.and hsteady).imp fun h => key_lt h.1 h.2
  exact eq_newestFirst hids (List.reverse_perm rows) (List.pairwise_reverse.mpr (hkeys.imp le_of_lt))

/-- A row inserted last with the latest creation time is the newest. -/
lemma newestFirst_concat {rows : List (Row T α)} {x : Row T α}
    (hids : (rows ++ [x]).Pairwise fun a b => a.id < b.id)
    (h : ∀ r ∈ rows, r.createdAt ≤ x.createdAt) :
    newestFirst (rows ++ [x]) = x :: newestFirst rows := by
  obtain ⟨-, -, hlast⟩ := List.pairwise_append.mp hids
  apply eq_newestFirst hids
  · exact ((newestFirst_perm rows).cons x).trans (List.perm_append_singleton x rows).symm
  · refine List.pairwise_cons.mpr ⟨?_, newestFirst_sorted rows⟩
    intro r hr
    have hmem : r ∈ rows := (newestFirst_perm rows).mem_iff.mp hr
    exact (key_lt (hlast r hmem x (by simp)) (h r hmem)).le

/-- The row that comes out first has the latest creation time. -/
lemma latest_of_head {rows rest : List (Row T α)} {x : Row T α} (h : newestFirst rows = x :: rest) :
    ∀ r ∈ rows, r.createdAt ≤ x.createdAt := by
  intro r hr
  have hmem : r ∈ newestFirst rows := (newestFirst_perm rows).mem_iff.mpr hr
  have hsorted := newestFirst_sorted rows
  rw [h] at hmem hsorted
  rcases List.mem_cons.mp hmem with rfl | hrest
  · exact le_rfl
  · exact createdAt_le (List.rel_of_pairwise_cons hsorted hrest)

/-- The newest rows are the last ones inserted exactly if none of these has a row before it
with a later creation time. -/
theorem take_newestFirst_eq_iff {rows : List (Row T α)} {n : ℕ}
    (hids : rows.Pairwise fun a b => a.id < b.id) :
    (newestFirst rows).take n = rows.reverse.take n ↔
      ∀ older row newer, rows = older ++ row :: newer → newer.length < n →
        ∀ r ∈ older, r.createdAt ≤ row.createdAt := by
  induction rows using List.reverseRecOn generalizing n with
  | nil => simp [newestFirst]
  | append_singleton rows x ih =>
    cases n with
    | zero => simp
    | succ n =>
      have hrows := (List.pairwise_append.mp hids).1
      rw [List.reverse_append, List.reverse_singleton, List.singleton_append, List.take_succ_cons]
      constructor
      · intro h older row newer hsplit hlen
        have hlatest : ∀ r ∈ rows, r.createdAt ≤ x.createdAt := by
          intro r hr
          cases hnewest : newestFirst (rows ++ [x]) with
          | nil => simp [hnewest] at h
          | cons first rest =>
            rw [hnewest] at h
            obtain rfl : first = x := (List.cons.inj h).1
            exact latest_of_head hnewest r (List.mem_append_left _ hr)
        rw [newestFirst_concat hids hlatest, List.take_succ_cons] at h
        have hrest := (ih hrows).mp (List.cons.inj h).2
        rcases List.eq_nil_or_concat newer with rfl | ⟨newer, y, rfl⟩
        · obtain ⟨rfl, hx⟩ := List.append_inj' hsplit rfl
          rw [← (List.cons.inj hx).1]
          exact hlatest
        · rw [List.concat_eq_append, ← List.cons_append, ← List.append_assoc] at hsplit
          rw [List.concat_eq_append, List.length_append, List.length_singleton] at hlen
          exact hrest older row newer (List.append_inj' hsplit rfl).1 (by omega)
      · intro h
        have hlatest : ∀ r ∈ rows, r.createdAt ≤ x.createdAt := h rows x [] rfl (by simp)
        rw [newestFirst_concat hids hlatest, List.take_succ_cons, (ih hrows).mpr]
        intro older row newer hsplit hlen
        exact h older row (newer ++ [x]) (by simp [hsplit]) (by simpa using hlen)

/-- A row that is not among the newest is older than these, itself apart. -/
lemma key_lt_of_taken {rows : List (Row T α)} {n : ℕ}
    (hids : rows.Pairwise fun a b => a.id < b.id) {r r' : Row T α}
    (hr : r ∈ (newestFirst rows).drop n) (hr' : r' ∈ (newestFirst rows).take n) (hne : r ≠ r') :
    r.key < r'.key := by
  have hsorted := newestFirst_sorted rows
  rw [← List.take_append_drop n (newestFirst rows), List.pairwise_append] at hsorted
  apply lt_of_le_of_ne (hsorted.2.2 r' hr' r hr)
  intro hkey
  have hmem : r ∈ rows := (newestFirst_perm rows).mem_iff.mp (List.mem_of_mem_drop hr)
  have hmem' : r' ∈ rows := (newestFirst_perm rows).mem_iff.mp (List.mem_of_mem_take hr')
  exact hne (eq_of_id hids hmem hmem' (Prod.mk.inj (toLex.injective hkey)).2)

/-- Only the rows that come out before a row are newer. -/
lemma length_newer_le {rows newer older : List (Row T α)} {r : Row T α}
    (h : newestFirst rows = newer ++ r :: older) (p : Row T α → Bool) :
    (rows.filter fun r' => p r' ∧ r.key < r'.key).length ≤ newer.length := by
  have hsorted := newestFirst_sorted rows
  rw [h, List.pairwise_append, List.pairwise_cons] at hsorted
  have hnone : (r :: older).filter (fun r' => p r' ∧ r.key < r'.key) = [] := by
    rw [List.filter_eq_nil_iff]
    intro r' hr'
    rcases List.mem_cons.mp hr' with rfl | hr'
    · simp
    · simp [hsorted.2.1.1 r' hr']
  rw [← ((newestFirst_perm rows).filter _).length_eq, h, List.filter_append, hnone, List.append_nil]
  exact List.length_filter_le _ _

/-- The newest rows all meet a condition exactly if as many rows that meet it are newer than
every row that does not. -/
theorem take_newestFirst_all_iff {rows : List (Row T α)} {n : ℕ} {p : Row T α → Bool}
    (hids : rows.Pairwise fun a b => a.id < b.id) :
    (∀ r ∈ (newestFirst rows).take n, p r) ↔
      ∀ r ∈ rows, p r = false → n ≤ (rows.filter fun r' => p r' ∧ r.key < r'.key).length := by
  constructor
  · intro h r hr hno
    have hdrop : r ∈ (newestFirst rows).drop n := by
      have hmem : r ∈ (newestFirst rows).take n ++ (newestFirst rows).drop n := by
        rw [List.take_append_drop]
        exact (newestFirst_perm rows).mem_iff.mpr hr
      rcases List.mem_append.mp hmem with htake | hdrop
      · simp [h r htake] at hno
      · exact hdrop
    have hfull : n ≤ (newestFirst rows).length := by
      by_contra hlt
      simp [List.drop_of_length_le (by omega : (newestFirst rows).length ≤ n)] at hdrop
    have hnewer : ∀ r' ∈ (newestFirst rows).take n, p r' ∧ r.key < r'.key := by
      intro r' hr'
      have hp := h r' hr'
      have hne : r ≠ r' := by
        rintro rfl
        rw [hp] at hno
        cases hno
      exact ⟨hp, key_lt_of_taken hids hdrop hr' hne⟩
    calc n = ((newestFirst rows).take n).length := by simp [hfull]
      _ = (((newestFirst rows).take n).filter fun r' => p r' ∧ r.key < r'.key).length := by
        rw [List.filter_eq_self.mpr fun r' hr' => decide_eq_true (hnewer r' hr')]
      _ ≤ ((newestFirst rows).filter fun r' => p r' ∧ r.key < r'.key).length :=
        ((List.take_sublist n _).filter _).length_le
      _ = (rows.filter fun r' => p r' ∧ r.key < r'.key).length :=
        ((newestFirst_perm rows).filter _).length_eq
  · intro h r hr
    by_contra hno
    have hmem : r ∈ rows := (newestFirst_perm rows).mem_iff.mp (List.mem_of_mem_take hr)
    have hcount := h r hmem (by simpa using hno)
    obtain ⟨newer, older, hsplit⟩ := List.append_of_mem hr
    have hwhole : newestFirst rows = newer ++ r :: (older ++ (newestFirst rows).drop n) := by
      rw [← List.cons_append, ← List.append_assoc, ← hsplit, List.take_append_drop]
    have hlen : newer.length < n := by
      have htake := congrArg List.length hsplit
      simp only [List.length_take, List.length_append, List.length_cons] at htake
      omega
    have hfew := length_newer_le hwhole p
    omega

/-- The row that comes out first is the one of greatest creation time and then greatest key. -/
theorem head_newestFirst_iff {rows : List (Row T α)} (hids : rows.Pairwise fun a b => a.id < b.id)
    {r : Row T α} : (newestFirst rows).head? = some r ↔ r ∈ rows ∧ ∀ r' ∈ rows, r'.key ≤ r.key := by
  have hgreatest {first : Row T α} (h : (newestFirst rows).head? = some first) :
      first ∈ rows ∧ ∀ r' ∈ rows, r'.key ≤ first.key := by
    obtain ⟨rest, hrest⟩ := List.head?_eq_some_iff.mp h
    have hmem (r' : Row T α) : r' ∈ rows ↔ r' ∈ first :: rest := by
      rw [← hrest, (newestFirst_perm rows).mem_iff]
    have hsorted := newestFirst_sorted rows
    rw [hrest] at hsorted
    refine ⟨(hmem first).mpr (by simp), fun r' hr' => ?_⟩
    rcases List.mem_cons.mp ((hmem r').mp hr') with rfl | hin
    · exact le_rfl
    · exact List.rel_of_pairwise_cons hsorted hin
  constructor
  · exact hgreatest
  · intro h
    obtain ⟨hr, hmax⟩ := h
    cases hfirst : (newestFirst rows).head? with
    | none =>
      rw [List.head?_eq_none_iff] at hfirst
      have hmem := (newestFirst_perm rows).mem_iff.mpr hr
      simp [hfirst] at hmem
    | some first =>
      obtain ⟨hmem, hmaxfirst⟩ := hgreatest hfirst
      have hkey : first.key = r.key := le_antisymm (hmax first hmem) (hmaxfirst r hr)
      rw [eq_of_id hids hmem hr (Prod.mk.inj (toLex.injective hkey)).2]

/-- A row inserted last comes out first unless the first one has a later creation time. -/
lemma head_newestFirst_concat {rows : List (Row T α)} {x : Row T α}
    (hids : (rows ++ [x]).Pairwise fun a b => a.id < b.id) :
    (newestFirst (rows ++ [x])).head? = match (newestFirst rows).head? with
      | none => some x
      | some r => if x.createdAt < r.createdAt then some r else some x := by
  obtain ⟨hrows, -, hlast⟩ := List.pairwise_append.mp hids
  cases hfirst : (newestFirst rows).head? with
  | none =>
    have hempty : rows = [] := by
      rw [List.head?_eq_none_iff] at hfirst
      exact List.perm_nil.mp (hfirst ▸ (newestFirst_perm rows).symm)
    subst hempty
    rfl
  | some r =>
    obtain ⟨hr, hmax⟩ := (head_newestFirst_iff hrows).mp hfirst
    dsimp only
    split_ifs with hlt
    · rw [head_newestFirst_iff hids]
      refine ⟨List.mem_append_left _ hr, fun r' hr' => ?_⟩
      rcases List.mem_append.mp hr' with hin | hin
      · exact hmax r' hin
      · rw [List.mem_singleton.mp hin]
        exact Prod.Lex.toLex_le_toLex.mpr (.inl hlt)
    · rw [newestFirst_concat hids fun r' hr' => (createdAt_le (hmax r' hr')).trans (not_lt.mp hlt)]
      rfl

namespace Table
variable (t : Table T α) {p : α → Bool}

lemma mem_matching {r : Row T α} :
    r ∈ newestFirst (t.rows.filter fun r => p r.columns) ↔ r ∈ t.rows ∧ p r.columns := by
  rw [(newestFirst_perm _).mem_iff, List.mem_filter]

lemma newest_eq_none_iff : t.newest p = none ↔ ∀ r ∈ t.rows, p r.columns = false := by
  have hempty : t.newest p = none ↔ newestFirst (t.rows.filter fun r => p r.columns) = [] :=
    List.head?_eq_none_iff
  rw [hempty, List.eq_nil_iff_forall_not_mem]
  constructor
  · intro h r hr
    have hno := h r
    simp only [mem_matching, hr, true_and, Bool.not_eq_true] at hno
    exact hno
  · intro h r hr
    obtain ⟨hmem, hp⟩ := (t.mem_matching).mp hr
    simp [h r hmem] at hp

/-- The newest row is the one of greatest creation time and then greatest key. -/
theorem newest_eq_some_iff {r : Row T α} : t.newest p = some r ↔
    r ∈ t.rows ∧ p r.columns ∧ ∀ r' ∈ t.rows, p r'.columns → r'.key ≤ r.key := by
  have hids := t.ascending.filter fun r => p r.columns
  have hmatching (r' : Row T α) : r' ∈ t.rows.filter (fun r => p r.columns) ↔
      r' ∈ t.rows ∧ p r'.columns := List.mem_filter
  rw [newest, head_newestFirst_iff hids]
  simp only [hmatching, and_assoc, and_imp]

lemma newest_mem {r : Row T α} (h : t.newest p = some r) : r ∈ t.rows ∧ p r.columns := by
  obtain ⟨hr, hp, -⟩ := (t.newest_eq_some_iff).mp h
  exact ⟨hr, hp⟩

/-- The newest row is the one inserted last exactly when none of the others was given a
later creation time. -/
theorem newest_eq_last_iff {r : Row T α} (h : t.lastInserted p = some r) :
    t.newest p = some r ↔ ∀ r' ∈ t.rows, p r'.columns → r'.createdAt ≤ r.createdAt := by
  obtain ⟨hr, hp⟩ := t.lastInserted_mem h
  have hid {r' : Row T α} (hr' : r' ∈ t.rows) (hp' : p r'.columns) : r'.id ≤ r.id := by
    obtain ⟨front, hfront⟩ := List.getLast?_eq_some_iff.mp h
    have hids := t.ascending.filter fun r => p r.columns
    have hin : r' ∈ t.rows.filter fun r => p r.columns := by simp [hr', hp']
    rw [hfront] at hids hin
    rcases List.mem_append.mp hin with hin | hin
    · exact ((List.pairwise_append.mp hids).2.2 r' hin r (by simp)).le
    · rw [List.mem_singleton.mp hin]
  rw [newest_eq_some_iff]
  constructor
  · intro hnewest r' hr' hp'
    exact createdAt_le (hnewest.2.2 r' hr' hp')
  · intro hlatest
    refine ⟨hr, hp, fun r' hr' hp' => ?_⟩
    rcases (hlatest r' hr' hp').lt_or_eq with hlt | heq
    · exact Prod.Lex.toLex_le_toLex.mpr (.inl hlt)
    · exact Prod.Lex.toLex_le_toLex.mpr (.inr ⟨heq, hid hr' hp'⟩)

lemma newest_eq_last_of_steady (h : t.rows.Pairwise fun a b => a.createdAt ≤ b.createdAt) :
    t.newest p = t.lastInserted p := by
  rw [newest, newestFirst_of_steady (t.ascending.filter _) (h.filter _), lastInserted,
    List.getLast?_eq_head?_reverse]

/-- A row inserted is the newest of those it belongs to unless the newest one has a later time. -/
lemma newest_insert (time : T) (columns : α) :
    (t.insert time columns).newest p =
      if p columns then match t.newest p with
        | none => some ⟨t.nextId, time, columns⟩
        | some r => if time < r.createdAt then some r else some ⟨t.nextId, time, columns⟩
      else t.newest p := by
  have hids := (t.insert time columns).ascending.filter fun r => p r.columns
  unfold newest
  rw [rows_insert, List.filter_append] at hids ⊢
  split_ifs with hp
  · have hlast : [(⟨t.nextId, time, columns⟩ : Row T α)].filter (fun r => p r.columns) =
        [⟨t.nextId, time, columns⟩] := List.filter_cons_of_pos hp
    rw [hlast] at hids ⊢
    exact head_newestFirst_concat hids
  · simp [hp]

/-- A row inserted with the latest time is the newest of those it belongs to. -/
lemma newest_insert_latest {time : T} (htime : ∀ r ∈ t.rows, r.createdAt ≤ time) (columns : α) :
    (t.insert time columns).newest p =
      if p columns then some ⟨t.nextId, time, columns⟩ else t.newest p := by
  rw [newest_insert]
  split_ifs
  · cases hnewest : t.newest p with
    | none => rfl
    | some r =>
      have hle := htime r (t.newest_mem hnewest).1
      exact if_neg (not_lt.mpr hle)
  · rfl

/-- Which row is the newest does not depend on the columns that an update changes. -/
lemma newest_update {q : Row T α → Bool} {f : α → α} (hf : ∀ columns, p (f columns) = p columns) :
    (t.update q f).newest p = (t.newest p).map (Row.change q f) := by
  have hp (r : Row T α) : p (r.change q f).columns = p r.columns := by
    unfold Row.change
    split_ifs
    · exact hf _
    · rfl
  cases h : t.newest p with
  | none =>
    rw [newest_eq_none_iff] at h
    simpa [newest_eq_none_iff, hp] using h
  | some r =>
    obtain ⟨hr, hpr, hmax⟩ := (t.newest_eq_some_iff).mp h
    rw [Option.map_some, newest_eq_some_iff]
    refine ⟨List.mem_map_of_mem hr, by rw [hp, hpr], ?_⟩
    intro r' hr' hp'
    obtain ⟨old, hold, rfl⟩ := List.mem_map.mp hr'
    rw [hp] at hp'
    simpa [Row.key] using hmax old hold hp'

end Table
end recency

section map
variable {β : Type}

def Row.map (f : α → β) (r : Row T α) : Row T β := ⟨r.id, r.createdAt, f r.columns⟩

/-- The same rows, with other columns. -/
def Table.map (f : α → β) (t : Table T α) : Table T β where
  rows := t.rows.map (Row.map f)
  nextId := t.nextId
  ascending := List.pairwise_map.mpr t.ascending
  below := by simpa [Row.map] using t.below

variable {f : α → β}

@[simp] lemma Row.columns_map (r : Row T α) : (r.map f).columns = f r.columns := rfl

lemma Table.map_insert (t : Table T α) (time : T) (columns : α) :
    (t.insert time columns).map f = (t.map f).insert time (f columns) := by
  apply Table.ext
  · simp [Table.map, Row.map]
  · rfl

lemma Table.map_update (t : Table T α) {p : Row T α → Bool} {q : Row T β → Bool} {g : α → α}
    {g' : β → β} (hp : ∀ r, q (r.map f) = p r) (hg : ∀ columns, f (g columns) = g' (f columns)) :
    (t.update p g).map f = (t.map f).update q g' := by
  apply Table.ext
  · simp only [Table.map, rows_update, List.map_map]
    apply List.map_congr_left
    intro r _
    simp only [Function.comp_apply, Row.change, hp]
    split_ifs
    · simp [Row.map, hg]
    · rfl
  · rfl

lemma newestFirst_map [LinearOrder T] (rows : List (Row T α)) :
    newestFirst (rows.map (Row.map f)) = (newestFirst rows).map (Row.map f) := by
  symm
  apply List.map_insertionSort
  intro a _ b _
  exact Iff.rfl

lemma Table.newest_map [LinearOrder T] (t : Table T α) {p : α → Bool} {q : β → Bool}
    (h : ∀ columns, q (f columns) = p columns) :
    (t.map f).newest q = (t.newest p).map (Row.map f) := by
  have hkept : (fun r : Row T β => q r.columns) ∘ Row.map f = fun r : Row T α => p r.columns :=
    funext fun r => h r.columns
  simp only [newest, Table.map, List.filter_map, hkept, newestFirst_map, List.head?_map]

end map

end LlmMax.SqlTable
