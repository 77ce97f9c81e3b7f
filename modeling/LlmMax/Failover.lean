import LlmMax.EffectProgram

/-! Two stores behind one interface: every call goes to the primary, and to the fallback
when the primary raises. When a raising operation leaves its store alone, each store is
the replay of the calls it answered. -/
namespace LlmMax.Failover
open EffectProgram

variable {I : Interface} {ε σ τ α : Type}

/-- The two stores, and whether the last call went to the second one. -/
structure Pair (σ τ : Type) where
  primary : σ
  fallback : τ
  lastUsedFallback : Bool := false
  deriving DecidableEq

/-- Call a method on the primary; if it raises, call it on the fallback. -/
def call (primary : σ → Except ε α × σ) (fallback : τ → Except ε α × τ) (s : Pair σ τ) :
    Except ε α × Pair σ τ :=
  match primary s.primary with
  | (.ok result, primary') => (.ok result, ⟨primary', s.fallback, false⟩)
  | (.error _, primary') =>
    let out := fallback s.fallback
    (out.1, ⟨primary', out.2, true⟩)

/-- A store none of whose operations changes it and raises. -/
structure AtomicStore (I : Interface) (ε σ : Type) extends Handler I ε σ where
  unchanged : ∀ c s e, (handle c s).1 = .error e → (handle c s).2 = s

/-- The store under a fault: it raises before it touches its state. -/
def AtomicStore.under (fault : Option ε) (store : AtomicStore I ε σ) : AtomicStore I ε σ where
  handle c s :=
    match fault with
    | none => store.handle c s
    | some e => (.error e, s)
  unchanged c s e h := by
    cases fault with
    | none => exact store.unchanged c s e h
    | some e' => rfl

/-- One operation of a run, with the faults that the schedule has for it. -/
structure Attempt (I : Interface) (ε : Type) where
  op : I.Call
  primaryFault : Option ε := none
  fallbackFault : Option ε := none

section run
variable (primary : AtomicStore I ε σ) (fallback : AtomicStore I ε τ)

def serve (a : Attempt I ε) (s : Pair σ τ) : Except ε (I.Reply a.op) × Pair σ τ :=
  call ((primary.under a.primaryFault).handle a.op) ((fallback.under a.fallbackFault).handle a.op) s

/-- One call as it happened. -/
structure Record (I : Interface) (ε σ τ : Type) where
  attempt : Attempt I ε
  before : Pair σ τ
  result : Except ε (I.Reply attempt.op)
  after : Pair σ τ

def records : List (Attempt I ε) → Pair σ τ → List (Record I ε σ τ)
  | [], _ => []
  | a :: rest, s =>
    let out := serve primary fallback a s
    ⟨a, s, out.1, out.2⟩ :: records rest out.2

/-- The two stores at the end of a run. -/
def final (attempts : List (Attempt I ε)) (s : Pair σ τ) : Pair σ τ :=
  attempts.foldl (fun s a => (serve primary fallback a s).2) s

/-- What the call does when it is made on the primary. -/
def Record.onPrimary (r : Record I ε σ τ) : Except ε (I.Reply r.attempt.op) :=
  ((primary.under r.attempt.primaryFault).handle r.attempt.op r.before.primary).1

/-- What the call does when it is made on the fallback. -/
def Record.onFallback (r : Record I ε σ τ) : Except ε (I.Reply r.attempt.op) :=
  ((fallback.under r.attempt.fallbackFault).handle r.attempt.op r.before.fallback).1

/-- The calls on which the primary succeeded. -/
def byPrimary (rs : List (Record I ε σ τ)) : List (Record I ε σ τ) :=
  rs.filter fun r => (r.onPrimary primary).isOk

/-- The calls that failed on the primary and succeeded on the fallback. -/
def byFallback (rs : List (Record I ε σ τ)) : List (Record I ε σ τ) :=
  rs.filter fun r => !(r.onPrimary primary).isOk && (r.onFallback fallback).isOk

end run

/-- A call with the reply it got. -/
abbrev Answer (I : Interface) := Σ c : I.Call, I.Reply c

def Record.answer (r : Record I ε σ τ) : Option (Answer I) :=
  match r.result with
  | .ok reply => some ⟨r.attempt.op, reply⟩
  | .error _ => none

/-- Make the calls on one store, one after the other, until one of them raises. -/
def replay (H : Handler I ε σ) : List I.Call → σ → Except ε (List (Answer I) × σ)
  | [], s => .ok ([], s)
  | c :: calls, s =>
    match H.handle c s with
    | (.error e, _) => .error e
    | (.ok reply, s') => (replay H calls s').map fun out => (⟨c, reply⟩ :: out.1, out.2)

section run
variable (primary : AtomicStore I ε σ) (fallback : AtomicStore I ε τ)

/-- The three ways a call can come out. -/
inductive Served (a : Attempt I ε) (s : Pair σ τ) :
    Except ε (I.Reply a.op) → Pair σ τ → Prop
  | primary {reply : I.Reply a.op} {s' : σ}
      (answered : (primary.under a.primaryFault).handle a.op s.primary = (.ok reply, s')) :
      Served a s (.ok reply) ⟨s', s.fallback, false⟩
  | fallback {e : ε} {reply : I.Reply a.op} {s' : τ}
      (refused : ((primary.under a.primaryFault).handle a.op s.primary).1 = .error e)
      (answered : (fallback.under a.fallbackFault).handle a.op s.fallback = (.ok reply, s')) :
      Served a s (.ok reply) ⟨s.primary, s', true⟩
  | neither {e e' : ε}
      (refused : ((primary.under a.primaryFault).handle a.op s.primary).1 = .error e)
      (raised : ((fallback.under a.fallbackFault).handle a.op s.fallback).1 = .error e') :
      Served a s (.error e') ⟨s.primary, s.fallback, true⟩

theorem serve_served (a : Attempt I ε) (s : Pair σ τ) :
    Served primary fallback a s (serve primary fallback a s).1 (serve primary fallback a s).2 := by
  cases hp : (primary.under a.primaryFault).handle a.op s.primary with
  | mk result s' =>
    cases result with
    | ok reply =>
      have hserve : serve primary fallback a s = (.ok reply, ⟨s', s.fallback, false⟩) := by
        simp only [serve, call, hp]
      rw [hserve]
      exact .primary hp
    | error e =>
      have hrefused : ((primary.under a.primaryFault).handle a.op s.primary).1 = .error e := by
        rw [hp]
      obtain rfl : s' = s.primary := by
        simpa [hp] using (primary.under a.primaryFault).unchanged a.op s.primary e hrefused
      cases hf : (fallback.under a.fallbackFault).handle a.op s.fallback with
      | mk result s'' =>
        have hserve : serve primary fallback a s = (result, ⟨s.primary, s'', true⟩) := by
          simp only [serve, call, hp, hf]
        rw [hserve]
        cases result with
        | ok reply => exact .fallback hrefused hf
        | error e' =>
          have hraised : ((fallback.under a.fallbackFault).handle a.op s.fallback).1 = .error e' := by
            rw [hf]
          obtain rfl : s'' = s.fallback := by
            simpa [hf] using (fallback.under a.fallbackFault).unchanged a.op s.fallback e' hraised
          exact .neither hrefused hraised

/-- What holds of every served call holds of every record. -/
theorem records_forall {Q : Record I ε σ τ → Prop}
    (h : ∀ a s result s', Served primary fallback a s result s' → Q ⟨a, s, result, s'⟩)
    (attempts : List (Attempt I ε)) (s : Pair σ τ) :
    ∀ r ∈ records primary fallback attempts s, Q r := by
  induction attempts generalizing s with
  | nil => intro r hr; cases hr
  | cons a rest ih =>
    intro r hr
    rcases List.mem_cons.mp hr with rfl | hr
    · exact h _ _ _ _ (serve_served primary fallback a s)
    · exact ih _ r hr

lemma under_handle {store : AtomicStore I ε σ} {fault : Option ε} {c : I.Call} {s s' : σ}
    {reply : I.Reply c} (h : (store.under fault).handle c s = (.ok reply, s')) :
    store.handle c s = (.ok reply, s') := by
  cases fault with
  | none => exact h
  | some e => cases h

lemma replay_cons {H : Handler I ε σ} {c : I.Call} {calls : List I.Call} {s s' s'' : σ}
    {reply : I.Reply c} {answers : List (Answer I)} (h : H.handle c s = (.ok reply, s'))
    (hrest : replay H calls s' = .ok (answers, s'')) :
    replay H (c :: calls) s = .ok (⟨c, reply⟩ :: answers, s'') := by
  simp [replay, h, hrest, Except.map]

lemma replay_cons_inv {H : Handler I ε σ} {c : I.Call} {calls : List I.Call} {s s'' : σ}
    {answers : List (Answer I)} (h : replay H (c :: calls) s = .ok (answers, s'')) :
    ∃ reply s' rest, H.handle c s = (.ok reply, s') ∧ replay H calls s' = .ok (rest, s'') ∧
      answers = ⟨c, reply⟩ :: rest := by
  unfold replay at h
  cases hc : H.handle c s with
  | mk result s' =>
    cases result with
    | error e => simp [hc] at h
    | ok reply =>
      cases hrest : replay H calls s' with
      | error e => simp [hc, hrest, Except.map] at h
      | ok out =>
        simp only [hc, hrest, Except.map, Except.ok.injEq, Prod.mk.injEq] at h
        exact ⟨reply, s', out.1, rfl, by rw [hrest, ← h.2], h.1.symm⟩

/-- The primary ends in the state of replaying the calls it answered, with the answers it gave. -/
theorem replay_primary (attempts : List (Attempt I ε)) (s : Pair σ τ) :
    replay primary.toHandler
        ((byPrimary primary (records primary fallback attempts s)).map fun r => r.attempt.op)
        s.primary =
      .ok ((byPrimary primary (records primary fallback attempts s)).filterMap Record.answer,
        (final primary fallback attempts s).primary) := by
  induction attempts generalizing s with
  | nil => rfl
  | cons a rest ih =>
    have hserved := serve_served primary fallback a s
    have hrest := ih (serve primary fallback a s).2
    simp only [records, final, List.foldl_cons, byPrimary, List.filter_cons, Record.onPrimary]
      at hrest ⊢
    generalize serve primary fallback a s = out at hserved hrest ⊢
    obtain ⟨result, s'⟩ := out
    cases hserved with
    | primary answered =>
      simp only [answered, Except.isOk, Except.toBool, ↓reduceIte, List.map_cons,
        List.filterMap_cons, Record.answer]
      exact replay_cons (under_handle answered) hrest
    | fallback refused answered =>
      simpa [refused, Except.isOk, Except.toBool] using hrest
    | neither refused raised =>
      simpa [refused, Except.isOk, Except.toBool] using hrest

/-- The fallback ends in the state of replaying the calls that only it answered. -/
theorem replay_fallback (attempts : List (Attempt I ε)) (s : Pair σ τ) :
    replay fallback.toHandler
        ((byFallback primary fallback (records primary fallback attempts s)).map
          fun r => r.attempt.op) s.fallback =
      .ok ((byFallback primary fallback (records primary fallback attempts s)).filterMap
          Record.answer, (final primary fallback attempts s).fallback) := by
  induction attempts generalizing s with
  | nil => rfl
  | cons a rest ih =>
    have hserved := serve_served primary fallback a s
    have hrest := ih (serve primary fallback a s).2
    simp only [records, final, List.foldl_cons, byFallback, List.filter_cons, Record.onPrimary,
      Record.onFallback] at hrest ⊢
    generalize serve primary fallback a s = out at hserved hrest ⊢
    obtain ⟨result, s'⟩ := out
    cases hserved with
    | primary answered =>
      simpa [answered, Except.isOk, Except.toBool] using hrest
    | fallback refused answered =>
      simp only [refused, answered, Except.isOk, Except.toBool, Bool.not_false, Bool.and_self,
        ↓reduceIte, List.map_cons, List.filterMap_cons, Record.answer]
      exact replay_cons (under_handle answered) hrest
    | neither refused raised =>
      simpa [refused, raised, Except.isOk, Except.toBool] using hrest

end run

end LlmMax.Failover
