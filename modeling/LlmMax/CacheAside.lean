import LlmMax.EffectThreads

/-! A cache in front of a costly value: slots that expire, on a server that may refuse a call,
lose its answer or evict a slot, and the programs that read through it. -/
namespace LlmMax.CacheAside
open EffectProgram EffectThreads History

inductive CacheCall (K R V : Type)
  | get (key : K)
  | set (key : K) (raw : R) (ttl : ℚ)
  | produce
  | serve (value : V)

abbrev CacheCall.Reply {K R V : Type} : CacheCall K R V → Type
  | .get _ => Option R
  | .set _ _ _ => Unit
  | .produce => V
  | .serve _ => Unit

abbrev cache (K R V : Type) : Interface := ⟨CacheCall K R V, CacheCall.Reply⟩

structure Entry (R : Type) where
  raw : R
  expires : ℚ
  deriving DecidableEq

/-- How a call to the server goes: a lost one is carried out, and raises all the same. -/
inductive Connection (ε : Type)
  | up
  | refused (e : ε)
  | lost (e : ε)

/-- Everything but the slots: time that passes with every call, the connection, evictions and
the costly value. -/
structure Surroundings (K R V ε E : Type) where
  elapse : E → ℚ
  elapse_nonneg : ∀ x, 0 ≤ elapse x
  evicts : E → Bool
  connection : E → Connection ε
  produce : E → Except ε V
  next : CacheCall K R V → E → E

structure World (K R E : Type) where
  clock : ℚ
  slots : K → Option (Entry R)
  rest : E

variable {K R V ε E : Type}

/-- What a slot still holds at a time. -/
def Entry.at (now : ℚ) (entry : Entry R) : Option R :=
  if now < entry.expires then some entry.raw else none

abbrev CacheStep (K R V ε E : Type) := Step (cache K R V) ε (World K R E)

abbrev CacheEvent (K R V ε E : Type) := Event (cache K R V) ε (World K R E)

/-- The clock when a call has been answered. -/
def time (env : Surroundings K R V ε E) (x : CacheStep K R V ε E) : ℚ :=
  x.before.clock + env.elapse x.before.rest

/-- The value that a step produced. -/
def produced : CacheStep K R V ε E → Option V
  | ⟨_, .produce, .ok v⟩ => some v
  | _ => none

/-- What a step read from a slot. -/
def found : CacheStep K R V ε E → Option (K × R)
  | ⟨_, .get key, .ok (some raw)⟩ => some (key, raw)
  | _ => none

/-- What a step asked to be kept, and for how long. -/
def written : CacheStep K R V ε E → Option (K × R × ℚ)
  | ⟨_, .set key raw ttl, _⟩ => some (key, raw, ttl)
  | _ => none

/-- What a process has in hand. -/
inductive Hand (R V : Type)
  | nothing
  | hit (raw : R)
  | fresh (value : V)

section programs
variable (caught : ε → Bool) (key : K) (ttl : ℚ) (encode : V → R) (decode : R → Option V)

/-- Only a value just produced is written, under one key and for one time; only that or one
just read is served. -/
def readThrough : Protocol (cache K R V) ε (Hand R V) where
  allowed hand c := match c with
    | .get k => k = key
    | .set k raw t => k = key ∧ t = ttl ∧ ∃ v, hand = .fresh v ∧ raw = encode v
    | .produce => True
    | .serve v => hand = .fresh v ∨ ∃ raw, hand = .hit raw ∧ decode raw = some v
  move hand c := match c with
    | .get _ => fun
      | .ok (some raw) => .hit raw
      | _ => .nothing
    | .produce => fun
      | .ok v => .fresh v
      | .error _ => .nothing
    | _ => fun _ => hand

/-- Produce the value and keep it, if the server takes it. -/
def refill : Program (cache K R V) ε V := do
  let v ← Program.perform (I := cache K R V) .produce
  match ← Program.attempt (I := cache K R V) (.set key (encode v) ttl) with
  | .ok _ => return v
  | .error e => if caught e then return v else Program.raise e

/-- Read through the slot; the answer tells whether it was there. -/
def fetch : Program (cache K R V) ε (V × Bool) := do
  match ← Program.attempt (I := cache K R V) (.get key) with
  | .ok raw =>
    match raw.bind decode with
    | some v => return (v, true)
    | none => return (← refill caught key ttl encode, false)
  | .error e =>
    if caught e then return (← refill caught key ttl encode, false) else Program.raise e

variable (env : Surroundings K R V ε E) (initial : Option (Entry R))

/-- The slot as some process has written it, a value that the process had produced before;
or as it was at first. -/
def Source (past : List (CacheEvent K R V ε E)) (entry : Entry R) : Prop :=
  initial = some entry ∨ ∃ pre write post, past = pre ++ write :: post ∧
    written write.step = some (key, entry.raw, ttl) ∧ entry.expires = time env write.step + ttl ∧
    ∃ e ∈ pre, e.thread = write.thread ∧ ∃ v, produced e.step = some v ∧ encode v = entry.raw

/-- The process has produced the value itself. -/
def Fresh (past : List (CacheEvent K R V ε E)) (thread : ℕ) (v : V) : Prop :=
  ∃ e ∈ past, e.thread = thread ∧ produced e.step = some v

/-- The process has read it from the slot, before the slot expired. -/
def Hit (past : List (CacheEvent K R V ε E)) (thread : ℕ) (raw : R) : Prop :=
  ∃ pre read post entry, past = pre ++ read :: post ∧ read.thread = thread ∧
    found read.step = some (key, raw) ∧ Source key ttl encode env initial pre entry ∧
    entry.raw = raw ∧ time env read.step < entry.expires

/-- What a served value may be. -/
def Accounted (past : List (CacheEvent K R V ε E)) (e : CacheEvent K R V ε E) : Prop :=
  ∀ v, e.step.call = .serve v → Fresh past e.thread v ∨
    ∃ raw, Hit key ttl encode env initial past e.thread raw ∧ decode raw = some v

/-- What a run of complying processes keeps. -/
structure Kept (past : List (CacheEvent K R V ε E)) (hand : ℕ → Hand R V) (w : World K R E) :
    Prop where
  slot : ∀ entry, w.slots key = some entry → Source key ttl encode env initial past entry
  fresh : ∀ i v, hand i = .fresh v → Fresh past i v
  hit : ∀ i raw, hand i = .hit raw → Hit key ttl encode env initial past i raw

end programs

section grows
variable {key : K} {ttl : ℚ} {encode : V → R} {env : Surroundings K R V ε E} {initial : Option (Entry R)}
  {past : List (CacheEvent K R V ε E)} {e : CacheEvent K R V ε E} {i : ℕ}

lemma Source.append {entry : Entry R} (h : Source key ttl encode env initial past entry) :
    Source key ttl encode env initial (past ++ [e]) entry := by
  rcases h with h | ⟨pre, write, post, rfl, h⟩
  · exact .inl h
  · exact .inr ⟨pre, write, post ++ [e], by simp, h⟩

lemma Fresh.append {v : V} (h : Fresh past i v) : Fresh (past ++ [e]) i v := by
  obtain ⟨x, hx, h⟩ := h
  exact ⟨x, List.mem_append_left _ hx, h⟩

lemma Hit.append {raw : R} (h : Hit key ttl encode env initial past i raw) :
    Hit key ttl encode env initial (past ++ [e]) i raw := by
  obtain ⟨pre, read, post, entry, rfl, h⟩ := h
  exact ⟨pre, read, post ++ [e], entry, by simp, h⟩

end grows

section server
variable [DecidableEq K]

def serving (env : Surroundings K R V ε E) : Handler (cache K R V) ε (World K R E) where
  handle c w :=
    let now := w.clock + env.elapse w.rest
    let slots := if env.evicts w.rest then fun _ => none else w.slots
    let stored key raw ttl := Function.update slots key (some ⟨raw, now + ttl⟩)
    let rest := env.next c w.rest
    match c with
    | .get key => match env.connection w.rest with
      | .up => (.ok ((slots key).bind (Entry.at now)), ⟨now, slots, rest⟩)
      | .refused e | .lost e => (.error e, ⟨now, slots, rest⟩)
    | .set key raw ttl => match env.connection w.rest with
      | .up => (.ok (), ⟨now, stored key raw ttl, rest⟩)
      | .refused e => (.error e, ⟨now, slots, rest⟩)
      | .lost e => (.error e, ⟨now, stored key raw ttl, rest⟩)
    | .produce => (env.produce w.rest, ⟨now, slots, rest⟩)
    | .serve _ => (.ok (), ⟨now, slots, rest⟩)

variable (env : Surroundings K R V ε E) (w : World K R E)

/-- A slot keeps its entry, loses it, or gets the one that the call writes. -/
lemma handle_slot (c : CacheCall K R V) {key : K} {entry : Entry R}
    (h : ((serving env).handle c w).2.slots key = some entry) :
    w.slots key = some entry ∨ ∃ raw ttl, c = .set key raw ttl ∧
      entry = ⟨raw, w.clock + env.elapse w.rest + ttl⟩ := by
  have hkept : (if env.evicts w.rest then fun _ => none else w.slots) key = some entry →
      w.slots key = some entry := by
    intro hslot
    split_ifs at hslot
    exact hslot
  cases c with
  | get k =>
    simp only [serving] at h
    split at h <;> exact .inl (hkept h)
  | set k raw ttl =>
    simp only [serving] at h
    by_cases hk : k = key
    · subst hk
      split at h
      · simp only [Function.update_self, Option.some.injEq] at h
        exact .inr ⟨raw, ttl, rfl, h.symm⟩
      · exact .inl (hkept h)
      · simp only [Function.update_self, Option.some.injEq] at h
        exact .inr ⟨raw, ttl, rfl, h.symm⟩
    · split at h
      · exact .inl (hkept (by simpa [Function.update_of_ne (Ne.symm hk)] using h))
      · exact .inl (hkept h)
      · exact .inl (hkept (by simpa [Function.update_of_ne (Ne.symm hk)] using h))
  | produce => exact .inl (hkept h)
  | serve v => exact .inl (hkept h)

/-- What is read was in the slot and had not expired. -/
lemma handle_get {key : K} {raw : R} (h : ((serving env).handle (.get key) w).1 = .ok (some raw)) :
    ∃ entry, w.slots key = some entry ∧ entry.raw = raw ∧
      w.clock + env.elapse w.rest < entry.expires := by
  simp only [serving] at h
  split at h
  · obtain ⟨entry, hslot, hlive⟩ := Option.bind_eq_some_iff.mp (Except.ok.inj h)
    split_ifs at hslot
    unfold Entry.at at hlive
    split_ifs at hlive with hlt
    exact ⟨entry, hslot, Option.some.inj hlive, hlt⟩
  · cases h
  · cases h

end server

section interleaved
variable [DecidableEq K] {key : K} {ttl : ℚ} {encode : V → R} {decode : R → Option V}
  {env : Surroundings K R V ε E} {initial : Option (Entry R)} {past : List (CacheEvent K R V ε E)}
  {hand : ℕ → Hand R V} {w : World K R E} {i : ℕ} {c : CacheCall K R V}

/-- The event of a call. -/
def event (env : Surroundings K R V ε E) (i : ℕ) (w : World K R E) (c : CacheCall K R V) :
    CacheEvent K R V ε E :=
  ⟨i, w, c, ((serving env).handle c w).1⟩

/-- The process that serves a value is entitled to it. -/
lemma accounted_of_kept (h : Kept key ttl encode env initial past hand w)
    (hallowed : (readThrough (ε := ε) key ttl encode decode).allowed (hand i) c) :
    Accounted key ttl encode decode env initial past (event env i w c) := by
  intro v hserve
  obtain rfl : c = .serve v := hserve
  rcases hallowed with hfresh | ⟨raw, hhit, hdecode⟩
  · exact .inl (h.fresh i v hfresh)
  · exact .inr ⟨raw, h.hit i raw hhit, hdecode⟩

lemma kept_slot (h : Kept key ttl encode env initial past hand w)
    (hallowed : (readThrough (ε := ε) key ttl encode decode).allowed (hand i) c) {entry : Entry R}
    (hslot : ((serving env).handle c w).2.slots key = some entry) :
    Source key ttl encode env initial (past ++ [event env i w c]) entry := by
  rcases handle_slot env w c hslot with hold | ⟨raw, t, rfl, rfl⟩
  · exact (h.slot entry hold).append
  · obtain ⟨_, rfl, v, hfresh, rfl⟩ := hallowed
    obtain ⟨e, he, hthread, hproduced⟩ := h.fresh i v hfresh
    exact .inr ⟨past, event env i w _, [], rfl, rfl, rfl, e, he, hthread, v, hproduced, rfl⟩

/-- The step lemma: what is in hand after a call has been produced or read by then. -/
lemma kept_hand (h : Kept key ttl encode env initial past hand w)
    (hallowed : (readThrough (ε := ε) key ttl encode decode).allowed (hand i) c) :
    let hand' := (readThrough key ttl encode decode).move (hand i) c ((serving env).handle c w).1
    (∀ v, hand' = .fresh v → Fresh (past ++ [event env i w c]) i v) ∧
      ∀ raw, hand' = .hit raw → Hit key ttl encode env initial (past ++ [event env i w c]) i raw := by
  intro hand'
  have hsame (hkeep : hand' = hand i) :
      (∀ v, hand' = .fresh v → Fresh (past ++ [event env i w c]) i v) ∧ ∀ raw,
        hand' = .hit raw → Hit key ttl encode env initial (past ++ [event env i w c]) i raw := by
    rw [hkeep]
    exact ⟨fun v hv => (h.fresh i v hv).append, fun raw hr => (h.hit i raw hr).append⟩
  have hnone (hempty : hand' = .nothing) :
      (∀ v, hand' = .fresh v → Fresh (past ++ [event env i w c]) i v) ∧ ∀ raw,
        hand' = .hit raw → Hit key ttl encode env initial (past ++ [event env i w c]) i raw := by
    rw [hempty]
    constructor
    · intro v hv
      cases hv
    · intro raw hr
      cases hr
  cases c with
  | set k raw t => exact hsame rfl
  | serve v => exact hsame rfl
  | produce =>
    cases hreply : ((serving env).handle (.produce : CacheCall K R V) w).1 with
    | error e => exact hnone (by simp only [hand', readThrough, hreply])
    | ok v =>
      have hmove : hand' = .fresh v := by simp only [hand', readThrough, hreply]
      rw [hmove]
      constructor
      · rintro v' ⟨⟩
        refine ⟨event env i w .produce, by simp, rfl, ?_⟩
        simp only [event, hreply, produced]
      · intro raw hr
        cases hr
  | get k =>
    obtain rfl : k = key := hallowed
    rcases hreply : ((serving env).handle (.get k : CacheCall K R V) w).1 with e | (_ | raw)
    · exact hnone (by simp only [hand', readThrough, hreply])
    · exact hnone (by simp only [hand', readThrough, hreply])
    · have hmove : hand' = .hit raw := by simp only [hand', readThrough, hreply]
      rw [hmove]
      constructor
      · intro v hv
        cases hv
      · rintro raw' ⟨⟩
        obtain ⟨entry, hslot, hraw, hlive⟩ := handle_get env w hreply
        refine ⟨past, event env i w (.get k), [], entry, rfl, rfl, ?_, h.slot entry hslot, hraw,
          hlive⟩
        simp only [event, hreply, found]

/-- In every interleaving of processes that read through the slot, each value served was
produced by the process that serves it, or read by it from the slot in time. -/
theorem interleave_accounted {threads : List (Program (cache K R V) ε Unit)}
    (hthreads : ∀ p ∈ threads,
      Complies (readThrough key ttl encode decode) (fun _ _ => True) .nothing p)
    (schedule : List ℕ) (w : World K R E) :
    Each (Accounted key ttl encode decode env (w.slots key)) []
      (interleave (serving env) schedule threads w) := by
  apply interleave_each (fun _ => readThrough key ttl encode decode)
    (Kept key ttl encode env (w.slots key)) (q := fun _ => .nothing)
  · constructor
    · intro entry h
      exact .inl h
    · intro i v h
      cases h
    · intro i raw h
      cases h
  · intro i p hp
    exact hthreads p (List.mem_of_getElem? hp)
  · intro past hand s i c hkept hallowed
    obtain ⟨hfresh, hhit⟩ := kept_hand hkept hallowed
    refine ⟨accounted_of_kept hkept hallowed, ?_, ?_, ?_⟩
    · intro entry hslot
      exact kept_slot hkept hallowed hslot
    · intro j v hj
      by_cases hij : j = i
      · subst hij
        rw [Function.update_self] at hj
        exact hfresh v hj
      · rw [Function.update_of_ne hij] at hj
        exact (hkept.fresh j v hj).append
    · intro j raw hj
      by_cases hij : j = i
      · subst hij
        rw [Function.update_self] at hj
        exact hhit raw hj
      · rw [Function.update_of_ne hij] at hj
        exact (hkept.hit j raw hj).append

end interleaved

section fetching
variable {caught : ε → Bool} {key : K} {ttl : ℚ} {encode : V → R} {decode : R → Option V}

/-- A value may be served by what is in hand. -/
def Holds (decode : R → Option V) (v : V) (hand : Hand R V) : Prop :=
  hand = .fresh v ∨ ∃ raw, hand = .hit raw ∧ decode raw = some v

lemma refill_complies (hand : Hand R V) :
    Complies (readThrough (ε := ε) key ttl encode decode) (fun v hand => hand = .fresh v) hand
      (refill caught key ttl encode) := by
  have hproduce : Complies (readThrough (ε := ε) key ttl encode decode)
      (fun v hand => hand = .fresh v) hand (Program.perform (I := cache K R V) .produce) :=
    complies_perform (I := cache K R V) trivial fun _ => rfl
  apply hproduce.bind
  rintro v _ rfl
  have hset : (readThrough (ε := ε) key ttl encode decode).allowed (.fresh v)
      (.set key (encode v) ttl) := ⟨rfl, rfl, v, rfl, rfl⟩
  apply complies_attempt_bind hset
  rintro (e | _)
  · dsimp only
    split_ifs
    · exact complies_pure rfl
    · trivial
  · exact complies_pure rfl

lemma refilled_complies (hand : Hand R V) :
    Complies (readThrough (ε := ε) key ttl encode decode) (fun out => Holds decode out.1) hand
      (refill caught key ttl encode >>= fun v => pure (v, false)) := by
  apply (refill_complies hand).bind
  rintro v _ rfl
  exact complies_pure (.inl rfl)

lemma fetch_complies :
    Complies (readThrough (ε := ε) key ttl encode decode) (fun out => Holds decode out.1) .nothing
      (fetch caught key ttl encode decode) := by
  apply complies_attempt_bind (I := cache K R V) rfl
  rintro (e | raw)
  · dsimp only
    split_ifs
    · exact refilled_complies _
    · trivial
  · dsimp only
    split
    · rename_i v hv
      obtain ⟨text, rfl, hdecode⟩ := Option.bind_eq_some_iff.mp hv
      exact complies_pure (.inr ⟨text, rfl, hdecode⟩)
    · exact refilled_complies _

/-- What reading through the slot comes to, whoever serves it: exceptions of the server stay
inside if they can be caught, and the answer tells where the value is from. -/
structure Fetched (caught : ε → Bool) (key : K) (decode : R → Option V)
    (r : Except ε (V × Bool)) (t : List (CacheStep K R V ε E)) : Prop where
  hit : ∀ v, r = .ok (v, true) → ∃ raw, t.filterMap found = [(key, raw)] ∧ decode raw = some v ∧
    ∀ x ∈ t, x.call ≠ .produce
  fresh : ∀ v, r = .ok (v, false) → t.filterMap produced = [v]
  raised : ∀ e, r = .error e → caught e = false ∨
    ∃ w, (⟨w, .produce, .error e⟩ : CacheStep K R V ε E) ∈ t

variable {H : Handler (cache K R V) ε (World K R E)} {w : World K R E}

lemma refill_ensures : Ensures H (refill caught key ttl encode) w fun r t _ =>
    (∀ v, r = .ok v → t.filterMap produced = [v]) ∧ ∀ e, r = .error e → caught e = false ∨
      ∃ w, (⟨w, .produce, .error e⟩ : CacheStep K R V ε E) ∈ t := by
  apply ensures_call
  cases hreply : (H.handle .produce w).1 with
  | error e =>
    apply ensures_raise
    constructor
    · rintro v ⟨⟩
    · rintro e' ⟨⟩
      exact .inr ⟨w, by simp⟩
  | ok v =>
    apply ensures_attempt_bind
    cases (H.handle (.set key (encode v) ttl) (H.handle .produce w).2).1 with
    | ok _ =>
      apply ensures_pure
      constructor
      · rintro v' ⟨⟩
        simp [produced]
      · rintro e ⟨⟩
    | error e =>
      dsimp only
      split_ifs with he
      · apply ensures_pure
        constructor
        · rintro v' ⟨⟩
          simp [produced]
        · rintro e' ⟨⟩
      · apply ensures_raise
        constructor
        · rintro v' ⟨⟩
        · rintro e' ⟨⟩
          exact .inl (by simpa using he)

/-- The answer after the slot could not be used. -/
lemma refilled_ensures (r : Except ε (Option R)) (w₀ : World K R E) :
    Ensures H (refill caught key ttl encode >>= fun v => pure (v, false)) w fun out t _ =>
      Fetched caught key decode out (⟨w₀, .get key, r⟩ :: t) := by
  apply refill_ensures.bind
  · rintro v t w' ⟨hfresh, _⟩
    apply ensures_pure
    constructor
    · rintro v' ⟨⟩
    · rintro v' ⟨⟩
      rw [List.append_nil, List.filterMap_cons_none rfl]
      exact hfresh v rfl
    · rintro e ⟨⟩
  · rintro e t w' ⟨_, hraised⟩
    constructor
    · rintro v' ⟨⟩
    · rintro v' ⟨⟩
    · rintro e' ⟨⟩
      rcases hraised e rfl with huncaught | ⟨w, hw⟩
      · exact .inl huncaught
      · exact .inr ⟨w, List.mem_cons_of_mem _ hw⟩

theorem fetch_ensures : Ensures H (fetch caught key ttl encode decode) w fun r t _ =>
    Fetched caught key decode r t := by
  apply ensures_attempt_bind
  rcases (H.handle (.get key) w).1 with e | raw
  · dsimp only
    split_ifs with he
    · exact refilled_ensures _ _
    · apply ensures_raise
      constructor
      · rintro v ⟨⟩
      · rintro v ⟨⟩
      · rintro e' ⟨⟩
        exact .inl (by simpa using he)
  · dsimp only
    split
    · rename_i v hv
      obtain ⟨text, rfl, hdecode⟩ := Option.bind_eq_some_iff.mp hv
      apply ensures_pure
      constructor
      · rintro v' ⟨⟩
        exact ⟨text, rfl, hdecode, by simp⟩
      · rintro v' ⟨⟩
      · rintro e ⟨⟩
    · exact refilled_ensures _ _

end fetching

section spacing
variable [DecidableEq K] {caught : ε → Bool} {key : K} {ttl : ℚ} {encode : V → R}
  {decode : R → Option V} {env : Surroundings K R V ε E}

/-- A server that always answers and keeps its slots. -/
structure Healthy (env : Surroundings K R V ε E) : Prop where
  up : ∀ x, env.connection x = .up
  keeps : ∀ x, env.evicts x = false

/-- The steps of programs run one after the other, whether they raise or not. -/
def serially (H : Handler (cache K R V) ε (World K R E)) {α : Type} :
    List (Program (cache K R V) ε α) → World K R E → List (CacheStep K R V ε E)
  | [], _ => []
  | p :: later, w => (exec H p w).steps ++ serially H later (exec H p w).state

/-- The value is not produced again before it may have expired. -/
def Spaced (env : Surroundings K R V ε E) (ttl : ℚ) (past : List (CacheStep K R V ε E))
    (x : CacheStep K R V ε E) : Prop :=
  x.call = .produce → ∀ y ∈ past, (produced y).isSome → time env y + ttl ≤ time env x

/-- The slot outlasts every value produced so far by the time it is kept. -/
def Outlasts (env : Surroundings K R V ε E) (key : K) (ttl : ℚ) (decode : R → Option V)
    (past : List (CacheStep K R V ε E)) (w : World K R E) : Prop :=
  ∀ y ∈ past, (produced y).isSome → ∃ entry, w.slots key = some entry ∧
    (decode entry.raw).isSome ∧ time env y + ttl ≤ entry.expires

omit [DecidableEq K] in
lemma Outlasts.append {past : List (CacheStep K R V ε E)} {x : CacheStep K R V ε E}
    {w w' : World K R E} (h : Outlasts env key ttl decode past w) (hslots : w'.slots = w.slots)
    (hx : produced x = none) : Outlasts env key ttl decode (past ++ [x]) w' := by
  intro y hy hproduced
  rw [hslots]
  rcases List.mem_append.mp hy with hy | hy
  · exact h y hy hproduced
  · obtain rfl := List.mem_singleton.mp hy
    simp [hx] at hproduced

section healthy
variable (hhealthy : Healthy env) (w : World K R E)
include hhealthy

/-- The world after a call that writes nothing. -/
lemma healthy_get : ((serving env).handle (.get key) w) =
    (.ok ((w.slots key).bind (Entry.at (w.clock + env.elapse w.rest))),
      ⟨w.clock + env.elapse w.rest, w.slots, env.next (.get key) w.rest⟩) := by
  simp [serving, hhealthy.up, hhealthy.keeps]

lemma healthy_produce : ((serving env).handle .produce w) =
    (env.produce w.rest, ⟨w.clock + env.elapse w.rest, w.slots, env.next .produce w.rest⟩) := by
  simp [serving, hhealthy.keeps]

lemma healthy_set (raw : R) : ((serving env).handle (.set key raw ttl) w) =
    (.ok (), ⟨w.clock + env.elapse w.rest,
      Function.update w.slots key (some ⟨raw, w.clock + env.elapse w.rest + ttl⟩),
      env.next (.set key raw ttl) w.rest⟩) := by
  simp [serving, hhealthy.up, hhealthy.keeps]

end healthy

omit [DecidableEq K] in
/-- On a healthy server a slot that is not read with use has run out for every value produced
so far. -/
lemma expired_of_unread {past : List (CacheStep K R V ε E)} {w : World K R E} {now : ℚ}
    (h : Outlasts env key ttl decode past w)
    (hread : ∀ raw, (w.slots key).bind (Entry.at now) = some raw → decode raw = none) :
    ∀ y ∈ past, (produced y).isSome → time env y + ttl ≤ now := by
  intro y hy hproduced
  obtain ⟨entry, hslot, hdecode, houtlasts⟩ := h y hy hproduced
  by_contra hlate
  have hlive : now < entry.expires := by linarith
  have hnone : decode entry.raw = none := by
    apply hread
    simp [hslot, Entry.at, hlive]
  simp [hnone] at hdecode

lemma refill_spaced (hhealthy : Healthy env)
    (hround : ∀ x v, env.produce x = .ok v → decode (encode v) = some v)
    (httl : 0 ≤ ttl) {past : List (CacheStep K R V ε E)} {w : World K R E}
    (h : Outlasts env key ttl decode past w)
    (hexpired : ∀ y ∈ past, (produced y).isSome → time env y + ttl ≤ w.clock) :
    Ensures (serving env) (refill caught key ttl encode) w fun _ t w' =>
      Each (Spaced env ttl) past t ∧ Outlasts env key ttl decode (past ++ t) w' := by
  have helapse := env.elapse_nonneg w.rest
  have hspaced (reply : Except ε V) : Spaced env ttl past ⟨w, .produce, reply⟩ := by
    intro _ y hy hproduced
    have hearlier := hexpired y hy hproduced
    simp only [time] at hearlier ⊢
    linarith
  apply ensures_call
  rw [healthy_produce hhealthy]
  cases hproduce : env.produce w.rest with
  | error e =>
    apply ensures_raise
    exact ⟨⟨hspaced _, trivial⟩, h.append rfl rfl⟩
  | ok v =>
    have hlater := env.elapse_nonneg (env.next .produce w.rest)
    apply ensures_attempt_bind
    rw [healthy_set hhealthy]
    apply ensures_pure
    refine ⟨⟨hspaced _, ⟨?_, trivial⟩⟩, fun y hy hvalue => ?_⟩
    · intro hset
      cases hset
    refine ⟨⟨encode v, _⟩, Function.update_self .., by simp [hround _ v hproduce], ?_⟩
    rw [List.append_cons] at hy
    rcases List.mem_append.mp hy with hy | hy
    · rcases List.mem_append.mp hy with hy | hy
      · have hearlier := hexpired y hy hvalue
        dsimp only
        linarith
      · obtain rfl := List.mem_singleton.mp hy
        simp only [time]
        linarith
    · obtain rfl := List.mem_singleton.mp hy
      cases hvalue

/-- A program that spaces what it produces, whatever was produced before it. -/
def KeepsSpacing (env : Surroundings K R V ε E) (key : K) (ttl : ℚ) (decode : R → Option V)
    {α : Type} (p : Program (cache K R V) ε α) : Prop :=
  ∀ past w, Outlasts env key ttl decode past w → Ensures (serving env) p w fun _ t w' =>
    Each (Spaced env ttl) past t ∧ Outlasts env key ttl decode (past ++ t) w'

/-- The step lemma: one read through the slot. -/
theorem fetch_keepsSpacing (hhealthy : Healthy env)
    (hround : ∀ x v, env.produce x = .ok v → decode (encode v) = some v)
    (httl : 0 ≤ ttl) : KeepsSpacing env key ttl decode (fetch caught key ttl encode decode) := by
  intro past w h
  have hget (reply : Except ε (Option R)) : Spaced env ttl past ⟨w, .get key, reply⟩ := by
    intro hproduce
    cases hproduce
  have hread (reply : Except ε (Option R)) : Outlasts env key ttl decode
      (past ++ [⟨w, .get key, reply⟩])
      ⟨w.clock + env.elapse w.rest, w.slots, env.next (.get key) w.rest⟩ :=
    h.append rfl rfl
  have hrefilled (reply : Except ε (Option R)) (hunread : ∀ raw,
      (w.slots key).bind (Entry.at (w.clock + env.elapse w.rest)) = some raw → decode raw = none) :
      Ensures (serving env) (refill caught key ttl encode >>= fun v => pure (v, false))
        ⟨w.clock + env.elapse w.rest, w.slots, env.next (.get key) w.rest⟩ fun _ t w' =>
          Each (Spaced env ttl) past (⟨w, .get key, reply⟩ :: t) ∧
            Outlasts env key ttl decode (past ++ ⟨w, .get key, reply⟩ :: t) w' := by
    have hexpired := expired_of_unread (hread reply) hunread
    apply (refill_spaced hhealthy hround httl (hread reply) hexpired).bind
    · rintro v t w' ⟨hsteps, hend⟩
      apply ensures_pure
      rw [List.append_nil, List.append_cons]
      exact ⟨⟨hget reply, hsteps⟩, hend⟩
    · rintro e t w' ⟨hsteps, hend⟩
      rw [List.append_cons]
      exact ⟨⟨hget reply, hsteps⟩, hend⟩
  apply ensures_attempt_bind
  rw [healthy_get hhealthy]
  dsimp only
  split
  · apply ensures_pure
    exact ⟨⟨hget _, trivial⟩, hread _⟩
  · rename_i hnone
    apply hrefilled
    intro raw hraw
    simpa [hraw] using hnone

theorem KeepsSpacing.bind {α β : Type} {p : Program (cache K R V) ε α}
    {f : α → Program (cache K R V) ε β} (hp : KeepsSpacing env key ttl decode p)
    (hf : ∀ a, KeepsSpacing env key ttl decode (f a)) :
    KeepsSpacing env key ttl decode (p >>= f) := by
  intro past w h
  apply (hp past w h).bind
  · rintro a t w' ⟨hsteps, hend⟩
    apply (hf a (past ++ t) w' hend).mono
    rintro r t' w'' ⟨hsteps', hend'⟩
    rw [each_append, ← List.append_assoc]
    exact ⟨⟨hsteps, hsteps'⟩, hend'⟩
  · intro e t w' h
    exact h

theorem keepsSpacing_lift {α : Type} (x : Except ε α) :
    KeepsSpacing env key ttl decode (Program.lift x) := by
  intro past w h
  apply ensures_lift
  exact ⟨trivial, by simpa using h⟩

theorem keepsSpacing_serve (hhealthy : Healthy env) (v : V) :
    KeepsSpacing env key ttl decode (Program.perform (I := cache K R V) (.serve v)) := by
  intro past w h
  apply ensures_perform
  refine ⟨⟨?_, trivial⟩, h.append ?_ rfl⟩
  · intro hserve
    cases hserve
  · simp [serving, hhealthy.keeps]

/-- Programs that read through a healthy server, one after the other, leave the time to live
between a value and the next time it is produced. -/
theorem serially_spaced {α : Type} {programs : List (Program (cache K R V) ε α)}
    (h : ∀ p ∈ programs, KeepsSpacing env key ttl decode p) (w : World K R E) :
    Each (Spaced env ttl) [] (serially (serving env) programs w) := by
  suffices hpast : ∀ past, Outlasts env key ttl decode past w →
      Each (Spaced env ttl) past (serially (serving env) programs w) from
    hpast [] (by simp [Outlasts])
  induction programs generalizing w with
  | nil =>
    intro past _
    trivial
  | cons p later ih =>
    intro past hpast
    obtain ⟨hp, hlater⟩ := List.forall_mem_cons.mp h
    obtain ⟨hsteps, hnext⟩ := hp past w hpast
    rw [serially, each_append]
    exact ⟨hsteps, ih hlater _ _ hnext⟩

end spacing


end LlmMax.CacheAside
