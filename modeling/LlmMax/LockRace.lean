import LlmMax.AutopilotProtocol
import LlmMax.Operations

/-! One autopilot and any number of `disable` calls as processes over one store, in any
order of their single calls. -/
namespace LlmMax.LockRace
open Domain BenchMetrics AutotuneState Storage EffectProgram EffectThreads History Services
open AutotuneEngine AutopilotProtocol Operations

variable {W : Type}

abbrev ServiceEvent (W : Type) := Event services Exn (System W)

/-- The autopilot is thread 0; after it come the processes that disable a model each. -/
def processes (args : AutopilotArgs) (draws : ℕ) (disabled : List String) : List (Engine Unit) :=
  autopilotLoop args draws (.start args) :: disabled.map fun m => (Operation.disable m).program

/-- Once the model is locked it stays locked, and no row is inserted for it. -/
def Keeps (m : String) (s t : System W) : Prop :=
  s.store.Locked m → t.store.Locked m ∧ t.store.rowsOf m = s.store.rowsOf m

instance (m : String) (s t : System W) : Decidable (Keeps m s t) :=
  inferInstanceAs (Decidable (_ → _ ∧ _))

instance (m : String) : Trans (Keeps (W := W) m) (Keeps m) (Keeps m) where
  trans hst htu hs := by
    obtain ⟨ht, hrows⟩ := hst hs
    obtain ⟨hu, hrows'⟩ := htu ht
    exact ⟨hu, hrows'.trans hrows⟩

def LoopReads (m : String) (e : ServiceEvent W) : Prop :=
  e.thread = 0 ∧ e.step.call = .storage (.getTunedConfig m)

def LoopSaves (e : ServiceEvent W) : Prop :=
  e.thread = 0 ∧ ∃ config, e.step.call = .storage (.saveTunedConfig config)

/-- Some lock of the model is newer than every read of the loop. -/
def LockedSinceRead (m : String) (past : List (ServiceEvent W)) : Prop :=
  ∃ pre lock post, past = pre ++ lock :: post ∧
    lock.step.call = .storage (.lockConfig m) ∧ ∀ e ∈ post, ¬ LoopReads m e

lemma lockedSinceRead_append {m : String} {past : List (ServiceEvent W)} {e : ServiceEvent W} :
    LockedSinceRead m (past ++ [e]) ↔
      e.step.call = .storage (.lockConfig m) ∨ LockedSinceRead m past ∧ ¬ LoopReads m e := by
  constructor
  · rintro ⟨pre, lock, post, hsplit, hlock, hpost⟩
    rcases List.eq_nil_or_concat post with rfl | ⟨post', last, rfl⟩
    · obtain ⟨rfl, heq⟩ := List.append_inj' hsplit rfl
      obtain rfl := List.singleton_inj.mp heq
      exact .inl hlock
    · rw [List.concat_eq_append, ← List.cons_append, ← List.append_assoc] at hsplit
      obtain ⟨rfl, heq⟩ := List.append_inj' hsplit rfl
      obtain rfl := List.singleton_inj.mp heq
      refine .inr ⟨⟨pre, lock, post', rfl, hlock, fun x hx => ?_⟩, ?_⟩
      · exact hpost x (by simp [hx])
      · exact hpost e (by simp)
  · rintro (hlock | ⟨⟨pre, lock, post, rfl, hlock, hpost⟩, he⟩)
    · exact ⟨past, e, [], rfl, hlock, by simp⟩
    · refine ⟨pre, lock, post ++ [e], by simp, hlock, fun x hx => ?_⟩
      rcases List.mem_append.mp hx with hx | hx
      · exact hpost x hx
      · obtain rfl := List.mem_singleton.mp hx
        exact he

/-- The typestate tells whether the newest read found a config. -/
def disableProtocol (modelId : String) : Protocol services Exn Bool where
  allowed seen c := match c with
    | .storage (.getTunedConfig m) => m = modelId
    | .storage (.lockConfig m) => seen = true ∧ m = modelId
    | _ => False
  move seen c := match c with
    | .storage (.getTunedConfig _) => fun
      | .ok stored => stored.isSome
      | .error _ => seen
    | _ => fun _ => seen

lemma disable_complies (modelId : String) :
    Complies (disableProtocol modelId) (fun _ _ => True) false
      (Operation.disable modelId).program := by
  have hread : Complies (disableProtocol modelId) (fun stored seen => seen = stored.isSome) false
      (getTunedConfig modelId) := complies_perform (I := services) rfl fun _ => rfl
  have hlock : Complies (disableProtocol modelId) (fun _ _ => True) true (lockConfig modelId) :=
    complies_perform (I := services) ⟨rfl, rfl⟩ fun _ => trivial
  have hdisable : Complies (disableProtocol modelId) (fun _ _ => True) false
      (autopilotDisable modelId) := by
    apply hread.bind
    rintro stored _ rfl
    cases stored with
    | none => exact complies_pure trivial
    | some _ => exact hlock.bind fun _ _ _ => complies_pure trivial
  exact hdisable.bind fun _ _ _ => complies_pure trivial

def protocols (args : AutopilotArgs) (disabled : List String) : ℕ → Protocol services Exn Bool
  | 0 => loopProtocol args.modelId
  | i + 1 => disableProtocol (disabled.getD i "")

lemma processes_comply (args : AutopilotArgs) (draws : ℕ) (disabled : List String) :
    ∀ i p, (processes args draws disabled)[i]? = some p →
      Complies (protocols args disabled i) (fun _ _ => True) false p := by
  intro i p hp
  cases i with
  | zero =>
    obtain rfl : autopilotLoop args draws (.start args) = p := Option.some.inj hp
    exact autopilotLoop_complies draws (.start args)
  | succ i =>
    have hi : (disabled.map fun m => (Operation.disable m).program)[i]? = some p := hp
    rw [List.getElem?_map, Option.map_eq_some_iff] at hi
    obtain ⟨modelId, hmodel, rfl⟩ := hi
    have hget : disabled.getD i "" = modelId := by simp [hmodel]
    change Complies (disableProtocol (disabled.getD i "")) _ _ _
    rw [hget]
    exact disable_complies modelId

section store
variable {env : Environment W} {s : System W} {m : String}

lemma keeps_of_rows_eq {t : System W} (h : t.store.rowsOf m = s.store.rowsOf m) : Keeps m s t := by
  intro hs
  exact ⟨(InMemoryStorage.locked_of_rowsOf_eq h).mpr hs, h⟩

lemma keeps_of_configs_eq {t : System W} (h : t.store.tunedConfigs = s.store.tunedConfigs) :
    Keeps m s t := by
  apply keeps_of_rows_eq
  unfold InMemoryStorage.rowsOf
  rw [h]

/-- A save for the model keeps no lock. -/
lemma keeps_save_iff {config : TunedConfig} (h : config.modelId = m) :
    Keeps m s ((serving env).handle (.storage (.saveTunedConfig config)) s).2 ↔
      ¬ s.store.Locked m := by
  constructor
  · intro hkeeps hlocked
    have hsame : (s.store.saveTunedConfig config).2.rowsOf m = s.store.rowsOf m := (hkeeps hlocked).2
    rw [InMemoryStorage.rowsOf_save, if_pos h] at hsame
    simp at hsame
  · intro hunlocked hlocked
    exact absurd hlocked hunlocked

lemma keeps_lock (modelId : String) :
    Keeps m s ((serving env).handle (.storage (.lockConfig modelId)) s).2 := by
  by_cases heq : m = modelId
  · subst heq
    intro hlocked
    change (s.store.lockConfig m).Locked m ∧ (s.store.lockConfig m).rowsOf m = s.store.rowsOf m
    rw [InMemoryStorage.lockConfig_of_locked _ _ hlocked]
    exact ⟨hlocked, rfl⟩
  · exact keeps_of_rows_eq (InMemoryStorage.rowsOf_lock_of_ne _ _ _ heq)

/-- A model that has a config never loses all of them. -/
lemma handle_stored (c : Call) (h : (s.store.getTunedConfig m).isSome) :
    (((serving env).handle c s).2.store.getTunedConfig m).isSome := by
  cases c with
  | storage op =>
    cases op with
    | saveTunedConfig config =>
      change ((s.store.saveTunedConfig config).2.getTunedConfig m).isSome
      rw [InMemoryStorage.getTunedConfig_save]
      split_ifs
      · rfl
      · exact h
    | lockConfig modelId =>
      change ((s.store.lockConfig modelId).getTunedConfig m).isSome
      rw [InMemoryStorage.getTunedConfig_lock]
      split_ifs
      · rwa [Option.isSome_map]
      · exact h
    | _ => exact h
  | _ => exact h

end store

/-- What holds between the calls: while the loop's newest read still stands, the model is
locked exactly if a lock came after it; and a `disable` that saw a config still has one. -/
structure RaceInv (args : AutopilotArgs) (disabled : List String) (past : List (ServiceEvent W))
    (q : ℕ → Bool) (s : System W) : Prop where
  fresh : q 0 = true → (s.store.Locked args.modelId ↔ LockedSinceRead args.modelId past)
  seen : ∀ i, q (i + 1) = true → (s.store.getTunedConfig (disabled.getD i "")).isSome

section step
variable {env : Environment W} {args : AutopilotArgs} {disabled : List String}
  {past : List (ServiceEvent W)} {q : ℕ → Bool} {s : System W}

/-- The call loses the lock exactly if it is a save of the loop that a lock has overtaken,
and the invariant holds after it in the typestates that the call moves. -/
def Sound (env : Environment W) (args : AutopilotArgs) (disabled : List String)
    (past : List (ServiceEvent W)) (q : ℕ → Bool) (s : System W) (i : ℕ) (c : Call) (b : Bool) :
    Prop :=
  let e : ServiceEvent W := ⟨i, s, c, ((serving env).handle c s).1⟩
  (Keeps args.modelId s ((serving env).handle c s).2 ↔
      ¬ (LoopSaves e ∧ LockedSinceRead args.modelId past)) ∧
    RaceInv args disabled (past ++ [e]) (Function.update q i b) ((serving env).handle c s).2

lemma RaceInv.seen_loop (h : RaceInv args disabled past q s) (c : Call) (b : Bool) :
    ∀ i, Function.update q 0 b (i + 1) = true →
      (((serving env).handle c s).2.store.getTunedConfig (disabled.getD i "")).isSome := by
  intro i hi
  rw [Function.update_of_ne (Nat.succ_ne_zero i)] at hi
  exact handle_stored c (h.seen i hi)

lemma RaceInv.seen_disable (h : RaceInv args disabled past q s) (c : Call) {i : ℕ} {b : Bool}
    (hb : b = true → (s.store.getTunedConfig (disabled.getD i "")).isSome) :
    ∀ j, Function.update q (i + 1) b (j + 1) = true →
      (((serving env).handle c s).2.store.getTunedConfig (disabled.getD j "")).isSome := by
  intro j hj
  apply handle_stored c
  by_cases hij : j = i
  · subst hij
    rw [Function.update_self] at hj
    exact hb hj
  · rw [Function.update_of_ne (by omega)] at hj
    exact h.seen j hj

lemma loop_bystander_sound (h : RaceInv args disabled past q s) {c : Call} (hc : Bystander c) :
    Sound env args disabled past q s 0 c (q 0) := by
  have hconfigs : ((serving env).handle c s).2.store.tunedConfigs = s.store.tunedConfigs := by
    apply serving_keepsConfigs
    constructor
    · rintro config rfl
      exact hc
    · rintro m rfl
      exact hc
  have hsame : ((serving env).handle c s).2.store.Locked args.modelId ↔
      s.store.Locked args.modelId := by
    unfold InMemoryStorage.Locked InMemoryStorage.getTunedConfig
    rw [hconfigs]
  refine ⟨iff_of_true (keeps_of_configs_eq hconfigs) ?_, ?_, h.seen_loop c _⟩
  · rintro ⟨⟨-, config, rfl⟩, -⟩
    exact hc
  · intro hfresh
    have hlock : c ≠ .storage (.lockConfig args.modelId) := by
      rintro rfl
      exact hc
    have hread : c ≠ .storage (.getTunedConfig args.modelId) := by
      rintro rfl
      exact hc
    rw [Function.update_self] at hfresh
    rw [hsame, h.fresh hfresh, lockedSinceRead_append]
    simp [hlock, hread, LoopReads]

lemma loop_read_sound (h : RaceInv args disabled past q s) :
    Sound env args disabled past q s 0 (.storage (.getTunedConfig args.modelId))
      (!(s.store.getTunedConfig args.modelId).any TunedConfig.isLocked) := by
  refine ⟨iff_of_true (keeps_of_configs_eq rfl) ?_, ?_, h.seen_loop _ _⟩
  · rintro ⟨⟨-, config, hcall⟩, -⟩
    cases hcall
  · intro hfresh
    rw [Function.update_self] at hfresh
    have hunlocked : ¬ s.store.Locked args.modelId := by
      rintro ⟨stored, hstored, hlocked⟩
      simp [hstored, hlocked] at hfresh
    refine iff_of_false hunlocked ?_
    rw [lockedSinceRead_append]
    rintro (hlock | ⟨-, hread⟩)
    · cases hlock
    · exact hread ⟨rfl, rfl⟩

lemma loop_save_sound (h : RaceInv args disabled past q s) {config : TunedConfig}
    (hfresh : q 0 = true) (hmodel : config.modelId = args.modelId) :
    Sound env args disabled past q s 0 (.storage (.saveTunedConfig config)) false := by
  refine ⟨?_, ?_, h.seen_loop _ _⟩
  · rw [keeps_save_iff hmodel, h.fresh hfresh]
    simp [LoopSaves]
  · intro hafter
    rw [Function.update_self] at hafter
    cases hafter

lemma disable_read_sound (h : RaceInv args disabled past q s) (i : ℕ) :
    Sound env args disabled past q s (i + 1) (.storage (.getTunedConfig (disabled.getD i "")))
      (s.store.getTunedConfig (disabled.getD i "")).isSome := by
  refine ⟨iff_of_true (keeps_of_configs_eq rfl) ?_, ?_, h.seen_disable _ id⟩
  · rintro ⟨⟨hthread, -⟩, -⟩
    cases hthread
  · intro hfresh
    rw [Function.update_of_ne (Nat.succ_ne_zero i).symm] at hfresh
    change s.store.Locked args.modelId ↔ _
    rw [lockedSinceRead_append, h.fresh hfresh]
    simp [LoopReads]

lemma disable_lock_sound (h : RaceInv args disabled past q s) {i : ℕ} (hseen : q (i + 1) = true) :
    Sound env args disabled past q s (i + 1) (.storage (.lockConfig (disabled.getD i "")))
      (q (i + 1)) := by
  refine ⟨iff_of_true (keeps_lock _) ?_, ?_, h.seen_disable _ fun _ => h.seen i hseen⟩
  · rintro ⟨⟨hthread, -⟩, -⟩
    cases hthread
  · intro hfresh
    rw [Function.update_of_ne (Nat.succ_ne_zero i).symm] at hfresh
    change (s.store.lockConfig (disabled.getD i "")).Locked args.modelId ↔ _
    rw [lockedSinceRead_append]
    by_cases heq : args.modelId = disabled.getD i ""
    · rw [heq]
      exact iff_of_true ((InMemoryStorage.locked_lock_iff _ _).mpr (h.seen i hseen)) (.inl rfl)
    · rw [InMemoryStorage.locked_of_rowsOf_eq (InMemoryStorage.rowsOf_lock_of_ne _ _ _ heq),
        h.fresh hfresh]
      have hother : disabled[i]?.getD "" ≠ args.modelId := by
        rw [← List.getD_eq_getElem?_getD]
        exact Ne.symm heq
      simp [LoopReads, hother]

/-- Every call that a process may make is sound. -/
lemma step_sound (h : RaceInv args disabled past q s) {i : ℕ} {c : Call}
    (hc : (protocols args disabled i).allowed (q i) c) :
    Sound env args disabled past q s i c
      ((protocols args disabled i).move (q i) c ((serving env).handle c s).1) := by
  cases i with
  | zero =>
    have hquiet (hb : Bystander c) : Sound env args disabled past q s 0 c
        ((loopProtocol args.modelId).move (q 0) c ((serving env).handle c s).1) := by
      rw [(loopProtocol_bystander hb).2]
      exact loop_bystander_sound h hb
    cases c with
    | storage op =>
      cases op with
      | getTunedConfig m =>
        obtain rfl : m = args.modelId := hc
        exact loop_read_sound h
      | saveTunedConfig config =>
        obtain ⟨hfresh, hmodel⟩ := hc
        exact loop_save_sound h hfresh hmodel
      | lockConfig m => exact absurd hc id
      | _ => exact hquiet trivial
    | _ => exact hquiet trivial
  | succ i =>
    cases c with
    | storage op =>
      cases op with
      | getTunedConfig m =>
        obtain rfl : m = disabled.getD i "" := hc
        exact disable_read_sound h i
      | lockConfig m =>
        obtain ⟨hseen, rfl⟩ := hc
        exact disable_lock_sound h hseen
      | _ => exact absurd hc id
    | _ => exact absurd hc id

end step

/-- In every interleaving, a locked model stays locked and gets no further row exactly when
no save of the loop comes after a lock that is newer than the loop's last read. -/
theorem interleave_keeps_lock_iff (env : Environment W) (args : AutopilotArgs) (draws : ℕ)
    (disabled : List String) (schedule : List ℕ) (s : System W) :
    let events := interleave (serving env) schedule (processes args draws disabled) s
    (trail (serving env) s events).Pairwise (Keeps args.modelId) ↔
      Each (fun past e => ¬ (LoopSaves e ∧ LockedSinceRead args.modelId past)) [] events := by
  intro events
  have hstart : RaceInv args disabled ([] : List (ServiceEvent W)) (fun _ => false) s :=
    ⟨fun h => absurd h Bool.false_ne_true, fun i h => absurd h Bool.false_ne_true⟩
  have heach : Each (fun past e => Keeps args.modelId e.step.before (e.after (serving env)) ↔
      ¬ (LoopSaves e ∧ LockedSinceRead args.modelId past)) [] events := by
    refine interleave_each (protocols args disabled) (RaceInv args disabled) ?_ hstart
      (processes_comply args draws disabled)
    intro past q s i c hinv hc
    exact step_sound hinv hc
  rw [trail_pairwise_iff]
  constructor
  · intro hkeeps
    rw [each_iff] at heach ⊢
    intro pre e post hsplit
    have he : e ∈ events := by
      rw [hsplit]
      exact List.mem_append_right pre List.mem_cons_self
    exact (heach pre e post hsplit).mp (hkeeps e he)
  · intro hquiet e he
    obtain ⟨pre, post, hsplit⟩ := List.append_of_mem he
    exact (each_iff.mp heach pre e post hsplit).mpr (each_iff.mp hquiet pre e post hsplit)

/-- The model is disabled between the last benchmark of a pass and its save. -/
theorem interleave_loses_lock :
    let s : System ℚ :=
      ⟨0, { tunedConfigs := [{ modelId := "tinyllama:1.1b", config := Config.ofCtx 2048 }] }⟩
    ¬ (trail (serving (growing ∅)) s (interleave (serving (growing ∅))
      (List.replicate 15 0 ++ [1, 1, 0])
      (processes { modelId := "tinyllama:1.1b" } 1 ["tinyllama:1.1b"]) s)).Pairwise
        (Keeps "tinyllama:1.1b") := by
  decide +kernel

end LlmMax.LockRace
