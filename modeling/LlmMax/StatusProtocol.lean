import LlmMax.StatusCache

/-! The status of any number of processes over one Redis server, in any order of their single
calls; and of one request after the other. -/
namespace LlmMax.StatusProtocol
open BenchMetrics Config EffectProgram EffectThreads History CacheAside Profiler StatusCache

variable {σ : Type} (codec : ProfileCodec) (environ : Environ)

/-- Reading the status through the slot of the last scan. -/
def fetchScan : Status (HardwareProfile × Bool) :=
  fetch isException scanCacheKey defaultTtlSeconds codec.dump codec.decode

/-- The scan of a request that found nothing to use, and its answer. -/
lemma refill_eq : (refill isException scanCacheKey defaultTtlSeconds codec.dump :
    Status HardwareProfile) = do
      let profile ← scan
      let _ ← setLastScan codec profile
      return profile := by
  apply congrArg (Program.call _)
  funext r
  cases r with
  | error e => rfl
  | ok profile =>
    apply congrArg (Program.call _)
    funext r
    cases r with
    | ok _ => rfl
    | error e => cases e <;> rfl

lemma refilled_eq : (refill isException scanCacheKey defaultTtlSeconds codec.dump >>=
    fun v => pure (v, false) : Status (HardwareProfile × Bool)) = do
      let profile ← scan
      let _ ← setLastScan codec profile
      return (profile, false) := by
  rw [refill_eq, Program.bind_assoc]
  congr 1
  funext profile
  rw [Program.bind_assoc]
  rfl

lemma getLastScan_bind {α : Type} (k : Option HardwareProfile → Status α) :
    (getLastScan codec >>= k) =
      Program.attempt (I := statusCalls) (.get scanCacheKey) >>= fun
        | .ok raw => k (raw.bind codec.decode)
        | .error e => if isException e then k none else Program.raise e := by
  apply congrArg (Program.call _)
  funext r
  cases r with
  | ok raw => rfl
  | error e => cases e <;> rfl

/-- Reading through the slot, in the words of the two front ends. -/
lemma fetchScan_eq : fetchScan codec = do
    match ← getLastScan codec with
    | some profile => return (profile, true)
    | none =>
      let profile ← scan
      let _ ← setLastScan codec profile
      return (profile, false) := by
  rw [getLastScan_bind]
  unfold fetchScan fetch
  rw [refilled_eq]
  congr 1
  funext r
  cases r with
  | error e => rfl
  | ok raw =>
    dsimp only
    cases raw.bind codec.decode <;> rfl

lemma statusCommand_enabled (h : redisEnabled environ = true) :
    statusCommand codec environ = statusCache environ >>= fun _ => fetchScan codec := by
  unfold statusCommand
  simp only [h, if_true]
  exact congrArg (fun p => statusCache environ >>= fun _ => p) (fetchScan_eq codec).symm

lemma statusRoute_enabled (h : redisEnabled environ = true) :
    statusRoute codec environ = do
      let _ ← statusCache environ
      let out ← fetchScan codec
      return out.1 := by
  unfold statusRoute
  simp only [h, if_true]
  congr 1
  funext config
  rw [fetchScan_eq, Program.bind_assoc]
  congr 1
  funext cached
  cases cached with
  | some profile => rfl
  | none =>
    dsimp only
    rw [Program.bind_assoc]
    congr 1
    funext profile
    rw [Program.bind_assoc]
    rfl

/-- The route answers with what the command prints. -/
lemma statusRoute_eq : statusRoute codec environ = do
    let out ← statusCommand codec environ
    return out.1 := by
  cases h : redisEnabled environ with
  | true => rw [statusRoute_enabled codec environ h, statusCommand_enabled codec environ h,
      Program.bind_assoc]
  | false =>
    unfold statusRoute statusCommand
    simp only [h]
    apply congrArg (Program.call _)
    funext r
    cases r <;> rfl

/-- Where the status comes from, and what it can raise. -/
structure Answered (r : Except Exn (HardwareProfile × Bool))
    (t : List (CacheStep String String HardwareProfile Exn σ)) : Prop where
  cached : ∀ profile, r = .ok (profile, true) → redisEnabled environ = true ∧
    ∃ raw, t.filterMap found = [(scanCacheKey, raw)] ∧ codec.validate raw = .ok profile ∧
      ∀ x ∈ t, x.call ≠ .produce
  fresh : ∀ profile, r = .ok (profile, false) → t.filterMap produced = [profile]
  raised : ∀ e, r = .error e → isException e = false ∨
    (redisEnabled environ = true ∧ redisConfig environ = .error e) ∨
    ∃ w, (⟨w, .produce, .error e⟩ : CacheStep String String HardwareProfile Exn σ) ∈ t
  disabled : redisEnabled environ = false → ∀ x ∈ t, x.call = .produce

variable {codec environ} {H : Handler statusCalls Exn (World String String σ)}
  {w : World String String σ}

lemma statusCommand_answered : Ensures H (statusCommand codec environ) w fun r t _ =>
    Answered codec environ r t := by
  cases h : redisEnabled environ with
  | false =>
    unfold statusCommand scan
    simp only [h]
    apply ensures_call
    cases hreply : (H.handle .produce w).1 with
    | error e =>
      apply ensures_raise
      constructor
      · rintro p ⟨⟩
      · rintro p ⟨⟩
      · rintro e' ⟨⟩
        exact .inr (.inr ⟨w, by simp⟩)
      · simp
    | ok profile =>
      apply ensures_pure
      constructor
      · rintro p ⟨⟩
      · rintro p ⟨⟩
        simp [produced]
      · rintro e' ⟨⟩
      · simp
  | true =>
    rw [statusCommand_enabled codec environ h]
    unfold statusCache
    cases hconfig : redisConfig environ with
    | error e =>
      apply ensures_raise
      constructor
      · rintro p ⟨⟩
      · rintro p ⟨⟩
      · rintro e' ⟨⟩
        exact .inr (.inl ⟨h, hconfig⟩)
      · simp
    | ok config =>
      apply (fetch_ensures (H := H) (w := w)).mono
      rintro r t w' hfetched
      constructor
      · intro p hp
        obtain ⟨raw, hfound, hdecode, hno⟩ := hfetched.hit p hp
        exact ⟨h, raw, hfound, codec.validate_of_decode hdecode, hno⟩
      · exact hfetched.fresh
      · intro e he
        rcases hfetched.raised e he with hraised | hraised
        · exact .inl hraised
        · exact .inr (.inr hraised)
      · rw [h]
        rintro ⟨⟩

/-- The command tells truly where the status is from; no failure of the cache surfaces; and
the route does the same calls and sends what the command prints. -/
theorem status_answers (codec : ProfileCodec) (environ : Environ)
    (H : Handler statusCalls Exn (World String String σ)) (w : World String String σ) :
    let shown := exec H (statusCommand codec environ) w
    Answered codec environ shown.result shown.steps ∧
      exec H (statusRoute codec environ) w =
        ⟨shown.result.map Prod.fst, shown.steps, shown.state⟩ := by
  refine ⟨statusCommand_answered, ?_⟩
  rw [statusRoute_eq, EffectBlocks.exec_map]

/-- The protocol of every process that answers a status request. -/
def statusProtocol (codec : ProfileCodec) :
    Protocol statusCalls Exn (Hand String HardwareProfile) :=
  readThrough scanCacheKey defaultTtlSeconds codec.dump codec.decode

lemma statusCommand_complies (codec : ProfileCodec) (environ : Environ) :
    Complies (statusProtocol codec) (fun out => Holds codec.decode out.1) .nothing
      (statusCommand codec environ) := by
  cases h : redisEnabled environ with
  | false =>
    unfold statusCommand scan
    simp only [h]
    have hscan : Complies (statusProtocol codec) (fun profile hand => hand = .fresh profile) .nothing
        (Program.perform (I := statusCalls) .produce) :=
      complies_perform (I := statusCalls) trivial fun _ => rfl
    apply hscan.bind
    rintro profile _ rfl
    exact complies_pure (.inl rfl)
  | true =>
    rw [statusCommand_enabled codec environ h]
    unfold statusCache
    cases redisConfig environ with
    | error e => trivial
    | ok config => exact fetch_complies

/-- Both front ends show what the command computes. -/
lemma process_eq (codec : ProfileCodec) (frontEnd : FrontEnd) : frontEnd.process codec =
    statusCommand codec frontEnd.environ >>= fun out =>
      Program.perform (I := statusCalls) (.serve out.1) := by
  cases frontEnd with
  | command environ => rfl
  | route environ =>
    change (statusRoute codec environ >>= _) = _
    rw [statusRoute_eq, Program.bind_assoc]
    rfl

lemma process_complies (codec : ProfileCodec) (frontEnd : FrontEnd) :
    Complies (statusProtocol codec) (fun _ _ => True) .nothing (frontEnd.process codec) := by
  rw [process_eq]
  apply (statusCommand_complies codec frontEnd.environ).bind
  intro out hand hholds
  exact complies_perform (I := statusCalls) hholds fun _ => trivial

/-- A status is never older than the time to live of the cache: it is a scan of the process
that shows it, or was scanned by a process that wrote it less than five minutes before it was
read. Only a slot that was filled before the run may hold anything else. -/
theorem served_accounted (codec : ProfileCodec)
    (env : Surroundings String String HardwareProfile Exn σ) (frontEnds : List FrontEnd)
    (schedule : List ℕ) (w : World String String σ) :
    Each (Accounted scanCacheKey defaultTtlSeconds codec.dump codec.decode env
        (w.slots scanCacheKey)) []
      (interleave (serving env) schedule (frontEnds.map (FrontEnd.process codec)) w) := by
  apply interleave_accounted
  intro p hp
  obtain ⟨frontEnd, _, rfl⟩ := List.mem_map.mp hp
  exact process_complies codec frontEnd

/-- What is scanned can be read back from the text that it is cached as. -/
def RoundTrips (codec : ProfileCodec) (env : Surroundings String String HardwareProfile Exn σ) :
    Prop :=
  ∀ x profile, env.produce x = .ok profile → codec.validate (codec.dump profile) = .ok profile

lemma process_keepsSpacing {env : Surroundings String String HardwareProfile Exn σ}
    (hhealthy : Healthy env) (hround : RoundTrips codec env) {frontEnd : FrontEnd}
    (henabled : redisEnabled frontEnd.environ = true) :
    KeepsSpacing env scanCacheKey defaultTtlSeconds codec.decode (frontEnd.process codec) := by
  have hdecode : ∀ x profile, env.produce x = .ok profile →
      codec.decode (codec.dump profile) = some profile := by
    intro x profile hproduce
    simp [ProfileCodec.decode, hround x profile hproduce, Except.toOption]
  rw [process_eq, statusCommand_enabled codec _ henabled, Program.bind_assoc]
  apply (keepsSpacing_lift _).bind
  intro config
  apply (fetch_keepsSpacing hhealthy hdecode (by norm_num [defaultTtlSeconds])).bind
  intro out
  exact keepsSpacing_serve hhealthy out.1

/-- While Redis works, requests answered one after the other scan the hardware at most once
in five minutes, however many there are. -/
theorem scans_spaced {codec : ProfileCodec} {env : Surroundings String String HardwareProfile Exn σ}
    (hhealthy : Healthy env) (hround : RoundTrips codec env) {frontEnds : List FrontEnd}
    (henabled : ∀ f ∈ frontEnds, redisEnabled f.environ = true) (w : World String String σ) :
    Each (Spaced env defaultTtlSeconds) []
      (serially (serving env) (frontEnds.map (FrontEnd.process codec)) w) := by
  apply serially_spaced
  intro p hp
  obtain ⟨frontEnd, hmem, rfl⟩ := List.mem_map.mp hp
  exact process_keepsSpacing hhealthy hround (henabled frontEnd hmem)

def cpuOnlyText : String :=
  "\x7b\x22gpus\x22:[],\x22cpu_cores_physical\x22:8,\x22cpu_cores_logical\x22:8," ++
    "\x22cpu_model\x22:\x22AMD Ryzen 7\x22,\x22total_ram_mb\x22:16384," ++
    "\x22available_ram_mb\x22:8192\x7d"

/-- The codec as it is on that one profile. -/
def cpuOnlyCodec : ProfileCodec where
  dump _ := cpuOnlyText
  validate raw :=
    if raw = cpuOnlyText then .ok cpuOnlyProfile else .error (.exception "validation error")

lemma cpuOnly_scan :
    (exec cpuOnlyHost (scanHardware defaultGpuProviders) ()).result = .ok cpuOnlyProfile := by
  decide +kernel

/-- Three requests, each call of which takes 100 seconds, make two scans. -/
theorem scans_spaced_cpuOnly :
    let env := machine cpuOnlyHost (fun _ => 100) (fun _ => by decide) fun _ => .up
    let enabled : Environ := fun _ => some "1"
    let steps := serially (serving env)
      ([.command enabled, .route enabled, .command enabled].map (FrontEnd.process cpuOnlyCodec))
      ⟨0, fun _ => none, ()⟩
    Each (Spaced env defaultTtlSeconds) [] steps ∧ (steps.filterMap produced).length = 2 := by
  intro env enabled steps
  have hspaced : Each (Spaced env defaultTtlSeconds) [] steps := by
    apply scans_spaced ⟨fun _ => rfl, fun _ => rfl⟩
    · intro x profile hproduce
      obtain rfl : cpuOnlyProfile = profile := Except.ok.inj (cpuOnly_scan.symm.trans hproduce)
      simp [cpuOnlyCodec]
    · intro f hf
      have henabled : redisEnabled enabled = true := by decide +kernel
      fin_cases hf <;> exact henabled
  exact ⟨hspaced, by decide +kernel⟩

end LlmMax.StatusProtocol
