import LlmMax.AutotuneDecision

/-! A benchmark result as a summary of the calls behind it: which prompts were asked,
what came back, and what of it the result keeps. -/
namespace LlmMax.BenchSummary
open Domain BenchMetrics AutotuneState Storage EffectProgram Services BenchRunner AutotuneDecision

variable {W : Type} {env : Environment W}

/-- The answer of the runtime, when the call is for it. -/
def adapterReply : Step services Exn (System W) → Option (Except Exn RunResult)
  | ⟨_, .adapterRun _ _ _, reply⟩ => some reply
  | _ => none

/-- The answers of the runtime in a trace, oldest first. -/
def adapterReplies (t : Trace W) : List (Except Exn RunResult) := t.filterMap adapterReply

@[simp] lemma adapterReplies_append (t u : Trace W) :
    adapterReplies (t ++ u) = adapterReplies t ++ adapterReplies u := List.filterMap_append

/-- The calls of a benchmark that asks these prompts. -/
def asking (modelId : String) (options : Option Config) (prompts : List String) :
    List (String × String × Option Config) :=
  prompts.map fun prompt => (modelId, prompt, options)

/-- Every prompt was asked once, in order, and answered. -/
structure Answered (modelId : String) (options : Option Config) (prompts : List String)
    (answers : List RunResult) (t : Trace W) : Prop where
  calls : adapterRuns t = asking modelId options prompts
  replies : adapterReplies t = answers.map .ok
  length_eq : answers.length = prompts.length

/-- The prompts were asked in order up to one that raised, and no further. -/
structure Broke (modelId : String) (options : Option Config) (prompts : List String)
    (answers : List RunResult) (exc : Exn) (t : Trace W) : Prop where
  calls : adapterRuns t = asking modelId options (prompts.take (answers.length + 1))
  replies : adapterReplies t = answers.map .ok ++ [.error exc]
  length_lt : answers.length < prompts.length

section steps
variable {modelId prompt : String} {options : Option Config} {prompts : List String}
  {answers : List RunResult} {exc : Exn} {s : System W} {t : Trace W} {result : RunResult}

lemma Answered.cons (h : Answered modelId options prompts answers t) :
    Answered modelId options (prompt :: prompts) (result :: answers)
      (⟨s, .adapterRun modelId prompt options, .ok result⟩ :: t) :=
  ⟨congrArg (List.cons _) h.calls, congrArg (List.cons _) h.replies, congrArg Nat.succ h.length_eq⟩

lemma Broke.cons (h : Broke modelId options prompts answers exc t) :
    Broke modelId options (prompt :: prompts) (result :: answers) exc
      (⟨s, .adapterRun modelId prompt options, .ok result⟩ :: t) :=
  ⟨congrArg (List.cons _) h.calls, congrArg (List.cons _) h.replies, Nat.succ_lt_succ h.length_lt⟩

lemma broke_first : Broke modelId options (prompt :: prompts) [] exc
    ([⟨s, .adapterRun modelId prompt options, .error exc⟩] : Trace W) :=
  ⟨by simp [asking, adapterRuns], rfl, by simp⟩

end steps

/-- What a run that broke ends with. -/
def broken (config : Config) (exc : Exn) (completed attempted : ℕ) : Except Exn BenchmarkResult :=
  match exc.caught with
  | none => .error exc
  | some message => .ok (failure config message completed attempted)

variable (env) in
/-- The loop either answers every prompt and summarises, or stops at the first exception. -/
theorem runPrompts_ensures (modelId : String) (options : Option Config) (prompts : List String)
    (latencies rates : List ℚ) (attempted : ℕ) (s : System W) :
    Ensures (serving env) (runPrompts modelId options prompts latencies rates attempted) s
      fun r t _ =>
        (∃ answers, Answered modelId options prompts answers t ∧
          r = summary (options.getD ∅) (latencies ++ answers.map RunResult.totalDurationS)
            (rates ++ answers.flatMap rateSample) (attempted + answers.length)) ∨
        ∃ answers exc, Broke modelId options prompts answers exc t ∧
          r = broken (options.getD ∅) exc (latencies.length + answers.length)
            (attempted + answers.length + 1) := by
  induction prompts generalizing latencies rates attempted s with
  | nil =>
    apply ensures_lift
    exact .inl ⟨[], ⟨rfl, rfl, rfl⟩, by simp⟩
  | cons prompt prompts ih =>
    apply ensures_attempt_bind
    cases ((serving env).handle (.adapterRun modelId prompt options) s).1 with
    | ok result =>
      apply (ih _ _ _ _).mono
      intro r t s' hpost
      obtain ⟨answers, hans, hr⟩ | ⟨answers, exc, hbroke, hr⟩ := hpost
      · refine .inl ⟨result :: answers, hans.cons, ?_⟩
        rw [hr]
        simp [add_assoc, add_comm 1]
      · refine .inr ⟨result :: answers, exc, hbroke.cons, ?_⟩
        rw [hr]
        simp [add_assoc, add_comm 1]
    | error exc =>
      dsimp only
      cases hexc : exc.caught with
      | none => exact ensures_raise (.inr ⟨[], exc, broke_first, by simp [broken, hexc]⟩)
      | some message => exact ensures_pure (.inr ⟨[], exc, broke_first, by simp [broken, hexc]⟩)

/-- The runtime answers with a result or an exception; nobody interrupts it. -/
def NeverInterrupts (env : Environment W) : Prop :=
  ∀ modelId prompt options w, (env.run modelId prompt options w).1 ≠ .error .interrupt

/-- Every answer in a trace is one of the environment. -/
lemma mem_adapterReplies {α : Type} (p : Engine α) (s : System W) {reply : Except Exn RunResult}
    (h : reply ∈ adapterReplies (exec (serving env) p s).steps) :
    ∃ modelId prompt options w, reply = (env.run modelId prompt options w).1 := by
  obtain ⟨x, hx, hreply⟩ := List.mem_filterMap.mp h
  revert hreply
  apply exec_steps (serving env) (Q := fun x => adapterReply x = some reply →
    ∃ modelId prompt options w, reply = (env.run modelId prompt options w).1) ?_ p s x hx
  intro s c he
  cases c with
  | adapterRun modelId prompt options =>
    exact ⟨modelId, prompt, options, s.world, (Option.some.inj he).symm⟩
  | _ => cases he

lemma caught_of_adapterReplies (henv : NeverInterrupts env) {α : Type} (p : Engine α) (s : System W)
    {exc : Exn} (h : .error exc ∈ adapterReplies (exec (serving env) p s).steps) :
    ∃ message, exc.caught = some message := by
  obtain ⟨modelId, prompt, options, w, hreply⟩ := mem_adapterReplies p s h
  cases exc with
  | interrupt => exact absurd hreply.symm (henv modelId prompt options w)
  | runtimeUnavailable message => exact ⟨message, rfl⟩
  | exception message => exact ⟨message, rfl⟩

/-- The durations of the runs that returned, oldest first. -/
def durations (t : Trace W) : List ℚ :=
  (adapterReplies t).filterMap fun
    | .ok result => some result.totalDurationS
    | .error _ => none

/-- What a benchmark result says about the calls behind it. -/
structure Summarises (modelId : String) (options : Option Config) (prompts : List String)
    (t : Trace W) (b : BenchmarkResult) : Prop where
  calls : adapterRuns t = asking modelId options (prompts.take b.samplesAttempted)
  attempted : b.samplesAttempted = (adapterRuns t).length
  completed : b.samplesCompleted = (adapterReplies t).countP Except.isOk
  only_last : ∀ reply ∈ (adapterReplies t).dropLast, reply.isOk
  stopped : b.samplesAttempted < prompts.length →
    ∃ exc, (adapterReplies t).getLast? = some (.error exc)
  succeeded_iff : b.succeeded ↔ ∀ reply ∈ adapterReplies t, reply.isOk
  succeeded_all : b.succeeded →
    b.samplesAttempted = prompts.length ∧ b.samplesCompleted = prompts.length
  oom_failed : b.oomOccurred → b.succeeded = false
  rollback_iff : ∀ config, needsRollback ⟨config, b⟩ = !b.succeeded
  viable_iff : b.works = b.succeeded
  latencies : b.succeeded → ∃ p50 ∈ durations t, ∃ p95 ∈ durations t,
    b.p50LatencyS = some p50 ∧ b.p95LatencyS = some p95 ∧ p50 ≤ p95

section summarises
variable {modelId : String} {options : Option Config} {prompts : List String}
  {answers : List RunResult} {exc : Exn} {t : Trace W} {b : BenchmarkResult}

lemma length_asking (modelId : String) (options : Option Config) (prompts : List String) :
    (asking modelId options prompts).length = prompts.length := List.length_map _

lemma Answered.durations (h : Answered modelId options prompts answers t) :
    durations t = answers.map RunResult.totalDurationS := by
  unfold BenchSummary.durations
  rw [h.replies, List.filterMap_map]
  exact congrFun List.filterMap_eq_map _

lemma Answered.latencies_ne_nil (h : Answered modelId options prompts answers t)
    (hne : prompts ≠ []) : answers.map RunResult.totalDurationS ≠ [] := by
  intro hnil
  apply hne
  rw [← List.length_eq_zero_iff, ← h.length_eq, ← List.length_map, hnil, List.length_nil]

lemma countP_answers (answers : List RunResult) :
    (answers.map (Except.ok (ε := Exn))).countP Except.isOk = answers.length := by
  rw [List.countP_eq_length.mpr]
  · exact List.length_map _
  · intro reply hreply
    obtain ⟨result, -, rfl⟩ := List.mem_map.mp hreply
    rfl

/-- A benchmark of which every prompt was answered. -/
lemma Answered.summarises (h : Answered modelId options prompts answers t)
    (hb : summary (options.getD ∅) (answers.map RunResult.totalDurationS)
      (answers.flatMap rateSample) answers.length = .ok b) :
    Summarises modelId options prompts t b := by
  obtain ⟨p50, p95, h50, h95, rfl⟩ := summary_inv hb
  have hle : p50 ≤ p95 := percentile_mono (by norm_num) h50 h95
  constructor
  · simp [h.calls, h.length_eq]
  · simp [h.calls, h.length_eq, length_asking]
  · rw [h.replies, countP_answers]
    exact List.length_map _
  · intro reply hreply
    have := List.mem_of_mem_dropLast hreply
    rw [h.replies] at this
    obtain ⟨result, -, rfl⟩ := List.mem_map.mp this
    rfl
  · intro hlt
    simp [h.length_eq] at hlt
  · simp [h.replies, BenchmarkResult.succeeded, Except.isOk, Except.toBool]
  · intro _
    simp [h.length_eq]
  · simp
  · intro config
    simp [needsRollback]
  · simp [BenchmarkResult.works]
  · intro _
    rw [h.durations]
    exact ⟨p50, percentile_mem h50, p95, percentile_mem h95, rfl, rfl, hle⟩

/-- A benchmark that an exception cut short. -/
lemma Broke.summarises (h : Broke modelId options prompts answers exc t) (message : String) :
    Summarises modelId options prompts t
      (failure (options.getD ∅) message answers.length (answers.length + 1)) := by
  have hfailed : (failure (options.getD ∅) message answers.length
      (answers.length + 1)).succeeded = false := rfl
  constructor
  · exact h.calls
  · rw [h.calls, length_asking, List.length_take_of_le h.length_lt]
    rfl
  · rw [h.replies, List.countP_append, countP_answers]
    rfl
  · intro reply hreply
    rw [h.replies, List.dropLast_concat] at hreply
    obtain ⟨result, -, rfl⟩ := List.mem_map.mp hreply
    rfl
  · intro _
    exact ⟨exc, by simp [h.replies]⟩
  · simp [h.replies, hfailed, Except.isOk, Except.toBool]
  · simp [hfailed]
  · intro _
    exact hfailed
  · intro config
    simp [needsRollback, hfailed]
  · simp [BenchmarkResult.works, hfailed]
  · simp [hfailed]

end summarises

/-- How a benchmark ends: with the summary of its answers, or with the exception that broke it. -/
def Ended (modelId : String) (options : Option Config) (prompts : List String) (t : Trace W)
    (b : BenchmarkResult) : Prop :=
  (∃ answers, Answered modelId options prompts answers t ∧
    summary (options.getD ∅) (answers.map RunResult.totalDurationS) (answers.flatMap rateSample)
      answers.length = .ok b) ∨
  ∃ answers exc message, Broke modelId options prompts answers exc t ∧
    b = failure (options.getD ∅) message answers.length (answers.length + 1)

lemma Ended.summarises {modelId : String} {options : Option Config} {prompts : List String}
    {t : Trace W} {b : BenchmarkResult} (h : Ended modelId options prompts t b) :
    Summarises modelId options prompts t b := by
  obtain ⟨answers, hans, hb⟩ | ⟨answers, exc, message, hbroke, rfl⟩ := h
  · exact hans.summarises hb
  · exact hbroke.summarises message

lemma runPrompts_ended (henv : NeverInterrupts env) (modelId : String) (options : Option Config)
    {prompts : List String} (hne : prompts ≠ []) (s : System W) :
    ∃ b, (exec (serving env) (runPrompts modelId options prompts [] [] 0) s).result = .ok b ∧
      Ended modelId options prompts
        (exec (serving env) (runPrompts modelId options prompts [] [] 0) s).steps b := by
  have hpost := runPrompts_ensures env modelId options prompts [] [] 0 s
  unfold Ensures at hpost
  obtain ⟨answers, hans, hresult⟩ | ⟨answers, exc, hbroke, hresult⟩ := hpost
  · simp only [List.nil_append, Nat.zero_add] at hresult
    obtain ⟨b, hb⟩ := summary_ok (options.getD ∅) (hans.latencies_ne_nil hne)
      (answers.flatMap rateSample) answers.length
    exact ⟨b, hresult.trans hb, .inl ⟨answers, hans, hb⟩⟩
  · have hraised : .error exc ∈ adapterReplies
        (exec (serving env) (runPrompts modelId options prompts [] [] 0) s).steps := by
      rw [hbroke.replies]
      exact List.mem_append_right _ (List.mem_singleton_self _)
    obtain ⟨message, hmessage⟩ := caught_of_adapterReplies henv _ s hraised
    simp only [List.length_nil, Nat.zero_add, broken, hmessage] at hresult
    exact ⟨_, hresult, .inr ⟨answers, exc, message, hbroke, rfl⟩⟩

/-- A benchmark nobody interrupts ends with a summary of the calls it made. -/
theorem runPrompts_summarises (henv : NeverInterrupts env) (modelId : String)
    (options : Option Config) {prompts : List String} (hne : prompts ≠ []) (s : System W) :
    ∃ b, (exec (serving env) (runPrompts modelId options prompts [] [] 0) s).result = .ok b ∧
      Summarises modelId options prompts
        (exec (serving env) (runPrompts modelId options prompts [] [] 0) s).steps b := by
  obtain ⟨b, hb, hended⟩ := runPrompts_ended henv modelId options hne s
  exact ⟨b, hb, hended.summarises⟩

theorem clocked_neverInterrupts (gpus : List GpuInfo) (available : ℚ → Bool)
    (respond : ℚ → Option Config → Except String ℚ) :
    NeverInterrupts (clocked gpus available respond) := by
  intro modelId prompt options w h
  simp only [clocked] at h
  cases hr : respond w options with
  | ok rate => simp [hr] at h
  | error message => simp [hr] at h

theorem benchmarkPrompts_ne_nil : benchmarkPrompts ≠ [] := by
  unfold benchmarkPrompts
  exact List.cons_ne_nil _ _

/-- `run_benchmark` is such a benchmark, of the fixed prompts. -/
theorem runBenchmark_summarises (henv : NeverInterrupts env) (modelId : String)
    (options : Option Config) (s : System W) :
    ∃ b, (exec (serving env) (runBenchmark modelId options) s).result = .ok b ∧
      Summarises modelId options benchmarkPrompts
        (exec (serving env) (runBenchmark modelId options) s).steps b := by
  obtain ⟨b, hb, hended⟩ := runPrompts_ended henv modelId options benchmarkPrompts_ne_nil s
  exact ⟨b, hb, hended.summarises⟩

/-- On the fixed prompts, with a runtime that has run out of memory. -/
theorem runPrompts_summarises_growing :
    ∃ b, (exec (serving (growing ∅)) (runPrompts "m" (some ∅) benchmarkPrompts [] [] 0)
        ⟨3600, ⟨[], [], []⟩⟩).result = .ok b ∧
      Summarises "m" (some ∅) benchmarkPrompts (exec (serving (growing ∅))
        (runPrompts "m" (some ∅) benchmarkPrompts [] [] 0) ⟨3600, ⟨[], [], []⟩⟩).steps b :=
  runPrompts_summarises (clocked_neverInterrupts _ _ _) "m" (some ∅) benchmarkPrompts_ne_nil _

end LlmMax.BenchSummary
