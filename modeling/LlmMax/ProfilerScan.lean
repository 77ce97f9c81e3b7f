import LlmMax.HardwareVerdict
import LlmMax.Profiler

/-! What a scan reports, whatever the driver and the providers do: all devices of a vendor or
none, and no trace of a provider that fails. -/
namespace LlmMax.ProfilerScan
open BenchMetrics Config EffectProgram EffectBlocks Generators Profiler

variable {σ : Type} {H : Handler host Exn σ} {s : σ}

abbrev HostStep (σ : Type) := Step host Exn σ

/-- The numbers of devices that the driver told. -/
def deviceCounts (t : List (HostStep σ)) : List ℕ :=
  t.filterMap fun
    | ⟨_, .deviceGetCount, .ok count⟩ => some count
    | _ => none

/-- The calls about one device. -/
def isDeviceQuery : HostCall → Bool
  | .deviceGetHandleByIndex _ | .deviceGetName _ | .deviceGetMemoryInfo _
  | .deviceGetCudaComputeCapability _ | .deviceGetUtilizationRates _
  | .deviceGetTemperature _ => true
  | _ => false

/-- What the driver was asked about the devices, and what it replied. -/
def deviceSteps (t : List (HostStep σ)) : List (HostStep σ) :=
  t.filter fun x => isDeviceQuery x.call

def isInit : HostStep σ → Bool
  | ⟨_, .nvmlInit, .ok _⟩ => true
  | _ => false

def isShutdown : HostStep σ → Bool
  | ⟨_, .nvmlShutdown, .ok _⟩ => true
  | _ => false

/-- How often the driver was opened more than it was closed. -/
def leftOpen (t : List (HostStep σ)) : ℤ := t.countP isInit - t.countP isShutdown

/-- The calls without which there is no device to report. -/
def isNeeded : HostCall → Bool
  | .importPynvml | .nvmlInit | .nvmlShutdown | .deviceGetCount | .deviceGetHandleByIndex _
  | .deviceGetName _ | .deviceGetMemoryInfo _ => true
  | _ => false

/-- There are no bindings, a needed call raised, or a name cannot be decoded. -/
def breaks : HostStep σ → Bool
  | ⟨_, .importPynvml, .ok found⟩ => !found
  | ⟨_, .deviceGetName _, .ok name⟩ => !(Nvidia.decodeName name).isOk
  | ⟨_, c, .error _⟩ => isNeeded c
  | _ => false

/-- The driver did not tell of its devices. -/
def Broken (t : List (HostStep σ)) : Prop := ∃ x ∈ t, breaks x = true

@[simp] lemma deviceCounts_append (t u : List (HostStep σ)) :
    deviceCounts (t ++ u) = deviceCounts t ++ deviceCounts u := List.filterMap_append

@[simp] lemma deviceSteps_append (t u : List (HostStep σ)) :
    deviceSteps (t ++ u) = deviceSteps t ++ deviceSteps u := List.filter_append ..

@[simp] lemma leftOpen_append (t u : List (HostStep σ)) :
    leftOpen (t ++ u) = leftOpen t + leftOpen u := by
  simp only [leftOpen, List.countP_append]
  omega

lemma broken_singleton {x : HostStep σ} (h : breaks x = true) : Broken [x] :=
  ⟨x, List.mem_singleton_self x, h⟩

lemma Broken.before {t : List (HostStep σ)} (h : Broken t) (u : List (HostStep σ)) :
    Broken (t ++ u) := by
  obtain ⟨x, hx, hbreaks⟩ := h
  exact ⟨x, List.mem_append_left u hx, hbreaks⟩

lemma Broken.after {u : List (HostStep σ)} (h : Broken u) (t : List (HostStep σ)) :
    Broken (t ++ u) := by
  obtain ⟨x, hx, hbreaks⟩ := h
  exact ⟨x, List.mem_append_right t hx, hbreaks⟩

lemma only_optional {allowed : HostCall → Prop} {c : HostCall} (h : allowed c) :
    Only (I := host) allowed (optional (ask c)) :=
  only_catching ((only_perform (I := host) h).bind fun _ => only_pure _) fun _ => only_pure _

lemma readDevice_only (index : ℕ) :
    Only (I := host) (fun c => isDeviceQuery c = true) (Nvidia.readDevice index) := by
  have hask (c : HostCall) (h : isDeviceQuery c = true) :
      Only (I := host) (fun c => isDeviceQuery c = true) (ask c) := only_perform (I := host) h
  have hoptional (c : HostCall) (h : isDeviceQuery c = true) :
      Only (I := host) (fun c => isDeviceQuery c = true) (optional (ask c)) := only_optional h
  apply (hask (.deviceGetHandleByIndex index) rfl).bind
  intro handle
  apply (hask (.deviceGetName handle) rfl).bind
  intro name
  apply (only_lift _).bind
  intro text
  apply (hask (.deviceGetMemoryInfo handle) rfl).bind
  intro mem
  apply (hoptional (.deviceGetCudaComputeCapability handle) rfl).bind
  intro cap
  apply (hoptional (.deviceGetUtilizationRates handle) rfl).bind
  intro util
  apply (hoptional (.deviceGetTemperature handle) rfl).bind
  intro temp
  exact only_pure _

section queries
variable {t : List (HostStep σ)}

lemma deviceCounts_eq_nil (h : ∀ x ∈ t, isDeviceQuery x.call = true) : deviceCounts t = [] := by
  apply List.filterMap_eq_nil_iff.mpr
  intro x hx
  have hc := h x hx
  split
  · cases hc
  · rfl

lemma deviceSteps_eq_self (h : ∀ x ∈ t, isDeviceQuery x.call = true) : deviceSteps t = t :=
  List.filter_eq_self.mpr h

lemma leftOpen_eq_zero (h : ∀ x ∈ t, isDeviceQuery x.call = true) : leftOpen t = 0 := by
  have hinit : t.countP isInit = 0 := by
    apply List.countP_eq_zero.mpr
    intro x hx hopen
    have hc := h x hx
    unfold isInit at hopen
    split at hopen
    · cases hc
    · cases hopen
  have hshutdown : t.countP isShutdown = 0 := by
    apply List.countP_eq_zero.mpr
    intro x hx hclosed
    have hc := h x hx
    unfold isShutdown at hclosed
    split at hclosed
    · cases hc
    · cases hclosed
  simp [leftOpen, hinit, hshutdown]

end queries

/-- The step of a call, with its reply. -/
lemma ask_ensures (c : HostCall) : Ensures H (ask c) s fun r t _ => t = [⟨s, c, r⟩] := by
  apply ensures_perform
  rfl

section accounts

/-- What is known of a block that the devices are read with. -/
abbrev Tells {α : Type} (P : α → List (HostStep σ) → Prop) (r : Except Exn α)
    (t : List (HostStep σ)) : Prop := Accounts breaks isException P r t

/-- A call that breaks the scan exactly if it raises. -/
lemma ask_tells {c : HostCall} (herror : ∀ e, breaks (⟨s, c, .error e⟩ : HostStep σ) = true)
    (hok : ∀ a, breaks (⟨s, c, .ok a⟩ : HostStep σ) = false) :
    Ensures H (ask c) s fun r t _ => Tells (fun a t => t = [⟨s, c, .ok a⟩]) r t := by
  apply (ask_ensures c).mono
  rintro r _ s' rfl
  cases r with
  | ok a => exact .of_value rfl (List.forall_mem_singleton.mpr (hok a))
  | error e => exact .of_blame fun _ => broken_singleton (herror e)

/-- A call whose failure is taken for no value. -/
lemma optional_tells {c : HostCall} (h : ∀ r, breaks (⟨s, c, r⟩ : HostStep σ) = false) :
    Ensures H (optional (ask c)) s fun r t _ =>
      Tells (fun a t => ∃ reply, t = [⟨s, c, reply⟩] ∧ a = reply.toOption) r t := by
  have hbody : Ensures H (some <$> ask c) s fun r t _ =>
      ∃ reply, t = [⟨s, c, reply⟩] ∧ r = reply.map some := by
    apply (ask_ensures c).bind
    · rintro a _ s' rfl
      exact ensures_pure ⟨.ok a, rfl, rfl⟩
    · rintro e _ s' rfl
      exact ⟨.error e, rfl, rfl⟩
  apply ensures_catching hbody
  · rintro a _ s' ⟨reply, rfl, hreply⟩
    refine .of_value ⟨reply, rfl, ?_⟩ (List.forall_mem_singleton.mpr (h reply))
    cases reply with
    | error e => cases hreply
    | ok b =>
      cases hreply
      rfl
  · rintro e _ s' ⟨reply, rfl, hreply⟩ _
    apply ensures_pure
    refine .of_value ⟨reply, rfl, ?_⟩ (List.forall_mem_singleton.mpr (h reply))
    cases reply with
    | error e' => rfl
    | ok b => cases hreply
  · rintro e _ s' _ huncaught
    exact .of_blame fun hcaught => by simp [huncaught] at hcaught

end accounts

/-- What the driver said of one device, call by call, and the GPU that is made of it: a property
that could not be had is left out. -/
inductive Described (index : ℕ) : GpuInfo → List (HostStep σ) → Prop
  | replies {s₁ s₂ s₃ s₄ s₅ s₆ : σ} {handle : ℕ} {name : DeviceName} {text : String}
      {mem : MemoryInfo} {cap : Except Exn (ℕ × ℕ)} {util temp : Except Exn ℕ}
      (hname : Nvidia.decodeName name = .ok text) :
      Described index {
        index := index
        name := text
        totalVramMb := mem.total / mb
        freeVramMb := mem.free / mb
        usedVramMb := mem.used / mb
        computeCapability :=
          cap.toOption.map fun cap => toString cap.1 ++ "." ++ toString cap.2
        utilizationPct := util.toOption
        temperatureC := temp.toOption }
      [⟨s₁, .deviceGetHandleByIndex index, .ok handle⟩, ⟨s₂, .deviceGetName handle, .ok name⟩,
        ⟨s₃, .deviceGetMemoryInfo handle, .ok mem⟩,
        ⟨s₄, .deviceGetCudaComputeCapability handle, cap⟩,
        ⟨s₅, .deviceGetUtilizationRates handle, util⟩, ⟨s₆, .deviceGetTemperature handle, temp⟩]

lemma readDevice_tells (index : ℕ) :
    Ensures H (Nvidia.readDevice index) s fun r t _ => Tells (Described index) r t := by
  unfold Nvidia.readDevice
  apply accounts_bind (ask_tells (fun _ => rfl) fun _ => rfl)
  rintro handle _ s₁ rfl
  apply (ask_ensures _).bind
  · rintro name _ s₂ rfl
    cases hname : Nvidia.decodeName name with
    | error e =>
      apply ensures_raise
      refine .of_blame fun _ => Broken.before (broken_singleton ?_) []
      simp [breaks, hname, Except.isOk, Except.toBool]
    | ok text =>
      have hsound : breaks (⟨s₁, .deviceGetName handle, .ok name⟩ : HostStep σ) = false := by
        simp [breaks, hname, Except.isOk, Except.toBool]
      refine Ensures.mono ?_ fun r u _ h => Accounts.after h (List.forall_mem_singleton.mpr hsound)
      apply accounts_bind (ask_tells (fun _ => rfl) fun _ => rfl)
      rintro mem _ s₃ rfl
      apply accounts_bind (optional_tells fun r => by cases r <;> rfl)
      rintro _ _ s₄ ⟨cap, rfl, rfl⟩
      apply accounts_bind (optional_tells fun r => by cases r <;> rfl)
      rintro _ _ s₅ ⟨util, rfl, rfl⟩
      apply accounts_bind (optional_tells fun r => by cases r <;> rfl)
      rintro _ _ s₆ ⟨temp, rfl, rfl⟩
      apply ensures_pure
      exact .of_value (.replies hname) (by simp)
  · rintro e _ s₂ rfl
    exact .of_blame fun _ => broken_singleton rfl

/-- The list is that of all the devices, each as the driver described it. -/
structure Complete (gpus : List GpuInfo) (t : List (HostStep σ)) : Prop where
  count : deviceCounts t = [gpus.length]
  devices : Parts Described (List.range gpus.length) gpus (deviceSteps t)
  told : ∀ x ∈ t, breaks x = false
  closed : leftOpen t = 0

lemma devices_tells (count : ℕ) :
    Ensures H (mapList Nvidia.readDevice (List.range count)) s fun r t _ =>
      (∀ x ∈ t, isDeviceQuery x.call = true) ∧ Tells (Parts Described (List.range count)) r t :=
  Ensures.and ((only_mapList readDevice_only (List.range count)).steps (H := H) (s := s))
    (accounts_mapList (fun i s => readDevice_tells (s := s) i) (List.range count) s)

lemma parts_length {α : Type} {P : α → GpuInfo → List (HostStep σ) → Prop} {xs : List α}
    {gpus : List GpuInfo} {t : List (HostStep σ)} (h : Parts P xs gpus t) :
    gpus.length = xs.length := by
  obtain ⟨parts, rfl, rfl, hparts⟩ := h
  simpa using hparts.length_eq.symm

/-- A list that was read to the end, between the driver's opening and closing. -/
lemma complete_of_parts {count : ℕ} {gpus : List GpuInfo} {t : List (HostStep σ)} (s s₁ s₃ : σ)
    (hqueries : ∀ x ∈ t, isDeviceQuery x.call = true)
    (hparts : Parts Described (List.range count) gpus t) (htold : ∀ x ∈ t, breaks x = false) :
    Complete gpus ([⟨s, .nvmlInit, .ok ()⟩] ++ ([⟨s₁, .deviceGetCount, .ok count⟩] ++
      (t ++ [⟨s₃, .nvmlShutdown, .ok ()⟩]))) := by
  have hlength : gpus.length = count := by simpa using parts_length hparts
  refine ⟨?_, ?_, ?_, ?_⟩
  · simp only [deviceCounts_append, deviceCounts_eq_nil hqueries, hlength]
    rfl
  · simp only [deviceSteps_append, deviceSteps_eq_self hqueries, hlength]
    simpa [deviceSteps, isDeviceQuery] using hparts
  · intro x hx
    simp only [List.mem_append, List.mem_singleton] at hx
    rcases hx with rfl | rfl | hx | rfl
    · rfl
    · rfl
    · exact htold x hx
    · rfl
  · simp only [leftOpen_append, leftOpen_eq_zero hqueries]
    rfl

/-- The devices were read to the end, or the driver did not tell of them. -/
structure ReadOut (r : Except Exn (List GpuInfo)) (t : List (HostStep σ)) : Prop where
  complete : ∀ gpus, r = .ok gpus → Complete gpus t
  broken : ∀ e, r = .error e → isException e = true → Broken t
  opened : leftOpen t = 0 ∨ leftOpen t = 1

lemma readOut_raise {t : List (HostStep σ)} {e : Exn} (hbroken : isException e = true → Broken t)
    (h : leftOpen t = 0 ∨ leftOpen t = 1) : ReadOut (.error e) t where
  complete := by rintro gpus ⟨⟩
  broken := by
    rintro _ ⟨⟩
    exact hbroken
  opened := h

lemma readDevices_ensures : Ensures H Nvidia.readDevices s fun r t _ => ReadOut r t := by
  unfold Nvidia.readDevices
  apply (ask_ensures _).bind
  · rintro _ _ s₁ rfl
    apply (ask_ensures _).bind
    · rintro count _ s₂ rfl
      apply (devices_tells count).bind
      · rintro gpus t s₃ ⟨hqueries, htells⟩
        obtain ⟨hparts, htold⟩ := htells.value gpus rfl
        have hopen := leftOpen_eq_zero hqueries
        apply (ask_ensures _).bind
        · rintro _ _ s₄ rfl
          apply ensures_pure
          rw [List.append_nil]
          have hcomplete := complete_of_parts s s₁ s₃ hqueries hparts htold
          refine ⟨?_, by rintro e ⟨⟩, .inl hcomplete.closed⟩
          rintro _ ⟨⟩
          exact hcomplete
        · rintro e _ s₄ rfl
          refine readOut_raise (fun _ => (((broken_singleton rfl).after _).after _).after _) (.inr ?_)
          simp only [leftOpen_append, hopen]
          rfl
      · rintro e t s₃ ⟨hqueries, htells⟩
        have hopen := leftOpen_eq_zero hqueries
        refine readOut_raise ?_ (.inr ?_)
        · intro hcaught
          have hbroken : Broken t := htells.blame e rfl hcaught
          exact (hbroken.after _).after _
        · simp only [leftOpen_append, hopen]
          rfl
    · rintro e _ s₂ rfl
      refine readOut_raise (fun _ => (broken_singleton rfl).after _) (.inr ?_)
      simp only [leftOpen_append]
      rfl
  · rintro e _ s₁ rfl
    exact readOut_raise (fun _ => broken_singleton rfl) (.inl rfl)

/-- What is known of a block that reads the devices: it reports all of them, or none if the
driver did not tell of them; it raises only what cannot be caught, and may leave the driver open
once. -/
structure Reported (r : Except Exn (List GpuInfo)) (t : List (HostStep σ)) : Prop where
  gpus : ∀ gpus, r = .ok gpus → Complete gpus t ∨ gpus = [] ∧ Broken t
  raised : ∀ e, r = .error e → isException e = false
  opened : leftOpen t = 0 ∨ leftOpen t = 1

/-- Steps that say nothing about the devices and leave the driver as open as it was. -/
structure Aside (t : List (HostStep σ)) : Prop where
  counts : deviceCounts t = []
  queries : deviceSteps t = []
  told : ∀ x ∈ t, breaks x = false
  closed : leftOpen t = 0

lemma Complete.after {gpus : List GpuInfo} {t u : List (HostStep σ)} (h : Complete gpus u)
    (ht : Aside t) : Complete gpus (t ++ u) where
  count := by rw [deviceCounts_append, ht.counts, List.nil_append, h.count]
  devices := by
    rw [deviceSteps_append, ht.queries, List.nil_append]
    exact h.devices
  told := List.forall_mem_append.mpr ⟨ht.told, h.told⟩
  closed := by rw [leftOpen_append, ht.closed, h.closed, add_zero]

lemma Complete.before {gpus : List GpuInfo} {t u : List (HostStep σ)} (h : Complete gpus t)
    (hu : Aside u) : Complete gpus (t ++ u) where
  count := by rw [deviceCounts_append, hu.counts, List.append_nil, h.count]
  devices := by
    rw [deviceSteps_append, hu.queries, List.append_nil]
    exact h.devices
  told := List.forall_mem_append.mpr ⟨h.told, hu.told⟩
  closed := by rw [leftOpen_append, hu.closed, h.closed, add_zero]

lemma Reported.after {r : Except Exn (List GpuInfo)} {t u : List (HostStep σ)} (h : Reported r u)
    (ht : Aside t) : Reported r (t ++ u) where
  gpus gpus hgpus := by
    rcases h.gpus gpus hgpus with hcomplete | ⟨hnil, hbroken⟩
    · exact .inl (hcomplete.after ht)
    · exact .inr ⟨hnil, hbroken.after t⟩
  raised := h.raised
  opened := by simpa [ht.closed] using h.opened

/-- Nothing is reported. -/
lemma reported_nil {t : List (HostStep σ)} (hbroken : Broken t)
    (h : leftOpen t = 0 ∨ leftOpen t = 1) : Reported (.ok []) t where
  gpus gpus hgpus := .inr ⟨(Except.ok.inj hgpus).symm, hbroken⟩
  raised := by rintro e ⟨⟩
  opened := h

lemma reported_raise {t : List (HostStep σ)} {e : Exn} (he : isException e = false)
    (h : leftOpen t = 0 ∨ leftOpen t = 1) : Reported (.error e) t where
  gpus := by rintro gpus ⟨⟩
  raised := by
    rintro _ ⟨⟩
    exact he
  opened := h

lemma readDevices_reported :
    Ensures H (catching isException (fun _ => pure []) Nvidia.readDevices) s
      fun r t _ => Reported r t := by
  apply ensures_catching readDevices_ensures
  · intro gpus t s' h
    refine ⟨?_, by rintro e ⟨⟩, h.opened⟩
    rintro _ ⟨⟩
    exact .inl (h.complete gpus rfl)
  · intro e t s' h hcaught
    apply ensures_pure
    rw [List.append_nil]
    exact reported_nil (h.broken e rfl hcaught) h.opened
  · intro e t s' h he
    exact reported_raise he h.opened

lemma aside_import (s : σ) : Aside ([⟨s, .importPynvml, .ok true⟩] : List (HostStep σ)) :=
  ⟨rfl, rfl, List.forall_mem_singleton.mpr rfl, rfl⟩

/-- What asking for the driver says: it is there if it could be opened and closed again. -/
structure Probed (r : Except Exn Bool) (t : List (HostStep σ)) : Prop where
  there : r = .ok true → Aside t
  missing : r = .ok false → Broken t
  raised : ∀ e, r = .error e → isException e = true → Broken t
  opened : leftOpen t = 0 ∨ leftOpen t = 1

lemma probed_raise {t : List (HostStep σ)} {e : Exn} (hbroken : Broken t)
    (h : leftOpen t = 0 ∨ leftOpen t = 1) : Probed (.error e) t :=
  ⟨by rintro ⟨⟩, by rintro ⟨⟩, fun _ _ _ => hbroken, h⟩

lemma isAvailable_ensures : Ensures H Nvidia.isAvailable s fun r t _ =>
    Probed r t ∧ ∀ e, r = .error e → isException e = false := by
  have hbody : Ensures H (do
      if ← ask .importPynvml then
        ask .nvmlInit
        ask .nvmlShutdown
        return true
      else return false) s fun r t _ => Probed r t := by
    apply (ask_ensures _).bind
    · rintro found _ s₁ rfl
      cases found with
      | false =>
        apply ensures_pure
        exact ⟨by rintro ⟨⟩, fun _ => broken_singleton rfl, by rintro e ⟨⟩, .inl rfl⟩
      | true =>
        apply (ask_ensures _).bind
        · rintro _ _ s₂ rfl
          apply (ask_ensures _).bind
          · rintro _ _ s₃ rfl
            apply ensures_pure
            refine ⟨fun _ => ⟨rfl, rfl, ?_, rfl⟩, by rintro ⟨⟩, by rintro e ⟨⟩, .inl rfl⟩
            intro x hx
            fin_cases hx <;> rfl
          · rintro e _ s₃ rfl
            exact probed_raise (((broken_singleton rfl).after _).after _) (.inr rfl)
        · rintro e _ s₂ rfl
          exact probed_raise ((broken_singleton rfl).after _) (.inl rfl)
    · rintro e _ s₁ rfl
      exact probed_raise (broken_singleton rfl) (.inl rfl)
  apply ensures_catching hbody
  · rintro found t s' hprobed
    exact ⟨hprobed, by rintro e ⟨⟩⟩
  · rintro e t s' hprobed hcaught
    apply ensures_pure
    rw [List.append_nil]
    exact ⟨⟨by rintro ⟨⟩, fun _ => hprobed.raised e rfl hcaught, by rintro e' ⟨⟩, hprobed.opened⟩,
      by rintro e' ⟨⟩⟩
  · rintro e t s' hprobed he
    refine ⟨hprobed, ?_⟩
    rintro _ ⟨⟩
    exact he

lemma detect_reported : Ensures H Nvidia.detect s fun r t _ =>
    (∀ gpus, r = .ok gpus → Reported r t) ∧
      (∀ e, r = .error e → isException e = true → Broken t) ∧
      (leftOpen t = 0 ∨ leftOpen t = 1) := by
  apply (ask_ensures _).bind
  · rintro imported _ s₁ rfl
    cases imported with
    | false =>
      apply ensures_pure
      refine ⟨?_, by rintro e ⟨⟩, .inl rfl⟩
      rintro _ ⟨⟩
      exact reported_nil (broken_singleton rfl) (.inl rfl)
    | true =>
      apply readDevices_reported.mono
      intro r u s₂ h
      have hreported := h.after (aside_import s)
      refine ⟨fun _ _ => hreported, ?_, hreported.opened⟩
      intro e he hcaught
      rw [hreported.raised e he] at hcaught
      cases hcaught
  · rintro e _ s₁ rfl
    refine ⟨by rintro gpus ⟨⟩, ?_, .inl rfl⟩
    rintro _ ⟨⟩ _
    exact broken_singleton rfl

/-- What the scan takes from the NVIDIA provider, whatever the driver does. -/
lemma nvidia_reported : Ensures H (providerGpus Nvidia.provider) s fun r t _ => Reported r t := by
  have hbody : Ensures H (do
      if ← Nvidia.isAvailable then Nvidia.detect else return []) s fun r t _ =>
        (∀ gpus, r = .ok gpus → Reported r t) ∧
          (∀ e, r = .error e → isException e = true → Broken t) ∧
          (leftOpen t = 0 ∨ leftOpen t = 1) := by
    apply isAvailable_ensures.bind
    · rintro found t s₁ ⟨hprobed, -⟩
      cases found with
      | false =>
        apply ensures_pure
        rw [List.append_nil]
        refine ⟨?_, by rintro e ⟨⟩, hprobed.opened⟩
        rintro _ ⟨⟩
        exact reported_nil (hprobed.missing rfl) hprobed.opened
      | true =>
        have haside := hprobed.there rfl
        apply detect_reported.mono
        rintro r u s₂ ⟨hreported, hbroken, hopen⟩
        refine ⟨fun gpus hgpus => (hreported gpus hgpus).after haside, ?_, ?_⟩
        · intro e he hcaught
          exact (hbroken e he hcaught).after t
        · simpa [haside.closed] using hopen
    · rintro e t s₁ ⟨hprobed, hraised⟩
      refine ⟨by rintro gpus ⟨⟩, ?_, hprobed.opened⟩
      rintro _ ⟨⟩ hcaught
      exact hprobed.raised e rfl hcaught
  apply ensures_catching hbody
  · rintro gpus t s' ⟨hreported, -⟩
    exact hreported gpus rfl
  · rintro e t s' ⟨-, hbroken, hopen⟩ hcaught
    apply ensures_pure
    rw [List.append_nil]
    exact reported_nil (hbroken e rfl hcaught) hopen
  · rintro e t s' ⟨-, -, hopen⟩ he
    exact reported_raise he hopen

/-- The calls about the processor and the memory. -/
def SystemQuery : HostCall → Prop
  | .cpuCount _ | .virtualMemory | .platformSystem | .openCpuinfo | .platformProcessor => True
  | _ => False

lemma aside_of_system {t : List (HostStep σ)} (h : ∀ x ∈ t, SystemQuery x.call) : Aside t := by
  induction t with
  | nil => exact ⟨rfl, rfl, List.forall_mem_nil _, rfl⟩
  | cons x t ih =>
    obtain ⟨hx, ht⟩ := List.forall_mem_cons.mp h
    have hlater := ih ht
    have hone : Aside [x] := by
      obtain ⟨before, c, reply⟩ := x
      cases c <;> first
        | exact absurd hx id
        | exact ⟨rfl, rfl, List.forall_mem_singleton.mpr (by cases reply <;> rfl), rfl⟩
    rw [← List.singleton_append]
    refine ⟨?_, ?_, List.forall_mem_append.mpr ⟨hone.told, hlater.told⟩, ?_⟩
    · rw [deviceCounts_append, hone.counts, hlater.counts, List.nil_append]
    · rw [deviceSteps_append, hone.queries, hlater.queries, List.nil_append]
    · rw [leftOpen_append, hone.closed, hlater.closed, add_zero]

lemma processorOrNone_only : Only (I := host) SystemQuery processorOrNone :=
  (only_perform (I := host) trivial).bind fun _ => only_pure _

lemma cpuModelName_only : Only (I := host) SystemQuery cpuModelName := by
  apply only_catching
  · have hsystem : Only (I := host) SystemQuery (ask .platformSystem) :=
      only_perform (I := host) trivial
    have hopen : Only (I := host) SystemQuery (ask .openCpuinfo) := only_perform (I := host) trivial
    apply hsystem.bind
    intro system
    split_ifs
    · apply hopen.bind
      intro file
      apply (only_lift _).bind
      intro found
      cases found with
      | none => exact processorOrNone_only
      | some model => exact only_pure _
    · exact processorOrNone_only
  · intro e
    exact only_pure _

lemma cpuModelName_ensures : Ensures H cpuModelName s fun r _ _ =>
    ∀ e, r = .error e → isException e = false := by
  apply ensures_catching (R := fun _ _ _ => True) trivial
  · rintro model t s' _ e ⟨⟩
  · intro e t s' _ _
    apply ensures_pure
    rintro e' ⟨⟩
  · rintro e t s' _ he _ ⟨⟩
    exact he

/-- The scan after the loop over the providers. -/
def systemPart (gpus : List (List GpuInfo)) : Scan HardwareProfile := do
  let cores ← cpuCounts
  let ram ← ramMb
  let cpuModel ← cpuModelName
  return {
    gpus := gpus.flatten
    cpuCoresPhysical := cores.1
    cpuCoresLogical := cores.2
    cpuModel := cpuModel
    totalRamMb := ram.1
    availableRamMb := ram.2 }

lemma scanHardware_eq (providers : List GpuProvider) :
    scanHardware providers = mapList providerGpus providers >>= systemPart := rfl

lemma systemPart_only (gpus : List (List GpuInfo)) :
    Only (I := host) SystemQuery (systemPart gpus) := by
  have hask (c : HostCall) (h : SystemQuery c) : Only (I := host) SystemQuery (ask c) :=
    only_perform (I := host) h
  have hcounts : Only (I := host) SystemQuery cpuCounts :=
    (hask (.cpuCount false) trivial).bind fun _ =>
      (hask (.cpuCount true) trivial).bind fun _ => only_pure _
  have hram : Only (I := host) SystemQuery ramMb :=
    (hask .virtualMemory trivial).bind fun _ => only_pure _
  exact hcounts.bind fun _ => hram.bind fun _ => cpuModelName_only.bind fun _ => only_pure _

/-- A step of the operating system that raised. -/
def SystemRaised (e : Exn) (t : List (HostStep σ)) : Prop :=
  ∃ s c, (⟨s, c, .error e⟩ : HostStep σ) ∈ t ∧ (c = .virtualMemory ∨ ∃ logical, c = .cpuCount logical)

lemma orOne_pos (count : Option ℕ) : 0 < orOne count := by
  cases count with
  | none => decide
  | some n =>
    cases n with
    | zero => decide
    | succ n => exact Nat.succ_pos n

/-- What the operating system contributes to a profile. -/
lemma systemPart_ensures (gpus : List (List GpuInfo)) : Ensures H (systemPart gpus) s fun r t _ =>
    (∀ hw, r = .ok hw → hw.gpus = gpus.flatten ∧ 0 < hw.cpuCoresPhysical ∧ 0 < hw.cpuCoresLogical) ∧
      ∀ e, r = .error e → isException e = false ∨ SystemRaised e t := by
  unfold systemPart cpuCounts ramMb
  simp only [Program.bind_assoc]
  apply (ask_ensures _).bind
  · rintro physical _ s₁ rfl
    apply (ask_ensures _).bind
    · rintro logical _ s₂ rfl
      apply (ask_ensures _).bind
      · rintro vmem _ s₃ rfl
        apply cpuModelName_ensures.bind
        · intro model t s₄ _
          apply ensures_pure
          constructor
          · rintro hw ⟨⟩
            exact ⟨rfl, orOne_pos _, orOne_pos _⟩
          · rintro e ⟨⟩
        · intro e t s₄ he
          constructor
          · rintro hw ⟨⟩
          · rintro _ ⟨⟩
            exact .inl (he e rfl)
      · rintro e _ s₃ rfl
        constructor
        · rintro hw ⟨⟩
        · rintro _ ⟨⟩
          exact .inr ⟨s₂, _, by simp, .inl rfl⟩
    · rintro e _ s₂ rfl
      constructor
      · rintro hw ⟨⟩
      · rintro _ ⟨⟩
        exact .inr ⟨s₁, _, by simp, .inr ⟨true, rfl⟩⟩
  · rintro e _ s₁ rfl
    constructor
    · rintro hw ⟨⟩
    · rintro _ ⟨⟩
      exact .inr ⟨s, _, by simp, .inr ⟨false, rfl⟩⟩

lemma SystemRaised.after {e : Exn} {t u : List (HostStep σ)} (h : SystemRaised e u) :
    SystemRaised e (t ++ u) := by
  obtain ⟨s, c, hmem, hc⟩ := h
  exact ⟨s, c, List.mem_append_right _ hmem, hc⟩

lemma defaultProviders_ensures : Ensures H (mapList providerGpus defaultGpuProviders) s fun r t _ =>
    (∀ gpus, r = .ok gpus → Complete gpus.flatten t ∨ gpus.flatten = [] ∧ Broken t) ∧
      (∀ e, r = .error e → isException e = false) ∧ (leftOpen t = 0 ∨ leftOpen t = 1) := by
  apply nvidia_reported.bind
  · intro gpus t s₁ h
    apply ensures_pure
    rw [List.append_nil]
    refine ⟨?_, by rintro e ⟨⟩, h.opened⟩
    rintro _ ⟨⟩
    simpa using h.gpus gpus rfl
  · intro e t s₁ h
    refine ⟨by rintro gpus ⟨⟩, ?_, h.opened⟩
    rintro _ ⟨⟩
    exact h.raised e rfl

/-- A scan with the default providers. -/
structure Scanned (r : Except Exn HardwareProfile) (t : List (HostStep σ)) : Prop where
  gpus : ∀ hw, r = .ok hw → Complete hw.gpus t ∨ hw.gpus = [] ∧ Broken t
  cores : ∀ hw, r = .ok hw → 0 < hw.cpuCoresPhysical ∧ 0 < hw.cpuCoresLogical
  raised : ∀ e, r = .error e → isException e = false ∨ SystemRaised e t
  opened : leftOpen t = 0 ∨ leftOpen t = 1

/-- Whatever the driver does, a scan reports every device in order and as the driver described it,
or no device, and that only if the driver did not tell of them; a driver failure never surfaces;
and a scan that reports devices has closed the driver as often as it opened it. -/
theorem scan_reports (H : Handler host Exn σ) (s : σ) :
    Ensures H (scanHardware defaultGpuProviders) s fun r t _ => Scanned r t := by
  rw [scanHardware_eq]
  apply defaultProviders_ensures.bind
  · rintro gpus t s₁ ⟨hgpus, _, hopen⟩
    have haside := aside_of_system ((systemPart_only gpus).steps (H := H) (s := s₁))
    have hsystem : Ensures H (systemPart gpus) s₁ _ := systemPart_ensures gpus
    obtain ⟨hok, herror⟩ := hsystem
    constructor
    · intro hw hhw
      rw [(hok hw hhw).1]
      rcases hgpus gpus rfl with hcomplete | ⟨hnil, hbroken⟩
      · exact .inl (hcomplete.before haside)
      · exact .inr ⟨hnil, hbroken.before _⟩
    · intro hw hhw
      exact (hok hw hhw).2
    · intro e he
      exact (herror e he).imp_right SystemRaised.after
    · rw [leftOpen_append, haside.closed, add_zero]
      exact hopen
  · rintro e t s₁ ⟨_, hraised, hopen⟩
    constructor
    · rintro hw ⟨⟩
    · rintro hw ⟨⟩
    · rintro _ ⟨⟩
      exact .inl (hraised e rfl)
    · exact hopen

section robust
open LauncherConfig Compatibility HardwareVerdict

/-- What the loop tries for one provider. -/
def providerBody (provider : GpuProvider) : Scan (List GpuInfo) := do
  if ← provider.isAvailable then provider.detect else return []

/-- The provider raises, is not available, or finds no GPU. -/
def FindsNothing (H : Handler host Exn σ) (s : σ) (provider : GpuProvider) : Prop :=
  ∀ gpus, (exec H (providerBody provider) s).result = .ok gpus → gpus = []

/-- What the provider adds to a scan. -/
def contribution (H : Handler host Exn σ) (s : σ) (provider : GpuProvider) : List GpuInfo :=
  match (exec H (providerBody provider) s).result with
  | .ok gpus => gpus
  | .error _ => []

/-- No provider is interrupted. -/
def Uninterrupted (H : Handler host Exn σ) (s : σ) (providers : List GpuProvider) : Prop :=
  ∀ provider ∈ providers, ∀ e, (exec H (providerBody provider) s).result = .error e →
    isException e = true

lemma providerGpus_contribution {provider : GpuProvider}
    (h : ∀ e, (exec H (providerBody provider) s).result = .error e → isException e = true) :
    (exec H (providerGpus provider) s).result = .ok (contribution H s provider) := by
  have hgpus : Ensures H (catching isException (fun _ => pure []) (providerBody provider)) s
      fun r _ _ => r = .ok (contribution H s provider) := by
    have hbody : Ensures H (providerBody provider) s fun r _ _ =>
        r = (exec H (providerBody provider) s).result := rfl
    apply ensures_catching hbody
    · intro gpus t s' hr
      simp [contribution, ← hr]
    · intro e t s' hr _
      apply ensures_pure
      simp [contribution, ← hr]
    · intro e t s' hr he
      simp [h e hr.symm] at he
  exact hgpus

lemma contribution_of_findsNothing {provider : GpuProvider} (h : FindsNothing H s provider) :
    contribution H s provider = [] := by
  unfold contribution
  cases hr : (exec H (providerBody provider) s).result with
  | ok gpus => exact h gpus hr
  | error e => rfl

/-- On a host that stays as it is, a scan is made of what the providers add. -/
lemma exec_scan (hsteady : Steady H) {providers : List GpuProvider}
    (h : Uninterrupted H s providers) :
    (exec H (scanHardware providers) s).result =
      (exec H (systemPart (providers.map (contribution H s))) s).result := by
  rw [scanHardware_eq]
  apply exec_bind_steady hsteady
  apply exec_mapList_steady hsteady
  intro provider hprovider
  exact providerGpus_contribution (h provider hprovider)

/-- Only the list of GPUs depends on the providers. -/
lemma exec_systemPart (gpus : List (List GpuInfo)) :
    (exec H (systemPart gpus) s).result =
      (exec H (systemPart []) s).result.map fun hw => hw.withGpus gpus.flatten := by
  have hpart : systemPart gpus =
      systemPart [] >>= fun hw => pure (hw.withGpus gpus.flatten) := by
    unfold systemPart
    simp only [Program.bind_assoc]
    rfl
  rw [hpart, exec_map]

/-- The GPUs do not depend on the order of the providers but for their own order, nor on
providers that find nothing. -/
lemma contributions_perm {providers providers' dropped : List GpuProvider}
    (hperm : (providers' ++ dropped).Perm providers)
    (hdropped : ∀ provider ∈ dropped, FindsNothing H s provider) :
    (providers'.map (contribution H s)).flatten.Perm
      (providers.map (contribution H s)).flatten := by
  have hnothing : (dropped.map (contribution H s)).flatten = [] := by
    rw [List.flatten_eq_nil_iff, List.forall_mem_map]
    intro provider hprovider
    exact contribution_of_findsNothing (hdropped provider hprovider)
  have hall := (hperm.map (contribution H s)).flatten
  rwa [List.map_append, List.flatten_append, hnothing, List.append_nil] at hall

/-- A provider whose detection raises, and one that reports a GPU. -/
def broken : GpuProvider := ⟨"amd", pure true, Program.raise (.exception "no permission")⟩

def integrated : GpuProvider :=
  ⟨"apple", pure true, pure [⟨0, "M2", 16384, 12000, 4384, none, none, none⟩]⟩

def integratedProfile : HardwareProfile :=
  cpuOnlyProfile.withGpus [⟨0, "M2", 16384, 12000, 4384, none, none, none⟩]

end robust

end LlmMax.ProfilerScan
