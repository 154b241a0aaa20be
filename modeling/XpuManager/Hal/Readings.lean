import XpuManager.Hal.FrequencyRange
import XpuManager.Hal.PowerTiles

/-! # Readings

Some readers look for a domain or a sensor of one kind, and return its reading (`hal/core/power.cpp`,
`frequency.cpp`, `temperature.cpp`). They end with a result and, if it has been written, an output.
-/

namespace XpuManager

namespace Readings

open FirstMatch

/-! ## Readers -/

variable {P α : Type}

/-- A domain or a sensor, and what the driver answers for it. -/
structure Source (P α : Type) where
  properties : Except ZeError P
  reading : Except ZeError α

/-- A loop that ends with the first source that is wanted, or with the first call that fails. -/
def firstReading (wanted : P → Bool) : List (Source P α) → ZeResult × Option α
  | [] => (.success, none)
  | source :: sources =>
    match source.properties with
    | .error result => (result.1, none)
    | .ok properties =>
      if wanted properties then
        match source.reading with
        | .error result => (result.1, none)
        | .ok reading => (.success, some reading)
      else firstReading wanted sources

/-- A loop that passes over what cannot be read, and notes whether a source was wanted. -/
def anyReading (wanted : P → Bool) (found : Bool) : List (Source P α) → ZeResult × Option α
  | [] => (if found then .success else .unsupportedFeature, none)
  | source :: sources =>
    match source.properties with
    | .error _ => anyReading wanted found sources
    | .ok properties =>
      if wanted properties then
        match source.reading with
        | .error _ => anyReading wanted true sources
        | .ok reading => (.success, some reading)
      else anyReading wanted found sources

/-! ## Power and frequency -/

/-- The kind of domain that is wanted. A package that is the only domain stands for any. -/
def powerWanted (powerCount : Nat) (forGPU : Bool) (properties : Power.PowerProperties) : Bool :=
  properties.domain = (if forGPU then .gpu else .card) ∨ powerCount = 1 ∧ properties.domain = .package

/-- The energy of the first domain of the kind. -/
def getEnergy (forGPU : Bool) (handles : List (Source Power.PowerProperties EnergySnapshot)) :
    ZeResult × Option EnergySnapshot :=
  firstReading (powerWanted handles.length forGPU) handles

/-- The reading is the flags of the throttle reasons. -/
def getThrottleReason (handles : List (Source Frequency.FreqProperties UInt32)) :
    ZeResult × Option UInt32 :=
  firstReading (fun properties => properties.type = .gpu) handles

/-! ## Temperatures -/

inductive TempSensors where
  | global
  | gpu
  | memory
  | globalMin
  | gpuMin
  | memoryMin
  | gpuBoard
  | gpuBoardMin
  deriving DecidableEq

/-- Without a reading, the output is zero. -/
def getTemp (type : TempSensors) (handles : List (Source TempSensors ℚ)) : ZeResult × Option ℚ :=
  anyReading (fun found => found = type) false handles

/-- The thresholds of `device_thresholds.json`, by the device's number. -/
structure TemperatureThresholds where
  throttleCore : UInt32 → Option UInt64
  shutdownCore : UInt32 → Option UInt64
  shutdownMemory : UInt32 → Option UInt64
  defaultCoreThrottle : UInt64 := 105
  defaultCoreShutdown : UInt64 := 130
  defaultMemoryShutdown : UInt64 := 100

namespace TemperatureThresholds

variable (thresholds : TemperatureThresholds)

def getThrottleCoreTemperature (deviceId : UInt32) : UInt64 :=
  (thresholds.throttleCore deviceId).getD thresholds.defaultCoreThrottle

def getShutdownCoreTemperature (deviceId : UInt32) : UInt64 :=
  (thresholds.shutdownCore deviceId).getD thresholds.defaultCoreShutdown

def getShutdownMemoryTemperature (deviceId : UInt32) : UInt64 :=
  (thresholds.shutdownMemory deviceId).getD thresholds.defaultMemoryShutdown

/-- Where throttling begins, and where the device is shut down. -/
def core (deviceId : UInt32) : UInt32 × UInt32 :=
  ((thresholds.getThrottleCoreTemperature deviceId).toUInt32,
    (thresholds.getShutdownCoreTemperature deviceId).toUInt32)

/-- The temperature at which the memory throttles, whatever the device. -/
def memoryThrottleDefault : UInt32 := 85

def memory (deviceId : UInt32) : UInt32 × UInt32 :=
  (memoryThrottleDefault, (thresholds.getShutdownMemoryTemperature deviceId).toUInt32)

end TemperatureThresholds

/-- A device whose properties cannot be read has no thresholds, and the result is not changed. -/
def getThreshold (thresholds : UInt32 → UInt32 × UInt32) (deviceId : Except ZeError UInt32) :
    ZeResult × Option (UInt32 × UInt32) :=
  match deviceId with
  | .error _ => (.success, none)
  | .ok deviceId => (.success, some (thresholds deviceId))

/-- The two thresholds of the core. -/
def getCoreThreshold (thresholds : TemperatureThresholds) (deviceId : Except ZeError UInt32) :
    ZeResult × Option (UInt32 × UInt32) :=
  getThreshold thresholds.core deviceId

/-- The two thresholds of the memory. -/
def getMemoryThreshold (thresholds : TemperatureThresholds) (deviceId : Except ZeError UInt32) :
    ZeResult × Option (UInt32 × UInt32) :=
  getThreshold thresholds.memory deviceId

/-! ## Honest readers -/

/-- What is read from the sources that are wanted. -/
def outputs (wanted : P → Bool) (sources : List (Source P α)) : List α :=
  sources.filterMap fun source =>
    match source.properties, source.reading with
    | .ok properties, .ok reading => if wanted properties then some reading else none
    | _, _ => none

/-- A success has an output of a reading that has been made. Without any, there is an error. -/
def Honest (run : ZeResult × Option α) (outputs : List α) : Prop :=
  run.1 = .success → ∃ output ∈ outputs, run.2 = some output

namespace Source

/-- A source that ends the search for the first one. -/
def Ends (wanted : P → Bool) (source : Source P α) : Prop :=
  ∀ properties, source.properties = .ok properties → wanted properties

/-- A source that is wanted. -/
def Wanted (wanted : P → Bool) (source : Source P α) : Prop :=
  ∃ properties, source.properties = .ok properties ∧ wanted properties

/-- A source that is wanted and can be read. -/
def Reads (wanted : P → Bool) (source : Source P α) : Prop :=
  source.Wanted wanted ∧ ∃ reading, source.reading = .ok reading

end Source

section

variable {wanted : P → Bool} {sources : List (Source P α)} {source : Source P α} {reading : α}

theorem mem_outputs (hmem : source ∈ sources) (hwanted : source.Wanted wanted)
    (hreading : source.reading = .ok reading) : reading ∈ outputs wanted sources := by
  obtain ⟨properties, hproperties, hw⟩ := hwanted
  refine List.mem_filterMap.mpr ⟨source, hmem, ?_⟩
  rw [hproperties, hreading]
  exact if_pos hw

theorem firstReading_of_none (h : ∀ source ∈ sources, ¬source.Ends wanted) :
    firstReading wanted sources = (.success, none) := by
  induction sources with
  | nil => rfl
  | cons source sources ih =>
    rw [List.forall_mem_cons] at h
    obtain ⟨properties, hpasses⟩ := not_forall.mp h.1
    obtain ⟨hproperties, hpasses⟩ := Classical.not_imp.mp hpasses
    rw [firstReading, hproperties]
    exact (if_neg hpasses).trans (ih h.2)

/-- The source that ends the search decides. -/
theorem firstReading_of_first {before after : List (Source P α)}
    (h : FirstAt (Source.Ends wanted) sources before source after) :
    (firstReading wanted sources).1 ≠ .success ∨ ∃ reading, source.Wanted wanted ∧
      source.reading = .ok reading ∧ firstReading wanted sources = (.success, some reading) := by
  obtain ⟨rfl, hends, hbefore⟩ := h
  induction before with
  | nil =>
    rw [List.nil_append, firstReading]
    cases hproperties : source.properties with
    | error result => exact .inl result.2
    | ok properties =>
      have hwanted := hends properties hproperties
      cases hreading : source.reading with
      | error result =>
        refine .inl fun hsuccess => result.2 ?_
        exact (congrArg Prod.fst (if_pos hwanted)).symm.trans hsuccess
      | ok reading => exact .inr ⟨reading, ⟨properties, hproperties, hwanted⟩, rfl, if_pos hwanted⟩
  | cons other before ih =>
    rw [List.forall_mem_cons] at hbefore
    obtain ⟨properties, hpasses⟩ := not_forall.mp hbefore.1
    obtain ⟨hproperties, hpasses⟩ := Classical.not_imp.mp hpasses
    have hrest : firstReading wanted (other :: before ++ source :: after) =
        firstReading wanted (before ++ source :: after) := by
      rw [List.cons_append, firstReading, hproperties]
      exact if_neg hpasses
    rw [hrest]
    exact ih hbefore.2

/-- **When the first loop is honest.** -/
theorem firstReading_honest_iff : Honest (firstReading wanted sources) (outputs wanted sources) ↔
    ∃ source ∈ sources, source.Ends wanted := by
  by_cases hany : ∃ source ∈ sources, source.Ends wanted
  · refine iff_of_true (fun hsuccess => ?_) hany
    obtain ⟨before, source, after, hfirst⟩ := exists_firstAt hany
    rcases firstReading_of_first hfirst with hfails | ⟨reading, hwanted, hreading, hrun⟩
    · exact absurd hsuccess hfails
    · exact ⟨reading, mem_outputs hfirst.mem hwanted hreading, congrArg Prod.snd hrun⟩
  · refine iff_of_false (fun honest => ?_) hany
    rw [firstReading_of_none fun source hmem hends => hany ⟨source, hmem, hends⟩] at honest
    obtain ⟨output, -, houtput⟩ := honest rfl
    cases houtput

/-- A source that is passed over is noted if it was wanted. -/
theorem anyReading_cons_of_not (found : Bool) (h : ¬source.Reads wanted) :
    ∃ found' : Bool, (found' ↔ found ∨ source.Wanted wanted) ∧
      anyReading wanted found (source :: sources) = anyReading wanted found' sources := by
  rw [anyReading]
  cases hproperties : source.properties with
  | error result =>
    refine ⟨found, (or_iff_left ?_).symm, rfl⟩
    rintro ⟨properties, hok, -⟩
    cases hproperties.symm.trans hok
  | ok properties =>
    by_cases hwanted : wanted properties
    · cases hreading : source.reading with
      | error result =>
        exact ⟨true, iff_of_true rfl (.inr ⟨properties, hproperties, hwanted⟩), if_pos hwanted⟩
      | ok reading => exact absurd ⟨⟨properties, hproperties, hwanted⟩, reading, hreading⟩ h
    · refine ⟨found, (or_iff_left ?_).symm, if_neg hwanted⟩
      rintro ⟨properties', hok, hwanted'⟩
      obtain rfl := Except.ok.inj (hproperties.symm.trans hok)
      exact hwanted hwanted'

/-- Without a reading there is a result only. -/
theorem anyReading_of_none (found : Bool) (h : ∀ source ∈ sources, ¬source.Reads wanted) :
    (anyReading wanted found sources).2 = none ∧ ((anyReading wanted found sources).1 = .success ↔
      found ∨ ∃ source ∈ sources, source.Wanted wanted) := by
  induction sources generalizing found with
  | nil =>
    refine ⟨rfl, ?_⟩
    cases found
    · exact iff_of_false nofun nofun
    · exact iff_of_true rfl (.inl rfl)
  | cons source sources ih =>
    rw [List.forall_mem_cons] at h
    obtain ⟨found', hfound, hrest⟩ := anyReading_cons_of_not found h.1
    rw [hrest, List.exists_mem_cons_iff, ← or_assoc, ← hfound]
    exact ih found' h.2

/-- The first reading is the answer. -/
theorem anyReading_of_first (found : Bool) {before after : List (Source P α)}
    (h : FirstAt (Source.Reads wanted) sources before source after) :
    ∃ reading, source.reading = .ok reading ∧
      anyReading wanted found sources = (.success, some reading) := by
  obtain ⟨rfl, ⟨⟨properties, hproperties, hwanted⟩, reading, hreading⟩, hbefore⟩ := h
  induction before generalizing found with
  | nil =>
    refine ⟨reading, hreading, ?_⟩
    rw [List.nil_append, anyReading, hproperties, hreading]
    exact if_pos hwanted
  | cons other before ih =>
    rw [List.forall_mem_cons] at hbefore
    obtain ⟨found', -, hrest⟩ := anyReading_cons_of_not found hbefore.1
    rw [List.cons_append, hrest]
    exact ih found' hbefore.2

/-- **When the second loop is honest.** -/
theorem anyReading_honest_iff : Honest (anyReading wanted false sources) (outputs wanted sources) ↔
    (∃ source ∈ sources, source.Reads wanted) ∨ ∀ source ∈ sources, ¬source.Wanted wanted := by
  by_cases hany : ∃ source ∈ sources, source.Reads wanted
  · refine iff_of_true (fun _ => ?_) (.inl hany)
    obtain ⟨before, source, after, hfirst⟩ := exists_firstAt hany
    obtain ⟨reading, hreading, hrun⟩ := anyReading_of_first false hfirst
    exact ⟨reading, mem_outputs hfirst.mem hfirst.holds.1 hreading, congrArg Prod.snd hrun⟩
  · obtain ⟨hnone, hresult⟩ := anyReading_of_none false
      fun source hmem hreads => hany ⟨source, hmem, hreads⟩
    rw [or_iff_right hany]
    constructor
    · intro honest source hmem hwanted
      obtain ⟨output, -, houtput⟩ := honest (hresult.mpr (.inr ⟨source, hmem, hwanted⟩))
      rw [hnone] at houtput
      cases houtput
    · intro h hsuccess
      rcases hresult.mp hsuccess with hfound | ⟨source, hmem, hwanted⟩
      · exact absurd hfound Bool.false_ne_true
      · exact absurd hwanted (h source hmem)

/-- **When thresholds are honest.** -/
theorem getThreshold_honest_iff {thresholds : UInt32 → UInt32 × UInt32}
    {deviceId : Except ZeError UInt32} :
    Honest (getThreshold thresholds deviceId) (deviceId.toOption.toList.map thresholds) ↔
      ∃ id, deviceId = .ok id := by
  cases deviceId with
  | error result => exact iff_of_false (fun honest => nomatch honest rfl) nofun
  | ok id => exact iff_of_true (fun _ => ⟨thresholds id, List.mem_singleton_self _, rfl⟩) ⟨id, rfl⟩

end

/-- **When the readers are honest.** The energy and the throttle reasons: exactly if there is a domain of
the kind, or one whose properties cannot be read. A temperature: exactly if a sensor of the type can be
read, or there is none. The thresholds: exactly if the device's properties can be read. -/
theorem readings_honest_iff (forGPU : Bool)
    (powerHandles : List (Source Power.PowerProperties EnergySnapshot))
    (frequencyHandles : List (Source Frequency.FreqProperties UInt32)) (type : TempSensors)
    (temperatureHandles : List (Source TempSensors ℚ)) (thresholds : TemperatureThresholds)
    (deviceId : Except ZeError UInt32) :
    (Honest (getEnergy forGPU powerHandles)
        (outputs (powerWanted powerHandles.length forGPU) powerHandles) ↔
      ∃ source ∈ powerHandles, source.Ends (powerWanted powerHandles.length forGPU)) ∧
    (Honest (getThrottleReason frequencyHandles)
        (outputs (fun properties => properties.type = .gpu) frequencyHandles) ↔
      ∃ source ∈ frequencyHandles, source.Ends fun properties => properties.type = .gpu) ∧
    (Honest (getTemp type temperatureHandles)
        (outputs (fun found => found = type) temperatureHandles) ↔
      (∃ source ∈ temperatureHandles, source.Reads fun found => found = type) ∨
        ∀ source ∈ temperatureHandles, ¬source.Wanted fun found => found = type) ∧
    (Honest (getCoreThreshold thresholds deviceId) (deviceId.toOption.toList.map thresholds.core) ↔
      ∃ id, deviceId = .ok id) ∧
    (Honest (getMemoryThreshold thresholds deviceId)
        (deviceId.toOption.toList.map thresholds.memory) ↔
      ∃ id, deviceId = .ok id) :=
  ⟨firstReading_honest_iff, firstReading_honest_iff, anyReading_honest_iff, getThreshold_honest_iff,
    getThreshold_honest_iff⟩

/-- A device whose properties cannot be read: a success without thresholds. -/
theorem readings_not_honest : ¬∀ (forGPU : Bool)
    (powerHandles : List (Source Power.PowerProperties EnergySnapshot))
    (frequencyHandles : List (Source Frequency.FreqProperties UInt32)) (type : TempSensors)
    (temperatureHandles : List (Source TempSensors ℚ)) (thresholds : TemperatureThresholds)
    (deviceId : Except ZeError UInt32),
    Honest (getEnergy forGPU powerHandles)
        (outputs (powerWanted powerHandles.length forGPU) powerHandles) ∧
      Honest (getThrottleReason frequencyHandles)
        (outputs (fun properties => properties.type = .gpu) frequencyHandles) ∧
      Honest (getTemp type temperatureHandles)
        (outputs (fun found => found = type) temperatureHandles) ∧
      Honest (getCoreThreshold thresholds deviceId)
        (deviceId.toOption.toList.map thresholds.core) ∧
      Honest (getMemoryThreshold thresholds deviceId)
        (deviceId.toOption.toList.map thresholds.memory) := by
  intro h
  obtain ⟨-, -, -, hcore, -⟩ := h false [] [] .gpu []
    { throttleCore := fun _ => none, shutdownCore := fun _ => none, shutdownMemory := fun _ => none }
    (.error ZeError.notAvailable)
  obtain ⟨output, hmem, -⟩ := hcore rfl
  exact absurd hmem List.not_mem_nil

end Readings

end XpuManager
