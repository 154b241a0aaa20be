import Mathlib.Data.Rat.Floor
import XpuManager.Hal.Driver
import XpuManager.Ial.MetricCache
import XpuManager.Lib.FirstMatch
import XpuManager.Lib.WordSums

/-! # The health of devices

The health command checks the components of devices (`ial/cmn/cmd_health.cpp`). -/

namespace XpuManager

namespace Health

open FirstMatch WordSums

/-! ## Statuses -/

/-- The statuses of a component. -/
inductive HealthStatus where
  | unknown
  | ok
  | warning
  | critical
  deriving DecidableEq

/-- A status as it is written. -/
def getHealthStatusString : HealthStatus → String
  | .ok => "OK"
  | .warning => "Warning"
  | .critical => "Critical"
  | .unknown => "Unknown"

/-- What a check writes under its key. -/
structure Entry where
  key : String
  status : HealthStatus
  /-- Where the device throttles and where it is shut down. -/
  thresholds : Option (UInt32 × UInt32) := none
  description : String
  deriving DecidableEq

/-- The result of a check, and what it has written. -/
abbrev Check := ZeResult × Option Entry

/-! ## Temperatures -/

/-- What the device answers for its sensors. Outputs that are not written stay zero. -/
structure TemperatureAnswers where
  thresholds : ZeResult × Option (UInt32 × UInt32)
  temp : ZeResult × Option ℚ

/-- A number that is not negative, with two decimals; the even one of two is taken. -/
def fixed (value : ℚ) : String :=
  let below := ⌊value * 100⌋.toNat
  let rest := value * 100 - below
  let hundredths := if rest < 1 / 2 ∨ rest = 1 / 2 ∧ below % 2 = 0 then below else below + 1
  toString (hundredths / 100) ++ "." ++ toString (hundredths % 100 / 10) ++ toString (hundredths % 10)

/-- The check of a temperature against its threshold. -/
def getTemperatureHealth (jsonKey : String) (answers : TemperatureAnswers) : Check :=
  let thresholds := answers.thresholds.2.getD (0, 0)
  let tempVal := answers.temp.2.getD 0
  if answers.thresholds.1 ≠ .success then (answers.thresholds.1, none)
  else if answers.temp.1 ≠ .success then (answers.temp.1, none)
  else
    let (status, description) :=
      if (thresholds.1.toNat : ℚ) ≤ tempVal then
        (HealthStatus.warning, "Unhealthy temperature sensor value, " ++ fixed tempVal ++ " >= " ++
          toString thresholds.1 ++ " (threshold)")
      else if 0 < tempVal then (.ok, "Values for all the temperature sensors are healthy.")
      else (.unknown, "Health cannot be determined for temperature sensors.")
    (.success, some { key := jsonKey, status, thresholds := some thresholds, description })

/-! ## Power -/

/-- What a power domain answers, if it is asked. -/
structure PowerDomain where
  /-- Whether it belongs to a sub-device. -/
  properties : Except ZeError Bool
  snap1 : Except ZeError EnergySnapshot
  snap2 : Except ZeError EnergySnapshot

structure PowerAnswers where
  /-- The number of the device. -/
  deviceProperties : Except ZeError UInt32
  throttlePower : UInt32 → UInt64
  /-- There may be no array of handles. -/
  domains : Option (List PowerDomain)

/-- The power between two readings. -/
def PowerDomain.value (domain : PowerDomain) : Option UInt64 :=
  match domain.snap1, domain.snap2 with
  | .ok snap1, .ok snap2 =>
    if snap2.ts ≠ snap1.ts then some ((snap2.energy - snap1.energy) / (snap2.ts - snap1.ts)) else none
  | _, _ => none

/-- What the loop has seen. -/
structure PowerValues where
  currentDeviceMaxDomainValue : UInt64 := 0
  currentSubDeviceValueSum : UInt64 := 0

/-- The power of a domain is counted for its device or its tile. -/
def PowerValues.add (values : PowerValues) (domain : PowerDomain) : PowerValues :=
  match domain.properties, domain.value with
  | .ok true, some value =>
    { values with currentSubDeviceValueSum := values.currentSubDeviceValueSum + value }
  | .ok false, some value =>
    { values with currentDeviceMaxDomainValue := later values.currentDeviceMaxDomainValue value }
  | _, _ => values

def PowerValues.powerVal (values : PowerValues) : UInt64 :=
  later values.currentDeviceMaxDomainValue values.currentSubDeviceValueSum

/-- The power of all domains. -/
def powerValues (domains : List PowerDomain) : PowerValues := domains.foldl PowerValues.add {}

/-- The status is better than unknown for any domains, also for those that have not been measured. -/
def powerStatus (powerThreshold : UInt64) : Option (List PowerDomain) → HealthStatus × String
  | none | some [] => (.unknown, "Health cannot be determined for the power domains.")
  | some domains =>
    let powerVal := (powerValues domains).powerVal
    if powerVal < powerThreshold then (.ok, "Values for all the power domains are healthy.")
    else (.warning, "Unhealthy power domain value, " ++ toString powerVal ++ " >= " ++
      toString powerThreshold ++ " (threshold)")

/-- The check of the power domains, which measures each of them twice. -/
def gpuPower (answers : PowerAnswers) : Check :=
  match answers.deviceProperties with
  | .error result => (result.1, none)
  | .ok deviceId =>
    let powerThreshold := answers.throttlePower deviceId
    if powerThreshold = 0 then (.notReady, none)
    else
      let (status, description) := powerStatus powerThreshold answers.domains
      (.success, some { key := "power_health", status, description })

/-! ## Memory -/

/-- `zes_mem_health_t`. -/
inductive MemHealth where
  | unknown
  | ok
  | degraded
  | critical
  | replace
  deriving DecidableEq

/-- The status that the health of the memory stands for. -/
def getHealthStatus : MemHealth → HealthStatus
  | .ok => .ok
  | .degraded => .warning
  | .critical => .critical
  | .replace => .critical
  | .unknown => .unknown

def getHealthStatusDescription : MemHealth → String
  | .unknown => "The memory health cannot be determined."
  | .ok => "All memory channels are healthy."
  | .degraded =>
    "Excessive correctable errors have been detected on one or more channels. Device should be reset."
  | .critical => "Operating with reduced memory to cover banks with too many uncorrectable errors."
  | .replace => "Device should be replaced due to excessive uncorrectable errors."

/-- The check of the memory. -/
def healthMemory : Except ZeError MemHealth → Check
  | .error result => (result.1, none)
  | .ok health =>
    (.success, some { key := "memory_health", status := getHealthStatus health,
                      description := getHealthStatusDescription health })

/-- A check that is not made. -/
def unsupported : Check :=
  (.success, some { key := "unsupported_item_health", status := .unknown, description := "Unsupported." })

/-! ## Frequency -/

structure FrequencyDomain where
  /-- The sub-device, if the domain belongs to one. -/
  properties : Except ZeError (Option UInt32)
  /-- The throttle reasons. -/
  state : Except ZeError UInt32

/-- The texts of the reasons, in the order in which they are looked for. -/
def throttleReasons : List (UInt32 × String) :=
  [(1, "frequency throttled due to average power excursion."),
    (2, "frequency throttled due to burst power excursion."),
    (4, "frequency throttled due to current excursion."),
    (8, "frequency throttled due to thermal excursion."),
    (16, "frequency throttled due to power supply assertion."),
    (32, "frequency throttled due to software supplied frequency range."),
    (64, "frequency throttled due to a sub block that has a lower frequency.")]

/-- What is said of the first throttle reason that is set. -/
def getFreqThrottleString (flags : UInt32) : String :=
  match throttleReasons.find? fun reason => flags &&& reason.1 = reason.1 with
  | some reason => reason.2
  | none => "frequency throttled reason cannot be determined."

/-- A reason of the device replaces those of its tiles. -/
def frequencyLoop (ret : Bool) (freqThrottleMessage : String) : List FrequencyDomain → Bool × String
  | [] => (ret, freqThrottleMessage)
  | domain :: domains =>
    match domain.properties, domain.state with
    | .ok subdevice, .ok throttleReasons =>
      if throttleReasons = 0 then frequencyLoop true freqThrottleMessage domains
      else
        match subdevice with
        | some subdeviceId =>
          let separator := if freqThrottleMessage = "" then "" else " "
          frequencyLoop true (freqThrottleMessage ++ separator ++ "Tile " ++ toString subdeviceId ++ " " ++
            getFreqThrottleString throttleReasons) domains
        | none => (true, "Device " ++ getFreqThrottleString throttleReasons)
    | _, _ => frequencyLoop ret freqThrottleMessage domains

/-- Without a device handle, or when the domains cannot be listed, nothing is known. -/
def getFrequencyState : Option (List FrequencyDomain) → Bool × String
  | none => (false, "")
  | some domains => frequencyLoop false "" domains

/-- The check of the frequency domains. -/
def frequency (domains : Option (List FrequencyDomain)) : Check :=
  let (getState, freqThrottleMessage) := getFrequencyState domains
  let (status, description) :=
    if ¬getState then (HealthStatus.unknown, "Device frequency state cannot be determined.")
    else if freqThrottleMessage ≠ "" then (.warning, freqThrottleMessage)
    else (.ok, "Device frequency is not throttled")
  (.success, some { key := "frequency_health", status, description })

/-! ## Devices -/

/-- A device, and what it answers while it is checked. -/
structure HealthDevice where
  index : Nat
  core : TemperatureAnswers
  memoryTemp : TemperatureAnswers
  power : PowerAnswers
  memory : Except ZeError MemHealth
  frequency : Option (List FrequencyDomain)

/-- The checks in their order. -/
def checks (d : HealthDevice) : List Check :=
  [getTemperatureHealth "core_temperature" d.core, getTemperatureHealth "memory_temperature" d.memoryTemp,
    gpuPower d.power, healthMemory d.memory, unsupported, frequency d.frequency]

/-- The checks are run until one fails. -/
def runChecks : List Check → ZeResult × List Entry
  | [] => (.success, [])
  | (result, entry) :: checks =>
    if result ≠ .success then (result, entry.toList)
    else
      let (result, entries) := runChecks checks
      (result, entry.toList ++ entries)

/-- The checks of a device, one after the other. -/
def allComponents (d : HealthDevice) : ZeResult × List Entry := runChecks (checks d)

/-- The result is that of the last device. -/
def allComponentsAllDevices (devices : List HealthDevice) : ZeResult × List (Nat × List Entry) :=
  devices.foldl (fun run d =>
    let (result, entries) := allComponents d
    (result, run.2 ++ [(d.index, entries)])) (.success, [])

/-! ## What is said of health -/

/-- The first error, or success. -/
def firstError (results : List ZeResult) : ZeResult :=
  (results.find? fun result => result ≠ .success).getD .success

/-- All checks of all devices, in their order. -/
def allResults (devices : List HealthDevice) : List ZeResult :=
  devices.flatMap fun d => (checks d).map Prod.fst

/-- The first error of a device. -/
def error (d : HealthDevice) : ZeResult := firstError ((checks d).map Prod.fst)

/-- If devices follow the first one that fails, the last one fails with the same error. -/
def LastAgrees (devices : List HealthDevice) : Prop :=
  ∀ before d after, FirstAt (fun d => error d ≠ .success) devices before d after →
    ∀ last ∈ after.getLast?, error last = error d

/-- The power of a domain that is measured, if it is of the kind. -/
def PowerDomain.valueOf (onSubdevice : Bool) (domain : PowerDomain) : Option UInt64 :=
  match domain.properties with
  | .ok onSubdevice' => if onSubdevice' = onSubdevice then domain.value else none
  | .error _ => none

/-- Two readings with different times, of a domain with known properties. -/
def PowerDomain.Measured (domain : PowerDomain) : Prop :=
  (∃ onSubdevice, domain.properties = .ok onSubdevice) ∧ ∃ snap1 snap2,
    domain.snap1 = .ok snap1 ∧ domain.snap2 = .ok snap2 ∧ snap2.ts ≠ snap1.ts

/-- The powers of the domains of one kind. -/
def valuesOf (onSubdevice : Bool) (domains : List PowerDomain) : List UInt64 :=
  domains.filterMap (PowerDomain.valueOf onSubdevice)

/-- The sum of the powers of the sub-devices, exactly. -/
def subDeviceSum (domains : List PowerDomain) : Nat := ((valuesOf true domains).map UInt64.toNat).sum

/-- Where the status is written as that of a healthy device, some domain has been measured, no device
domain has too much power, and neither have the sub-devices together. -/
def PowerHonest (answers : PowerAnswers) : Prop :=
  ∀ entry ∈ (gpuPower answers).2, entry.status = .ok →
    ∃ domains deviceId, answers.domains = some domains ∧ answers.deviceProperties = .ok deviceId ∧
      (∃ domain ∈ domains, domain.Measured) ∧
      (∀ value ∈ valuesOf false domains, value < answers.throttlePower deviceId) ∧
      subDeviceSum domains < (answers.throttlePower deviceId).toNat

/-- Where there are domains and a threshold, some domain is measured, and the sum for the sub-devices does
not wrap to one below the threshold. -/
def PowerFits (answers : PowerAnswers) : Prop :=
  ∀ deviceId domains, answers.deviceProperties = .ok deviceId → answers.throttlePower deviceId ≠ 0 →
    answers.domains = some domains → domains ≠ [] →
      (∃ domain ∈ domains, domain.Measured) ∧
        ((∀ value ∈ valuesOf false domains, value < answers.throttlePower deviceId) →
          subDeviceSum domains % 0x10000000000000000 < (answers.throttlePower deviceId).toNat →
            subDeviceSum domains < (answers.throttlePower deviceId).toNat)

/-! ## Errors -/

section

variable {results : List ZeResult} {devices : List HealthDevice} {d : HealthDevice}

theorem firstError_cons (result : ZeResult) :
    firstError (result :: results) = if result ≠ .success then result else firstError results := by
  rw [firstError, List.find?_cons]
  by_cases h : result = .success
  · simp [h, firstError]
  · simp [h]

theorem firstError_append (results' : List ZeResult) : firstError (results ++ results') =
    if firstError results ≠ .success then firstError results else firstError results' := by
  induction results with
  | nil => exact (if_neg (not_not.mpr rfl)).symm
  | cons result results ih =>
    rw [List.cons_append, firstError_cons, firstError_cons, ih]
    by_cases h : result ≠ .success
    · rw [if_pos h, if_pos h, if_pos h]
    · rw [if_neg h, if_neg h]

theorem runChecks_fst (checks : List Check) : (runChecks checks).1 = firstError (checks.map Prod.fst) := by
  induction checks with
  | nil => rfl
  | cons check checks ih =>
    rw [List.map_cons, firstError_cons, ← ih, runChecks]
    by_cases h : check.1 ≠ .success
    · rw [if_pos h, if_pos h]
    · rw [if_neg h, if_neg h]

/-- The checks of a device end with its first error. -/
theorem allComponents_fst (d : HealthDevice) : (allComponents d).1 = error d := runChecks_fst (checks d)

theorem allComponentsAllDevices_concat (d : HealthDevice) :
    (allComponentsAllDevices (devices ++ [d])).1 = error d := by
  rw [allComponentsAllDevices, List.foldl_concat]
  exact allComponents_fst d

theorem firstError_allResults_cons (d : HealthDevice) : firstError (allResults (d :: devices)) =
    if error d ≠ .success then error d else firstError (allResults devices) := by
  rw [allResults, List.flatMap_cons]
  exact firstError_append _

theorem firstError_allResults_eq_success (h : ∀ d ∈ devices, ¬error d ≠ .success) :
    firstError (allResults devices) = .success := by
  induction devices with
  | nil => rfl
  | cons d devices ih =>
    rw [List.forall_mem_cons] at h
    rw [firstError_allResults_cons, if_neg h.1, ih h.2]

/-- The first error is that of the first device that fails. -/
theorem firstError_allResults_of_first {before after : List HealthDevice}
    (h : FirstAt (fun d => error d ≠ .success) devices before d after) :
    firstError (allResults devices) = error d := by
  obtain ⟨rfl, hfails, hbefore⟩ := h
  induction before with
  | nil => rw [List.nil_append, firstError_allResults_cons, if_pos hfails]
  | cons d' before ih =>
    rw [List.forall_mem_cons] at hbefore
    rw [List.cons_append, firstError_allResults_cons, if_neg hbefore.1, ih hbefore.2]

/-- **The result is the first error** exactly if the last device agrees with the first that fails. -/
theorem allDevices_first_iff :
    (allComponentsAllDevices devices).1 = firstError (allResults devices) ↔ LastAgrees devices := by
  by_cases hany : ∃ d ∈ devices, error d ≠ .success
  · obtain ⟨before, d, after, hfirst⟩ := exists_firstAt hany
    have hagrees : LastAgrees devices ↔ ∀ last ∈ after.getLast?, error last = error d := by
      constructor
      · intro h
        exact h before d after hfirst
      · intro h before' d' after' hfirst'
        obtain ⟨-, rfl, rfl⟩ := hfirst.unique hfirst'
        exact h
    rw [firstError_allResults_of_first hfirst, hagrees, hfirst.split]
    rcases List.eq_nil_or_concat' after with rfl | ⟨after, last, rfl⟩
    · rw [allComponentsAllDevices_concat]
      exact iff_of_true rfl fun last hlast => absurd hlast (Option.not_mem_none last)
    · rw [← List.cons_append, ← List.append_assoc, allComponentsAllDevices_concat, List.getLast?_concat]
      simp only [Option.mem_some_iff, forall_eq']
  · have hall : ∀ d ∈ devices, ¬error d ≠ .success := fun d hmem hfails => hany ⟨d, hmem, hfails⟩
    rw [firstError_allResults_eq_success hall]
    refine iff_of_true ?_ fun before d after hfirst => absurd hfirst.holds (hall d hfirst.mem)
    rcases List.eq_nil_or_concat' devices with rfl | ⟨devices, last, rfl⟩
    · rfl
    · rw [allComponentsAllDevices_concat]
      exact not_not.mp (hall last (List.mem_append_right _ List.mem_cons_self))

end

/-! ## Powers -/

section

variable {domains : List PowerDomain} {powerThreshold : UInt64}

/-- Only what is measured has a power. -/
theorem PowerDomain.measured_of_mem {domain : PowerDomain} {onSubdevice : Bool} {value : UInt64}
    (h : value ∈ domain.valueOf onSubdevice) : domain.Measured := by
  rw [PowerDomain.valueOf] at h
  split at h
  case h_1 onSubdevice' hproperties =>
    split at h
    case isTrue =>
      rw [PowerDomain.value] at h
      split at h
      case h_1 snap1 snap2 hsnap1 hsnap2 =>
        split at h
        case isTrue hts => exact ⟨⟨onSubdevice', hproperties⟩, snap1, snap2, hsnap1, hsnap2, hts⟩
        case isFalse => cases h
      case h_2 => cases h
    case isFalse => cases h
  case h_2 => cases h

/-- One domain is added to the powers of its kind. -/
theorem powerValues_concat (domain : PowerDomain) : powerValues (domains ++ [domain]) =
    { currentDeviceMaxDomainValue :=
        (domain.valueOf false).elim (powerValues domains).currentDeviceMaxDomainValue
          (later (powerValues domains).currentDeviceMaxDomainValue ·)
      currentSubDeviceValueSum :=
        (domain.valueOf true).elim (powerValues domains).currentSubDeviceValueSum
          ((powerValues domains).currentSubDeviceValueSum + ·) } := by
  rw [powerValues, List.foldl_concat, PowerValues.add, PowerDomain.valueOf, PowerDomain.valueOf]
  rcases domain.properties with result | onSubdevice
  · rfl
  · cases domain.value <;> cases onSubdevice <;> rfl

theorem valuesOf_concat (onSubdevice : Bool) (domain : PowerDomain) :
    valuesOf onSubdevice (domains ++ [domain]) =
      valuesOf onSubdevice domains ++ (domain.valueOf onSubdevice).toList := by
  rw [valuesOf, List.filterMap_append, valuesOf]
  cases h : domain.valueOf onSubdevice <;> simp [h]

theorem currentDeviceMax_lt_iff (h : 0 < powerThreshold) :
    (powerValues domains).currentDeviceMaxDomainValue < powerThreshold ↔
      ∀ value ∈ valuesOf false domains, value < powerThreshold := by
  induction domains using List.reverseRecOn with
  | nil => exact iff_of_true h fun value hvalue => absurd hvalue List.not_mem_nil
  | append_singleton domains domain ih =>
    rw [powerValues_concat, valuesOf_concat]
    cases domain.valueOf false with
    | none => simpa using ih
    | some value =>
      rw [List.forall_mem_append, ← ih]
      dsimp only [Option.elim_some]
      rw [later_lt_iff]
      simp

theorem currentSubDeviceSum_eq :
    (powerValues domains).currentSubDeviceValueSum.toNat = subDeviceSum domains % 0x10000000000000000 := by
  induction domains using List.reverseRecOn with
  | nil => rfl
  | append_singleton domains domain ih =>
    rw [powerValues_concat, subDeviceSum, valuesOf_concat]
    cases domain.valueOf true with
    | none => simpa [subDeviceSum] using ih
    | some value =>
      rw [Option.elim_some, UInt64.toNat_add, ih, subDeviceSum]
      simp

theorem valuesOf_eq_nil (h : ∀ domain ∈ domains, ¬domain.Measured) (onSubdevice : Bool) :
    valuesOf onSubdevice domains = [] := by
  refine List.filterMap_eq_nil_iff.mpr fun domain hmem => Option.eq_none_iff_forall_not_mem.mpr ?_
  intro value hvalue
  exact h domain hmem (PowerDomain.measured_of_mem hvalue)

/-- When domains are said to be healthy. -/
theorem powerStatus_eq_ok_iff (hthreshold : powerThreshold ≠ 0) (hne : domains ≠ []) :
    (powerStatus powerThreshold (some domains)).1 = .ok ↔
      (∀ value ∈ valuesOf false domains, value < powerThreshold) ∧
        subDeviceSum domains % 0x10000000000000000 < powerThreshold.toNat := by
  obtain ⟨domain, rest, rfl⟩ := List.exists_cons_of_ne_nil hne
  rw [powerStatus, ← currentDeviceMax_lt_iff (UInt64.pos_iff_ne_zero.mpr hthreshold),
    ← currentSubDeviceSum_eq, ← UInt64.lt_iff_toNat_lt, ← later_lt_iff]
  case x_1 => exact hne
  rw [PowerValues.powerVal]
  split
  case isTrue hlt => exact iff_of_true rfl hlt
  case isFalse hle => exact iff_of_false (fun h => nomatch h) hle

/-- Nothing is said where no threshold or no domain is known. -/
theorem gpuPower_ok_iff {answers : PowerAnswers} :
    (∃ entry ∈ (gpuPower answers).2, entry.status = .ok) ↔
      ∃ deviceId domains, answers.deviceProperties = .ok deviceId ∧ answers.throttlePower deviceId ≠ 0 ∧
        answers.domains = some domains ∧ domains ≠ [] ∧
        (powerStatus (answers.throttlePower deviceId) (some domains)).1 = .ok := by
  rw [gpuPower]
  constructor
  · rintro ⟨entry, hentry, hstatus⟩
    split at hentry
    case h_1 => cases hentry
    case h_2 deviceId hproperties =>
      dsimp only at hentry
      split at hentry
      case isTrue => cases hentry
      case isFalse hthreshold =>
        obtain rfl := Option.some.inj hentry
        rcases hdomains : answers.domains with _ | _ | ⟨domain, domains⟩
        · rw [hdomains] at hstatus
          cases hstatus
        · rw [hdomains] at hstatus
          cases hstatus
        · rw [hdomains] at hstatus
          exact ⟨deviceId, _, hproperties, hthreshold, rfl, List.cons_ne_nil _ _, hstatus⟩
  · rintro ⟨deviceId, domains, hproperties, hthreshold, hdomains, -, hstatus⟩
    rw [hproperties, hdomains]
    dsimp only
    rw [if_neg hthreshold]
    exact ⟨_, rfl, hstatus⟩

/-- **A device is said to be healthy only if it has been measured** exactly if some domain is measured
wherever there are any, and no sum wraps. -/
theorem powerHonest_iff {answers : PowerAnswers} : PowerHonest answers ↔ PowerFits answers := by
  constructor
  · intro honest deviceId domains hproperties hthreshold hdomains hne
    have hok : (powerStatus (answers.throttlePower deviceId) (some domains)).1 = .ok →
        (∃ domain ∈ domains, domain.Measured) ∧
          subDeviceSum domains < (answers.throttlePower deviceId).toNat := by
      intro hstatus
      obtain ⟨entry, hentry, hstatus⟩ :=
        gpuPower_ok_iff.mpr ⟨deviceId, domains, hproperties, hthreshold, hdomains, hne, hstatus⟩
      obtain ⟨domains', deviceId', hdomains', hproperties', hmeasured, -, hsum⟩ :=
        honest entry hentry hstatus
      obtain rfl := Option.some.inj (hdomains.symm.trans hdomains')
      obtain rfl := Except.ok.inj (hproperties.symm.trans hproperties')
      exact ⟨hmeasured, hsum⟩
    rw [powerStatus_eq_ok_iff hthreshold hne] at hok
    refine ⟨?_, fun hvalues hsum => (hok ⟨hvalues, hsum⟩).2⟩
    by_contra hnone
    have hnone' : ∀ domain ∈ domains, ¬domain.Measured := fun domain hmem h => hnone ⟨domain, hmem, h⟩
    refine hnone (hok ⟨?_, ?_⟩).1
    · rw [valuesOf_eq_nil hnone']
      exact fun value hvalue => absurd hvalue List.not_mem_nil
    · rw [subDeviceSum, valuesOf_eq_nil hnone']
      exact UInt64.lt_iff_toNat_lt.mp (UInt64.pos_iff_ne_zero.mpr hthreshold)
  · intro fits entry hentry hstatus
    obtain ⟨deviceId, domains, hproperties, hthreshold, hdomains, hne, hstatus⟩ :=
      gpuPower_ok_iff.mp ⟨entry, hentry, hstatus⟩
    obtain ⟨hvalues, hsum⟩ := (powerStatus_eq_ok_iff hthreshold hne).mp hstatus
    obtain ⟨hmeasured, hwraps⟩ := fits deviceId domains hproperties hthreshold hdomains hne
    exact ⟨domains, deviceId, hdomains, hproperties, hmeasured, hvalues, hwraps hvalues hsum⟩

end

/-! ## Verdicts -/

/-- **The result is the first error**, and no device is said to be healthy that has not been measured. -/
theorem health_iff (devices : List HealthDevice) :
    ((allComponentsAllDevices devices).1 = firstError (allResults devices) ↔ LastAgrees devices) ∧
      ∀ answers, PowerHonest answers ↔ PowerFits answers :=
  ⟨allDevices_first_iff, fun _ => powerHonest_iff⟩

/-- A device whose one domain cannot be read. -/
def unreadPower : PowerAnswers where
  deviceProperties := .ok 0
  throttlePower _ := 300
  domains := some [⟨.error .notAvailable, .error .notAvailable, .error .notAvailable⟩]

/-- A device without a temperature sensor. -/
def sensorless : HealthDevice where
  index := 0
  core := ⟨(.unsupportedFeature, none), (.unsupportedFeature, none)⟩
  memoryTemp := ⟨(.unsupportedFeature, none), (.unsupportedFeature, none)⟩
  power := unreadPower
  memory := .ok .ok
  frequency := none

/-- A device with its sensors. -/
def cool : HealthDevice :=
  { sensorless with
    index := 1
    core := ⟨(.success, some (105, 130)), (.success, some 40)⟩
    memoryTemp := ⟨(.success, some (85, 100)), (.success, some 40)⟩ }

/-- The error of the first device is lost, and the domain that cannot be read is said to be healthy. -/
theorem health_not_reported :
    (allComponentsAllDevices [sensorless, cool]).1 ≠ firstError (allResults [sensorless, cool]) ∧
      ¬PowerHonest unreadPower := by
  refine ⟨by decide +kernel, fun honest => ?_⟩
  have hentry : (gpuPower unreadPower).2 = some { key := "power_health", status := .ok, description :=
      "Values for all the power domains are healthy." } := by decide +kernel
  obtain ⟨domains, deviceId, hdomains, -, ⟨domain, hmem, ⟨onSubdevice, hproperties⟩, -⟩, -⟩ :=
    honest _ hentry rfl
  obtain rfl := Option.some.inj hdomains
  obtain rfl := List.mem_singleton.mp hmem
  cases hproperties

end Health

end XpuManager
