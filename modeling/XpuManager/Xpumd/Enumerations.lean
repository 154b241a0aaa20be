import XpuManager.Xpumd.EventRegister

/-! # Enumerations

The wrappers of the driver that return a list (`level-zero-go/sysman/sysman_static.go`) call it twice:
first for the number of elements, and then for the elements, which it fills into an array of that size.
-/

namespace XpuManager

namespace Sysman

/-! ## The driver -/

/-- What a driver answers to an enumeration: first the number of elements; then it fills some of them
into an array with room for that many. -/
structure Enumeration (α : Type) where
  first : Result
  count : UInt32
  second : Result
  written : List α
  written_le : written.length ≤ count.toNat

instance {α : Type} : Inhabited (Enumeration α) := ⟨⟨RESULT_SUCCESS, 0, RESULT_SUCCESS, [], Nat.le_refl 0⟩⟩

abbrev Handle := UInt64

/-- `zes_ras_state_exp_t`. -/
structure RasStateExp where
  category : UInt32
  errorCounter : UInt64
  deriving DecidableEq, Inhabited

/-- The functions of the driver that the wrappers call. `Record` stands for what is read and not looked
into. -/
structure Zes (Record : Type) where
  zesDriverGet : Enumeration Handle
  /-- Of the properties of an extension only the name is looked at. -/
  zesDriverGetExtensionProperties : Handle → Enumeration String
  zesDeviceGet : Handle → Enumeration Handle
  zesDeviceProcessesGetState : Handle → Enumeration Record
  zesDevicePciGetBars : Handle → Enumeration Record
  zesDeviceEnumOverclockDomains : Handle → Enumeration Handle
  zesDeviceEnumDiagnosticTestSuites : Handle → Enumeration Handle
  zesDiagnosticsGetTests : Handle → Enumeration Record
  zesDeviceEnumEngineGroups : Handle → Enumeration Handle
  zesEngineGetActivityExt : Handle → Enumeration Record
  zesDeviceEnumFabricPorts : Handle → Enumeration Handle
  zesDeviceEnumFans : Handle → Enumeration Handle
  zesDeviceEnumFirmwares : Handle → Enumeration Handle
  zesDeviceEnumFrequencyDomains : Handle → Enumeration Handle
  zesFrequencyGetAvailableClocks : Handle → Enumeration Record
  zesDeviceEnumLeds : Handle → Enumeration Handle
  zesDeviceEnumMemoryModules : Handle → Enumeration Handle
  zesDeviceEnumPerformanceFactorDomains : Handle → Enumeration Handle
  zesDeviceEnumPowerDomains : Handle → Enumeration Handle
  zesPowerGetLimitsExt : Handle → Enumeration Record
  zesDeviceEnumPsus : Handle → Enumeration Handle
  zesDeviceEnumRasErrorSets : Handle → Enumeration Handle
  zesRasGetStateExp : Handle → Enumeration RasStateExp
  /-- The error counters of all categories. -/
  zesRasGetState : Handle → Result × List UInt64
  zesDeviceEnumSchedulers : Handle → Enumeration Handle
  zesDeviceEnumStandbyDomains : Handle → Enumeration Handle
  zesDeviceEnumTemperatureSensors : Handle → Enumeration Handle
  deriving Inhabited

/-! ## The wrappers -/

/-- The array that is returned: its elements are zero where the driver has not filled them. -/
def Enumeration.filled {α : Type} [Inhabited α] (calls : Enumeration α) : List α :=
  calls.written ++ List.replicate (calls.count.toNat - calls.written.length) default

/-- The elements and an error. The second count is not looked at. -/
def enumerate {α : Type} [Inhabited α] (calls : Enumeration α) : List α × Option Result :=
  if calls.first ≠ RESULT_SUCCESS then ([], calls.first.toError)
  else (calls.filled, calls.second.toError)

/-- The same, with no elements if the second call fails. -/
def enumerateOrNone {α : Type} [Inhabited α] (calls : Enumeration α) : List α × Option Result :=
  if calls.first ≠ RESULT_SUCCESS then ([], calls.first.toError)
  else if calls.second ≠ RESULT_SUCCESS then ([], calls.second.toError)
  else (calls.filled, none)

/-- `Driver`, with its extensions if they are known. -/
structure Driver where
  handle : Handle
  extensions : Option (List String)
  deriving DecidableEq

/-- `Device`, with the extensions of its driver. -/
structure Device where
  handle : Handle
  extensions : Option (List String)
  deriving DecidableEq

/-- An object that is only a handle. -/
structure Wrapper where
  handle : Handle
  deriving DecidableEq

/-- An object that knows its device. -/
structure DeviceWrapper where
  handle : Handle
  device : Device
  deriving DecidableEq

/-- Each handle is wrapped. -/
def handlesToWrappers (handles : List Handle × Option Result) : List Wrapper × Option Result :=
  (handles.1.map Wrapper.mk, handles.2)

/-- Each handle is wrapped with its device. -/
def handlesToWrappersWithDevice (handles : List Handle × Option Result) (device : Device) :
    List DeviceWrapper × Option Result :=
  (handles.1.map fun handle => ⟨handle, device⟩, handles.2)

def RAS_GET_STATE_EXP_NAME : String := "ZES_extension_ras_state"
def RESULT_ERROR_UNSUPPORTED_FEATURE : Result := 2013265923

section

variable {Record : Type} [Inhabited Record] (zes : Zes Record)

def Driver.getExtensionProperties (z : Driver) : List String × Option Result :=
  enumerate (zes.zesDriverGetExtensionProperties z.handle)

/-- `DriverGet`. -/
def driverGet : List Driver × Option Result :=
  let handles := enumerateOrNone zes.zesDriverGet
  (handles.1.map fun handle =>
    let driver : Driver := ⟨handle, none⟩
    match driver.getExtensionProperties zes with
    | (_, some _) => driver
    | (extProps, none) => { driver with extensions := some extProps }, handles.2)

def Driver.deviceGet (z : Driver) : List Device × Option Result :=
  let handles := enumerateOrNone (zes.zesDeviceGet z.handle)
  (handles.1.map fun handle => ⟨handle, z.extensions⟩, handles.2)

def Device.processesGetState (z : Device) : List Record × Option Result :=
  enumerate (zes.zesDeviceProcessesGetState z.handle)

def Device.pciGetBars (z : Device) : List Record × Option Result :=
  enumerate (zes.zesDevicePciGetBars z.handle)

def Device.enumOverclockDomains (z : Device) : List Wrapper × Option Result :=
  handlesToWrappers (enumerate (zes.zesDeviceEnumOverclockDomains z.handle))

def Device.enumDiagnosticTestSuites (z : Device) : List Wrapper × Option Result :=
  handlesToWrappers (enumerate (zes.zesDeviceEnumDiagnosticTestSuites z.handle))

/-- `GetTests` of diagnostics. -/
def Wrapper.getTests (z : Wrapper) : List Record × Option Result :=
  enumerate (zes.zesDiagnosticsGetTests z.handle)

def Device.enumEngineGroups (z : Device) : List DeviceWrapper × Option Result :=
  handlesToWrappersWithDevice (enumerate (zes.zesDeviceEnumEngineGroups z.handle)) z

/-- `GetActivityExt` of an engine. -/
def DeviceWrapper.getActivityExt (z : DeviceWrapper) : List Record × Option Result :=
  enumerate (zes.zesEngineGetActivityExt z.handle)

def Device.enumFabricPorts (z : Device) : List Wrapper × Option Result :=
  handlesToWrappers (enumerate (zes.zesDeviceEnumFabricPorts z.handle))

/-- The wrapper for fans; those for the other kinds follow. -/
def Device.enumFans (z : Device) : List Wrapper × Option Result :=
  handlesToWrappers (enumerate (zes.zesDeviceEnumFans z.handle))

def Device.enumFirmwares (z : Device) : List Wrapper × Option Result :=
  handlesToWrappers (enumerate (zes.zesDeviceEnumFirmwares z.handle))

def Device.enumFrequencyDomains (z : Device) : List Wrapper × Option Result :=
  handlesToWrappers (enumerate (zes.zesDeviceEnumFrequencyDomains z.handle))

/-- `GetAvailableClocks` of a frequency domain. -/
def Wrapper.getAvailableClocks (z : Wrapper) : List Record × Option Result :=
  enumerate (zes.zesFrequencyGetAvailableClocks z.handle)

def Device.enumLeds (z : Device) : List Wrapper × Option Result :=
  handlesToWrappers (enumerate (zes.zesDeviceEnumLeds z.handle))

def Device.enumMemoryModules (z : Device) : List Wrapper × Option Result :=
  handlesToWrappers (enumerate (zes.zesDeviceEnumMemoryModules z.handle))

def Device.enumPerformanceFactorDomains (z : Device) : List Wrapper × Option Result :=
  handlesToWrappers (enumerate (zes.zesDeviceEnumPerformanceFactorDomains z.handle))

def Device.enumPowerDomains (z : Device) : List DeviceWrapper × Option Result :=
  handlesToWrappersWithDevice (enumerate (zes.zesDeviceEnumPowerDomains z.handle)) z

/-- `GetLimitsExt` of a power domain. -/
def DeviceWrapper.getLimitsExt (z : DeviceWrapper) : List Record × Option Result :=
  enumerate (zes.zesPowerGetLimitsExt z.handle)

def Device.enumPsus (z : Device) : List Wrapper × Option Result :=
  handlesToWrappers (enumerate (zes.zesDeviceEnumPsus z.handle))

def Device.enumRasErrorSets (z : Device) : List DeviceWrapper × Option Result :=
  handlesToWrappersWithDevice (enumerate (zes.zesDeviceEnumRasErrorSets z.handle)) z

/-- The end of `GetStateExp`: the error of the newer function, or what the older one has. -/
def DeviceWrapper.getState (z : DeviceWrapper) (ret : Result) : List RasStateExp × Option Result :=
  if ret ≠ RESULT_ERROR_UNSUPPORTED_FEATURE then ([], ret.toError)
  else
    let (ret, category) := zes.zesRasGetState z.handle
    if ret ≠ RESULT_SUCCESS then ([], ret.toError)
    else (category.zipIdx.map fun value => ⟨UInt32.ofNat value.2, value.1⟩, none)

/-- `GetStateExp` of a set of errors, if the driver has that function. -/
def DeviceWrapper.getStateExp (z : DeviceWrapper) : List RasStateExp × Option Result :=
  if RAS_GET_STATE_EXP_NAME ∈ z.device.extensions.getD [] then
    let calls := zes.zesRasGetStateExp z.handle
    if calls.first = RESULT_SUCCESS then
      if calls.second = RESULT_SUCCESS then (calls.filled, none)
      else z.getState zes calls.second
    else z.getState zes calls.first
  else z.getState zes RESULT_ERROR_UNSUPPORTED_FEATURE

def Device.enumSchedulers (z : Device) : List Wrapper × Option Result :=
  handlesToWrappers (enumerate (zes.zesDeviceEnumSchedulers z.handle))

def Device.enumStandbyDomains (z : Device) : List Wrapper × Option Result :=
  handlesToWrappers (enumerate (zes.zesDeviceEnumStandbyDomains z.handle))

def Device.enumTemperatureSensors (z : Device) : List Wrapper × Option Result :=
  handlesToWrappers (enumerate (zes.zesDeviceEnumTemperatureSensors z.handle))

end

/-! ## What is returned -/

section

variable {α β : Type} {calls : Enumeration α}

/-- What is asked of a wrapper: it returns exactly the elements that the second call wrote, or an error
and no elements. -/
def ReturnsWritten (calls : Enumeration α) (returned : List α × Option Result) : Prop :=
  calls.first = RESULT_SUCCESS →
    returned.1 = calls.written ∨ returned.1 = [] ∧ returned.2 ≠ none

/-- The second call writes as many elements as the first one said. -/
def Enumeration.Full (calls : Enumeration α) : Prop :=
  calls.first = RESULT_SUCCESS → calls.written.length = calls.count.toNat

/-- It does unless it fails. -/
def Enumeration.FullOrFailed (calls : Enumeration α) : Prop :=
  calls.first = RESULT_SUCCESS → calls.second = RESULT_SUCCESS →
    calls.written.length = calls.count.toNat

variable [Inhabited α]

theorem length_filled (calls : Enumeration α) : calls.filled.length = calls.count.toNat := by
  rw [Enumeration.filled, List.length_append, List.length_replicate,
    Nat.add_sub_cancel' calls.written_le]

theorem filled_eq_written_iff :
    calls.filled = calls.written ↔ calls.written.length = calls.count.toNat := by
  constructor
  · intro h
    rw [← h, length_filled]
  · intro h
    rw [Enumeration.filled, h, Nat.sub_self, List.replicate_zero, List.append_nil]

/-- A wrapper returns what was written exactly where the array is full. -/
theorem returnsWritten_enumerate (calls : Enumeration α) :
    ReturnsWritten calls (enumerate calls) ↔ calls.Full := by
  refine imp_congr_right fun hfirst => ?_
  rw [enumerate, if_neg (not_not_intro hfirst), ← filled_eq_written_iff]
  refine ⟨fun h => h.elim id fun hnone => ?_, Or.inl⟩
  -- an array without elements has no room for any
  have hnil : calls.filled = [] := hnone.1
  have hlength := length_filled calls
  rw [hnil, List.length_nil] at hlength
  have hle := calls.written_le
  exact filled_eq_written_iff.mpr (by omega)

/-- For one wrapper. -/
theorem returnsWritten_enumerateOrNone (calls : Enumeration α) :
    ReturnsWritten calls (enumerateOrNone calls) ↔ calls.FullOrFailed := by
  refine imp_congr_right fun hfirst => ?_
  rw [enumerateOrNone, if_neg (not_not_intro hfirst)]
  split
  case isTrue hsecond =>
    refine iff_of_true (.inr ⟨rfl, ?_⟩) fun h => absurd h hsecond
    rw [Result.toError, if_neg hsecond]
    exact Option.some_ne_none _
  case isFalse hsecond =>
    rw [← filled_eq_written_iff]
    have hsuccess := not_not.mp hsecond
    exact ⟨fun h _ => h.elim id fun hnone => absurd rfl hnone.2, fun h => .inl (h hsuccess)⟩

end

/-- The handles of the objects that are returned. -/
def handlesOf {β : Type} (handle : β → Handle) (returned : List β × Option Result) :
    List Handle × Option Result :=
  (returned.1.map handle, returned.2)

theorem handlesOf_handlesToWrappers (handles : List Handle × Option Result) :
    handlesOf Wrapper.handle (handlesToWrappers handles) = handles := by
  rw [handlesOf, handlesToWrappers, List.map_map]
  exact congrArg (·, handles.2) (List.map_id handles.1)

theorem handlesOf_handlesToWrappersWithDevice (handles : List Handle × Option Result)
    (device : Device) :
    handlesOf DeviceWrapper.handle (handlesToWrappersWithDevice handles device) = handles := by
  rw [handlesOf, handlesToWrappersWithDevice, List.map_map]
  exact congrArg (·, handles.2) (List.map_id handles.1)

section

variable {Record : Type} (zes : Zes Record)

theorem handlesOf_driverGet :
    handlesOf Driver.handle (driverGet zes) = enumerateOrNone zes.zesDriverGet := by
  have hhandle (handle : Handle) : (Driver.handle ∘ fun handle : Handle =>
      let driver : Driver := ⟨handle, none⟩
      match driver.getExtensionProperties zes with
      | (_, some _) => driver
      | (extProps, none) => { driver with extensions := some extProps }) handle = handle := by
    dsimp only [Function.comp_apply]
    split <;> rfl
  rw [handlesOf, driverGet, List.map_map, List.map_congr_left fun handle _ => hhandle handle]
  exact congrArg (·, (enumerateOrNone zes.zesDriverGet).2) (List.map_id' _)

theorem handlesOf_deviceGet (z : Driver) :
    handlesOf Device.handle (z.deviceGet zes) = enumerateOrNone (zes.zesDeviceGet z.handle) := by
  rw [handlesOf, Driver.deviceGet, List.map_map]
  exact congrArg (·, (enumerateOrNone (zes.zesDeviceGet z.handle)).2) (List.map_id _)

theorem returnsWritten_handlesToWrappers (calls : Enumeration Handle) :
    ReturnsWritten calls (handlesOf Wrapper.handle (handlesToWrappers (enumerate calls))) ↔
      calls.Full := by
  rw [handlesOf_handlesToWrappers, returnsWritten_enumerate]

theorem returnsWritten_handlesToWrappersWithDevice (calls : Enumeration Handle) (device : Device) :
    ReturnsWritten calls (handlesOf DeviceWrapper.handle
      (handlesToWrappersWithDevice (enumerate calls) device)) ↔ calls.Full := by
  rw [handlesOf_handlesToWrappersWithDevice, returnsWritten_enumerate]

/-- Where the newer function is there and succeeds, what it wrote is returned if the array is full. -/
theorem returnsWritten_getStateExp {z : DeviceWrapper}
    (hname : RAS_GET_STATE_EXP_NAME ∈ z.device.extensions.getD []) :
    ((zes.zesRasGetStateExp z.handle).second = RESULT_SUCCESS →
      ReturnsWritten (zes.zesRasGetStateExp z.handle) (z.getStateExp zes)) ↔
        (zes.zesRasGetStateExp z.handle).FullOrFailed := by
  rw [DeviceWrapper.getStateExp, if_pos hname]
  dsimp only
  generalize zes.zesRasGetStateExp z.handle = calls
  constructor
  · intro h hfirst hsecond
    have hwritten := h hsecond hfirst
    rw [if_pos hfirst, if_pos hsecond] at hwritten
    exact filled_eq_written_iff.mp (hwritten.elim id fun hnone => absurd rfl hnone.2)
  · intro h hsecond hfirst
    rw [if_pos hfirst, if_pos hsecond]
    exact .inl (filled_eq_written_iff.mpr (h hfirst hsecond))

variable [Inhabited Record]

/-- Where every wrapper returns exactly what the driver wrote: where the array is full. Two of them, and
`GetStateExp`, have no elements if the second call fails. -/
structure Enumerates : Prop where
  driverGet : ReturnsWritten zes.zesDriverGet (handlesOf Driver.handle (driverGet zes)) ↔
    zes.zesDriverGet.FullOrFailed
  getExtensionProperties : ∀ z : Driver, ReturnsWritten (zes.zesDriverGetExtensionProperties z.handle)
    (z.getExtensionProperties zes) ↔ (zes.zesDriverGetExtensionProperties z.handle).Full
  deviceGet : ∀ z : Driver, ReturnsWritten (zes.zesDeviceGet z.handle)
    (handlesOf Device.handle (z.deviceGet zes)) ↔ (zes.zesDeviceGet z.handle).FullOrFailed
  processesGetState : ∀ z : Device, ReturnsWritten (zes.zesDeviceProcessesGetState z.handle)
    (z.processesGetState zes) ↔ (zes.zesDeviceProcessesGetState z.handle).Full
  pciGetBars : ∀ z : Device, ReturnsWritten (zes.zesDevicePciGetBars z.handle)
    (z.pciGetBars zes) ↔ (zes.zesDevicePciGetBars z.handle).Full
  enumOverclockDomains : ∀ z : Device, ReturnsWritten (zes.zesDeviceEnumOverclockDomains z.handle)
    (handlesOf Wrapper.handle (z.enumOverclockDomains zes)) ↔
      (zes.zesDeviceEnumOverclockDomains z.handle).Full
  enumDiagnosticTestSuites : ∀ z : Device, ReturnsWritten (zes.zesDeviceEnumDiagnosticTestSuites z.handle)
    (handlesOf Wrapper.handle (z.enumDiagnosticTestSuites zes)) ↔
      (zes.zesDeviceEnumDiagnosticTestSuites z.handle).Full
  getTests : ∀ z : Wrapper, ReturnsWritten (zes.zesDiagnosticsGetTests z.handle)
    (z.getTests zes) ↔ (zes.zesDiagnosticsGetTests z.handle).Full
  enumEngineGroups : ∀ z : Device, ReturnsWritten (zes.zesDeviceEnumEngineGroups z.handle)
    (handlesOf DeviceWrapper.handle (z.enumEngineGroups zes)) ↔
      (zes.zesDeviceEnumEngineGroups z.handle).Full
  getActivityExt : ∀ z : DeviceWrapper, ReturnsWritten (zes.zesEngineGetActivityExt z.handle)
    (z.getActivityExt zes) ↔ (zes.zesEngineGetActivityExt z.handle).Full
  enumFabricPorts : ∀ z : Device, ReturnsWritten (zes.zesDeviceEnumFabricPorts z.handle)
    (handlesOf Wrapper.handle (z.enumFabricPorts zes)) ↔
      (zes.zesDeviceEnumFabricPorts z.handle).Full
  enumFans : ∀ z : Device, ReturnsWritten (zes.zesDeviceEnumFans z.handle)
    (handlesOf Wrapper.handle (z.enumFans zes)) ↔
      (zes.zesDeviceEnumFans z.handle).Full
  enumFirmwares : ∀ z : Device, ReturnsWritten (zes.zesDeviceEnumFirmwares z.handle)
    (handlesOf Wrapper.handle (z.enumFirmwares zes)) ↔
      (zes.zesDeviceEnumFirmwares z.handle).Full
  enumFrequencyDomains : ∀ z : Device, ReturnsWritten (zes.zesDeviceEnumFrequencyDomains z.handle)
    (handlesOf Wrapper.handle (z.enumFrequencyDomains zes)) ↔
      (zes.zesDeviceEnumFrequencyDomains z.handle).Full
  getAvailableClocks : ∀ z : Wrapper, ReturnsWritten (zes.zesFrequencyGetAvailableClocks z.handle)
    (z.getAvailableClocks zes) ↔ (zes.zesFrequencyGetAvailableClocks z.handle).Full
  enumLeds : ∀ z : Device, ReturnsWritten (zes.zesDeviceEnumLeds z.handle)
    (handlesOf Wrapper.handle (z.enumLeds zes)) ↔
      (zes.zesDeviceEnumLeds z.handle).Full
  enumMemoryModules : ∀ z : Device, ReturnsWritten (zes.zesDeviceEnumMemoryModules z.handle)
    (handlesOf Wrapper.handle (z.enumMemoryModules zes)) ↔
      (zes.zesDeviceEnumMemoryModules z.handle).Full
  enumPerformanceFactorDomains : ∀ z : Device, ReturnsWritten (zes.zesDeviceEnumPerformanceFactorDomains z.handle)
    (handlesOf Wrapper.handle (z.enumPerformanceFactorDomains zes)) ↔
      (zes.zesDeviceEnumPerformanceFactorDomains z.handle).Full
  enumPowerDomains : ∀ z : Device, ReturnsWritten (zes.zesDeviceEnumPowerDomains z.handle)
    (handlesOf DeviceWrapper.handle (z.enumPowerDomains zes)) ↔
      (zes.zesDeviceEnumPowerDomains z.handle).Full
  getLimitsExt : ∀ z : DeviceWrapper, ReturnsWritten (zes.zesPowerGetLimitsExt z.handle)
    (z.getLimitsExt zes) ↔ (zes.zesPowerGetLimitsExt z.handle).Full
  enumPsus : ∀ z : Device, ReturnsWritten (zes.zesDeviceEnumPsus z.handle)
    (handlesOf Wrapper.handle (z.enumPsus zes)) ↔
      (zes.zesDeviceEnumPsus z.handle).Full
  enumRasErrorSets : ∀ z : Device, ReturnsWritten (zes.zesDeviceEnumRasErrorSets z.handle)
    (handlesOf DeviceWrapper.handle (z.enumRasErrorSets zes)) ↔
      (zes.zesDeviceEnumRasErrorSets z.handle).Full
  getStateExp : ∀ z : DeviceWrapper, RAS_GET_STATE_EXP_NAME ∈ z.device.extensions.getD [] →
    (((zes.zesRasGetStateExp z.handle).second = RESULT_SUCCESS →
      ReturnsWritten (zes.zesRasGetStateExp z.handle) (z.getStateExp zes)) ↔
        (zes.zesRasGetStateExp z.handle).FullOrFailed)
  enumSchedulers : ∀ z : Device, ReturnsWritten (zes.zesDeviceEnumSchedulers z.handle)
    (handlesOf Wrapper.handle (z.enumSchedulers zes)) ↔
      (zes.zesDeviceEnumSchedulers z.handle).Full
  enumStandbyDomains : ∀ z : Device, ReturnsWritten (zes.zesDeviceEnumStandbyDomains z.handle)
    (handlesOf Wrapper.handle (z.enumStandbyDomains zes)) ↔
      (zes.zesDeviceEnumStandbyDomains z.handle).Full
  enumTemperatureSensors : ∀ z : Device, ReturnsWritten (zes.zesDeviceEnumTemperatureSensors z.handle)
    (handlesOf Wrapper.handle (z.enumTemperatureSensors zes)) ↔
      (zes.zesDeviceEnumTemperatureSensors z.handle).Full

/-- **Every enumeration** returns exactly the elements that were written where there are as many as
the driver said before. -/
theorem enumerates : Enumerates zes where
  driverGet := by rw [handlesOf_driverGet, returnsWritten_enumerateOrNone]
  getExtensionProperties z := returnsWritten_enumerate _
  deviceGet z := by rw [handlesOf_deviceGet, returnsWritten_enumerateOrNone]
  processesGetState z := returnsWritten_enumerate _
  pciGetBars z := returnsWritten_enumerate _
  enumOverclockDomains z := returnsWritten_handlesToWrappers _
  enumDiagnosticTestSuites z := returnsWritten_handlesToWrappers _
  getTests z := returnsWritten_enumerate _
  enumEngineGroups z := returnsWritten_handlesToWrappersWithDevice _ z
  getActivityExt z := returnsWritten_enumerate _
  enumFabricPorts z := returnsWritten_handlesToWrappers _
  enumFans z := returnsWritten_handlesToWrappers _
  enumFirmwares z := returnsWritten_handlesToWrappers _
  enumFrequencyDomains z := returnsWritten_handlesToWrappers _
  getAvailableClocks z := returnsWritten_enumerate _
  enumLeds z := returnsWritten_handlesToWrappers _
  enumMemoryModules z := returnsWritten_handlesToWrappers _
  enumPerformanceFactorDomains z := returnsWritten_handlesToWrappers _
  enumPowerDomains z := returnsWritten_handlesToWrappersWithDevice _ z
  getLimitsExt z := returnsWritten_enumerate _
  enumPsus z := returnsWritten_handlesToWrappers _
  enumRasErrorSets z := returnsWritten_handlesToWrappersWithDevice _ z
  getStateExp z hname := returnsWritten_getStateExp zes hname
  enumSchedulers z := returnsWritten_handlesToWrappers _
  enumStandbyDomains z := returnsWritten_handlesToWrappers _
  enumTemperatureSensors z := returnsWritten_handlesToWrappers _

end

/-- A driver with two memory modules, one of which is gone when the handles are asked for. -/
def goneModule : Zes Nat :=
  { (default : Zes Nat) with
    zesDeviceEnumMemoryModules := fun _ => ⟨RESULT_SUCCESS, 2, RESULT_SUCCESS, [7], by decide⟩ }

/-- A zero handle is returned in its place. -/
theorem enumMemoryModules_goneModule :
    Device.enumMemoryModules goneModule ⟨1, none⟩ = ([⟨7⟩, ⟨0⟩], none) ∧
    ¬ReturnsWritten (goneModule.zesDeviceEnumMemoryModules 1)
      (handlesOf Wrapper.handle (Device.enumMemoryModules goneModule ⟨1, none⟩)) := by
  have hreturned : Device.enumMemoryModules goneModule ⟨1, none⟩ = ([⟨7⟩, ⟨0⟩], none) := by decide
  refine ⟨hreturned, fun h => ?_⟩
  rw [hreturned] at h
  rcases h rfl with hwritten | hnone
  · exact absurd hwritten (by decide)
  · exact hnone.2 rfl

end Sysman

end XpuManager
