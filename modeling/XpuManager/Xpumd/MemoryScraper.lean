import Mathlib.Data.List.Induction
import Mathlib.Data.List.ReduceOption
import XpuManager.Lib.Numerals
import XpuManager.Xpumd.FirmwareVersions

/-! # The memory sizes of a device

The part of the receiver (`receiver/intelxpu/sysman/memory.go`) that records `hw.memory.size`, and
the builder of that metric as it is generated from `metadata.yaml`, with its default configuration:
all attributes, and data points that agree in them added up. -/

namespace XpuManager

variable {F : Type}

/-! ## The generated builder -/

/-- `recordDataPoint` of `hw.memory.size`. -/
def recordDataPoint (attributes : AttrMap) (ts : UInt64) (val : Int64) :
    List (NumberDataPoint F) → List (NumberDataPoint F)
  | [] => [⟨attributes, ts, .int val⟩]
  | dpi :: dps =>
    if attributes = dpi.attributes ∧ ts = dpi.timestamp then
      match dpi.value with
      | .int v => { dpi with value := .int (v + val) } :: dps
      | _ => { dpi with value := .int val } :: dps
    else dpi :: recordDataPoint attributes ts val dps

/-- A data point unlike those recorded before is recorded behind them. -/
theorem recordDataPoint_of_ne {attributes : AttrMap} {ts : UInt64} {val : Int64}
    {dps : List (NumberDataPoint F)} (h : ∀ dp ∈ dps, attributes ≠ dp.attributes) :
    recordDataPoint attributes ts val dps = dps ++ [⟨attributes, ts, .int val⟩] := by
  induction dps with
  | nil => rfl
  | cons dp dps ih =>
    rw [recordDataPoint, if_neg fun heq => h dp List.mem_cons_self heq.1,
      ih fun dp' hdp' => h dp' (List.mem_cons_of_mem _ hdp')]
    rfl

/-! ## The receiver -/

/-- What identifies the device. -/
structure DeviceAttributes where
  hwID : String
  pciBDF : String

/-- `zes_mem_properties_t`, its enumerations by their names. -/
structure MemProperties where
  type : String
  onSubdevice : UInt8
  subdeviceId : UInt32
  location : String
  physicalSize : UInt64

/-- The sizes of `zes_mem_state_t`. -/
structure MemState where
  free : UInt64
  size : UInt64

/-- `memoryAttributes`, and whether the module is disabled. -/
structure Memory where
  hwID : String
  hwName : String
  pciBDF : String
  physicalSize : Int64
  memoryType : String
  memoryLocation : String
  subdeviceId : String
  disabled : Bool

/-- A memory module with its attributes. -/
def newMemory (name : String) (props : MemProperties) (device : DeviceAttributes) : Memory where
  hwID := device.hwID
  hwName := name
  pciBDF := device.pciBDF
  physicalSize := props.physicalSize.toInt64
  memoryType := props.type.toLower
  memoryLocation := props.location.toLower
  subdeviceId := subDeviceIdString props.onSubdevice props.subdeviceId
  disabled := false

/-- The attributes of the size of a module. -/
def Memory.sizeAttributes (m : Memory) : AttrMap :=
  [("hw.id", .string m.hwID), ("hw.name", .string m.hwName), ("pci.bdf", .string m.pciBDF),
    ("com.intel.subdevice_id", .string m.subdeviceId),
    ("hw.memory.location", .string m.memoryLocation), ("hw.memory.type", .string m.memoryType)]

/-- The size reported: the physical one, or the allocatable one if that is unknown. -/
def Memory.size (m : Memory) (state : MemState) : Int64 :=
  if m.physicalSize = 0 then state.size.toInt64 else m.physicalSize

/-- The part of `scrape` that records the size; `state` is what `GetState` returns, if it does. -/
def Memory.scrapeSize (m : Memory) (state : Option MemState) (ts : UInt64)
    (dps : List (NumberDataPoint F)) : List (NumberDataPoint F) :=
  if m.disabled then dps
  else match state with
    | none => dps
    | some state =>
      let size := m.size state
      if 0 < size then recordDataPoint m.sizeAttributes ts size dps else dps

/-- A module of a device, as the driver describes it, and its state, if it can be read. -/
structure MemoryModule where
  props : MemProperties
  state : Option MemState

/-- The modules of a device, numbered from one. -/
def enumMemory (device : DeviceAttributes) (mems : List MemoryModule) :
    List (Memory × Option MemState) :=
  mems.mapIdx fun i mem => (newMemory ("mem-" ++ toString (i + 1)) mem.props device, mem.state)

/-- The data points of `hw.memory.size` that a device records. -/
def scrapeSizes (device : DeviceAttributes) (ts : UInt64) (mems : List MemoryModule) :
    List (NumberDataPoint F) :=
  (enumMemory device mems).foldl (fun dps m => m.1.scrapeSize m.2 ts dps) []

/-! ## The data points of a device -/

/-- The data point of a module, if it has one. -/
def Memory.sizePoint (m : Memory) (state : Option MemState) (ts : UInt64) :
    Option (NumberDataPoint F) :=
  match state with
  | none => none
  | some state =>
    if 0 < m.size state then some ⟨m.sizeAttributes, ts, .int (m.size state)⟩ else none

/-- The data point of the module with index `i`, if it has one. -/
def MemoryModule.sizePoint (device : DeviceAttributes) (ts : UInt64) (i : Nat)
    (mem : MemoryModule) : Option (NumberDataPoint F) :=
  (newMemory ("mem-" ++ toString (i + 1)) mem.props device).sizePoint mem.state ts

/-- The number in a name can be read off. -/
theorem memName_injective {i j : Nat}
    (h : "mem-" ++ toString (i + 1) = "mem-" ++ toString (j + 1)) : i = j := by
  have hnum : toString (i + 1) = toString (j + 1) := by
    rw [← String.toList_inj, String.toList_append, String.toList_append] at h
    exact String.toList_inj.mp (List.append_cancel_left h)
  exact Nat.succ_injective (Numerals.toString_inj hnum)

/-- Recording the size of an enabled module. -/
theorem scrapeSize_eq {m : Memory} {state : Option MemState} {ts : UInt64}
    {dps : List (NumberDataPoint F)} (henabled : m.disabled = false)
    (h : ∀ dp ∈ dps, m.sizeAttributes ≠ dp.attributes) :
    m.scrapeSize state ts dps = dps ++ (m.sizePoint state ts).toList := by
  unfold Memory.scrapeSize Memory.sizePoint
  rw [if_neg (by simp [henabled])]
  cases state with
  | none => simp
  | some state =>
    simp only
    by_cases hsize : 0 < m.size state
    · rw [if_pos hsize, if_pos hsize, recordDataPoint_of_ne h, Option.toList_some]
    · rw [if_neg hsize, if_neg hsize, Option.toList_none, List.append_nil]

/-- A data point has the attributes of its module. -/
theorem attributes_of_sizePoint {m : Memory} {state : Option MemState} {ts : UInt64}
    {dp : NumberDataPoint F} (h : m.sizePoint state ts = some dp) :
    dp.attributes = m.sizeAttributes := by
  unfold Memory.sizePoint at h
  cases state with
  | none => cases h
  | some state =>
    obtain ⟨-, hdp⟩ := Option.ite_none_right_eq_some.mp h
    rw [← Option.some.inj hdp]

/-- **The data points of a device** are those of its modules: the names tell them apart. -/
theorem scrapeSizes_eq (device : DeviceAttributes) (ts : UInt64) (mems : List MemoryModule) :
    (scrapeSizes device ts mems : List (NumberDataPoint F)) =
      (mems.mapIdx (MemoryModule.sizePoint device ts)).reduceOption := by
  induction mems using List.reverseRecOn with
  | nil => rfl
  | append_singleton mems mem ih =>
    rw [scrapeSizes, enumMemory, List.mapIdx_concat, List.foldl_concat]
    change Memory.scrapeSize _ _ _ (scrapeSizes device ts mems) = _
    rw [ih, List.mapIdx_concat, List.reduceOption_append, scrapeSize_eq rfl]
    · cases h : MemoryModule.sizePoint (F := F) device ts mems.length mem with
      | none => exact congrArg _ (congrArg Option.toList h)
      | some dp => exact congrArg _ (congrArg Option.toList h)
    · intro dp hdp hattrs
      obtain ⟨i, hi, hpoint⟩ := List.mem_mapIdx.mp (List.reduceOption_mem_iff.mp hdp)
      rw [attributes_of_sizePoint hpoint] at hattrs
      have hname := (List.cons.inj (List.cons.inj hattrs).2).1
      have hidx := memName_injective (Value.string.inj (Prod.mk.inj hname).2)
      omega

end XpuManager
