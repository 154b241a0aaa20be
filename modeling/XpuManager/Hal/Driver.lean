import Mathlib.Data.Finset.Card
import Mathlib.Data.Finset.Basic
import XpuManager.Lib.Numerals
import XpuManager.Lib.Prog

/-! # The devices of the program

`driver::init` (`hal/core/driver.cpp`) asks Level Zero for all devices, through sysman and through the
core interface, which may fail. Devices that only sysman knows are in survivability mode. -/

namespace XpuManager

/-! ## Level Zero -/

/-- `ze_result_t`, as far as the code tells its values apart. -/
inductive ZeResult where
  | success
  | notReady
  | error (code : UInt32)
  deriving DecidableEq

namespace ZeResult

def notAvailable : ZeResult := .error 0x70010001
def uninitialized : ZeResult := .error 0x78000001
def unsupportedFeature : ZeResult := .error 0x78000003
def invalidArgument : ZeResult := .error 0x78000004
def invalidEnumeration : ZeResult := .error 0x7800000c
def unknown : ZeResult := .error 0x7ffffffe

end ZeResult

/-- What a call that fails returns. -/
abbrev ZeError := { result : ZeResult // result ≠ .success }

def ZeError.notAvailable : ZeError := ⟨.notAvailable, nofun⟩

abbrev Handle := Nat

/-- The bytes of an UUID. -/
abbrev Uuid := List UInt8

/-- `zes_pci_address_t`. -/
structure PciAddress where
  domain : UInt32 := 0
  bus : UInt32 := 0
  device : UInt32 := 0
  function : UInt32 := 0
  deriving DecidableEq

/-- The two calls of an enumeration: one for the number, and one for the items. -/
structure Listing (α : Type) where
  countResult : ZeResult
  /-- The number after the first call, even if that fails. -/
  count : Nat
  fillResult : ZeResult
  /-- What a second call that succeeds gives: no more than there is room for. -/
  items : List α
  fits : items.length ≤ count
  /-- The number after a second call that fails. -/
  leftCount : Nat

namespace Listing

variable {α : Type} (listing : Listing α)

/-- The array before the second call. -/
def blank : List (Option α) := List.replicate listing.count none

/-- The array after the second call. -/
def filled : List (Option α) :=
  listing.items.map some ++ List.replicate (listing.count - listing.items.length) none

end Listing

/-- A device as sysman knows it. -/
structure ZesDevice where
  handle : Handle
  uuid : Uuid
  address : PciAddress
  deriving DecidableEq

/-- What the calls answer that initialise one device. -/
structure DeviceAnswers where
  contextCreate : ZeResult
  /-- `zeDeviceGetProperties`. -/
  properties : Option Uuid
  /-- `zesDeviceGetProperties` for a device of sysman. -/
  zesProperties : Handle → ZeResult
  /-- `zesDevicePciGetProperties` for a device of sysman succeeds. -/
  pciProperties : Handle → Bool
  /-- What the memory of the address string holds before it is written. -/
  memory : String

/-- What Level Zero answers for one driver. -/
structure DriverAnswers where
  apiVersion : ZeResult
  devices : Listing Handle
  device : Nat → DeviceAnswers

/-- What Level Zero answers while the driver is initialised. -/
structure LevelZero where
  zesInit : ZeResult
  zesDrivers : Listing Handle
  zesDevices : Listing ZesDevice
  /-- Devices have handles of their own. -/
  nodup : (zesDevices.items.map ZesDevice.handle).Nodup
  zeInit : ZeResult
  zeDrivers : Listing Handle
  driver : Nat → DriverAnswers
  /-- `zesDevicePciGetProperties` succeeds, in the search for survivability devices. -/
  pciProperties : Handle → Bool
  /-- The same for the initialisation of these devices. -/
  survPciProperties : Handle → Bool
  memory : Handle → String

/-- The devices that sysman knows, if it knows a driver at all. -/
def LevelZero.sysman (l0 : LevelZero) : List ZesDevice :=
  if l0.zesDrivers.count = 0 then [] else l0.zesDevices.items

theorem LevelZero.nodup_sysman (l0 : LevelZero) : (l0.sysman.map ZesDevice.handle).Nodup := by
  rw [LevelZero.sysman]
  split
  · exact List.nodup_nil
  · exact l0.nodup

/-! ## Devices -/

/-- `%0wx`. -/
def hexField (width : Nat) (n : UInt32) : String :=
  String.ofList ((Nat.toDigits 16 n.toNat).leftpad width '0')

/-- `%04x:%02x:%02x.%01x`. -/
def bdfString (address : PciAddress) : String :=
  hexField 4 address.domain ++ ":" ++ hexField 2 address.bus ++ ":" ++ hexField 2 address.device ++
    "." ++ hexField 1 address.function

/-- `device`, with its handles and its address. -/
structure Device where
  zeDevice : Option Handle := none
  zesDriver : Option Handle := none
  zesDevice : Option Handle := none
  address : PciAddress := {}
  bdfStr : String
  survMode : Bool := false
  deriving DecidableEq

namespace Device

/-- A part of an address: hexadecimal digits, and no more than `width`. -/
def isBdfPart (width : Nat) (part : List Char) : Bool :=
  part ≠ [] && part.all (fun c => (Numerals.digit 16 c).isSome) && part.length ≤ width

/-- The hexadecimal number that a part of an address begins with. -/
def partValue (part : List Char) : Nat := Numerals.ofDigits 16 0 (Numerals.leadingDigits 16 part)

/-- The text is an address of the device. -/
def isBDF (dev : Device) (bdf : String) : Bool :=
  match bdf.toList.splitOn ':' with
  | [dmn, b, rest] =>
    match rest.splitOn '.' with
    | [device, function] =>
      isBdfPart 4 dmn && isBdfPart 2 b && isBdfPart 2 device && isBdfPart 1 function &&
        dev.address.domain.toNat = partValue dmn && dev.address.bus.toNat = partValue b &&
        dev.address.device.toNat = partValue device && dev.address.function.toNat = partValue function
    | _ => false
  | _ => false

/-- Initialise the parts of a device that sysman gives access to. An address that cannot be read is
not written. -/
def smDevInit (dev : Device) (zesDriver : Option Handle) (zes : ZesDevice) (pciOk : Bool) : Device :=
  { dev with
    zesDriver := zesDriver
    zesDevice := some zes.handle
    address := if pciOk then zes.address else {}
    bdfStr := if pciOk then bdfString zes.address else dev.bdfStr }

/-- A device can be used if it has a handle of sysman. -/
def run (dev : Device) : ZeResult :=
  if dev.zesDevice = none then .uninitialized else .success

end Device

/-- The devices of one driver. -/
structure DevGroup where
  totalDevicesCount : Nat
  dev : List Device
  zeDevices : List (Option Handle)

/-- The devices in survivability mode. -/
structure SurvivabilityDevices where
  zesDriver : Option Handle := none
  survDevCount : Nat := 0
  survDevices : List Device := []

/-- `driver`, with the devices it has found. -/
structure Driver where
  initialized : Bool := false
  driverCount : Nat := 0
  totalZesDevicesCount : Nat := 0
  zeDrivers : Option (List (Option Handle)) := none
  zesDrivers : Option (List (Option Handle)) := none
  totalZesDevices : Option (List (Option ZesDevice)) := none
  devs : Option (List DevGroup) := none
  svZesDevs : SurvivabilityDevices := {}

/-- The devices that have been initialised. -/
def DevGroup.devices (group : DevGroup) : List Device := group.dev.take group.totalDevicesCount

/-- The devices that sysman knows. -/
def Driver.sysmanDevices (d : Driver) : List ZesDevice :=
  ((d.totalZesDevices.getD []).take d.totalZesDevicesCount).reduceOption

/-! ## Initialisation -/

section Init

variable (l0 : LevelZero)

/-- The initialisation through the core interface. -/
def zeInitialize (d : Driver) : ZeResult × Driver :=
  if l0.zeInit ≠ .success then (l0.zeInit, d)
  else
    let d := { d with driverCount := l0.zeDrivers.count }
    if l0.zeDrivers.countResult ≠ .success then (l0.zeDrivers.countResult, d)
    else
      let d := { d with zeDrivers := some l0.zeDrivers.blank }
      if l0.zeDrivers.fillResult ≠ .success then
        (l0.zeDrivers.fillResult, { d with driverCount := l0.zeDrivers.leftCount })
      else
        (.success, { d with
          driverCount := l0.zeDrivers.items.length
          zeDrivers := some l0.zeDrivers.filled })

/-- The number of drivers is kept in a local variable. -/
def zesInitialize (d : Driver) : ZeResult × Driver :=
  if l0.zesInit ≠ .success then (l0.zesInit, d)
  else if l0.zesDrivers.countResult ≠ .success ∨ l0.zesDrivers.count = 0 then
    (l0.zesDrivers.countResult, d)
  else
    let d := { d with zesDrivers := some l0.zesDrivers.blank }
    if l0.zesDrivers.fillResult ≠ .success then (l0.zesDrivers.fillResult, d)
    else
      let d := { d with
        zesDrivers := some l0.zesDrivers.filled
        totalZesDevicesCount := l0.zesDevices.count }
      if l0.zesDevices.countResult ≠ .success ∨ l0.zesDevices.count = 0 then
        (l0.zesDevices.countResult, d)
      else
        let d := { d with totalZesDevices := some l0.zesDevices.blank }
        if l0.zesDevices.fillResult ≠ .success then
          (l0.zesDevices.fillResult, { d with totalZesDevicesCount := l0.zesDevices.leftCount })
        else
          (.success, { d with
            totalZesDevices := some l0.zesDevices.filled
            totalZesDevicesCount := l0.zesDevices.items.length })

/-- Why the devices cannot all be initialised: a null pointer, or a call that fails. -/
inductive InitStop where
  | undefined
  | fails (result : ZeResult) (fails : result ≠ .success)
  deriving DecidableEq

/-- The device of sysman with the UUID of a device. -/
def matchSysman (answers : DeviceAnswers) (uuid : Uuid) : List ZesDevice → Except InitStop ZesDevice
  | [] => .error (.fails .invalidEnumeration (by decide))
  | zes :: rest =>
    if h : answers.zesProperties zes.handle ≠ .success then
      .error (.fails (answers.zesProperties zes.handle) h)
    else if zes.uuid = uuid then .ok zes
    else matchSysman answers uuid rest

/-- The initialisation of the driver and its devices. -/
def Device.init (answers : DeviceAnswers) (zesDriver : Option Handle) (zeHdl : Handle)
    (totalZesDevices : List ZesDevice) : Except InitStop Device :=
  if h : answers.contextCreate ≠ .success then .error (.fails answers.contextCreate h)
  else do
    let zes ← matchSysman answers (answers.properties.getD (List.replicate 16 0)) totalZesDevices
    pure (Device.smDevInit { zeDevice := some zeHdl, bdfStr := answers.memory } zesDriver zes
      (answers.pciProperties zes.handle))

/-- `zesDrivers[0]`. -/
def Driver.firstZesDriver (d : Driver) : Except InitStop (Option Handle) :=
  match d.zesDrivers with
  | some (zesDriver :: _) => .ok zesDriver
  | some [] | none => .error .undefined

/-- One device of the core interface, with its sysman handle. -/
def initDevice (d : Driver) (i : Nat) (device : Handle × Nat) : Except InitStop Device := do
  let zesDriver ← d.firstZesDriver
  Device.init ((l0.driver i).device device.2) zesDriver device.1 d.sysmanDevices

/-- The devices of one driver. -/
def initGroup (d : Driver) (i : Nat) : Except InitStop DevGroup :=
  let answers := l0.driver i
  if h : answers.apiVersion ≠ .success then .error (.fails answers.apiVersion h)
  else if h : answers.devices.countResult ≠ .success then
    .error (.fails answers.devices.countResult h)
  else if h : answers.devices.fillResult ≠ .success then
    .error (.fails answers.devices.fillResult h)
  else do
    let devices ← answers.devices.items.zipIdx.mapM (initDevice l0 d i)
    pure
      { totalDevicesCount := devices.length
        dev := devices ++ List.replicate (answers.devices.count - devices.length) { bdfStr := "" }
        zeDevices := answers.devices.filled }

/-- The address of a device as the search for survivability devices reads it. -/
def searchedBdf (zes : ZesDevice) : String :=
  bdfString (if l0.pciProperties zes.handle then zes.address else {})

/-- `!devBdfs.contains(bdfStr)`. -/
def isNew (devBdfs : Finset String) (zes : ZesDevice) : Bool := searchedBdf l0 zes ∉ devBdfs

/-- A device in survivability mode. -/
def survDevice (zesDriver : Option Handle) (zes : ZesDevice) : Device :=
  { Device.smDevInit { bdfStr := l0.memory zes.handle } zesDriver zes
      (l0.survPciProperties zes.handle) with survMode := true }

/-- The loop of the search, with so many slots left. Slots for which there is no device stay as they
were allocated. -/
def fillSlots (zesDriver : Option Handle) (devBdfs : Finset String) :
    Nat → List ZesDevice → List Device
  | room, [] => List.replicate room { bdfStr := "" }
  | 0, _ :: rest => fillSlots zesDriver devBdfs 0 rest
  | room + 1, zes :: rest =>
    if isNew l0 devBdfs zes then
      survDevice l0 zesDriver zes :: fillSlots zesDriver devBdfs room rest
    else fillSlots zesDriver devBdfs (room + 1) rest

/-- The second half of `driver::init`. -/
def findSurvivability (d : Driver) (devBdfs : Finset String) : Outcome ZeResult × Driver :=
  if devBdfs.card < d.totalZesDevicesCount then
    match d.firstZesDriver with
    | .error _ => (.fault, d)
    | .ok zesDriver =>
      let survDevCount := d.totalZesDevicesCount - devBdfs.card
      (.ret .success, { d with
        svZesDevs :=
          { zesDriver := zesDriver
            survDevCount := survDevCount
            survDevices := fillSlots l0 zesDriver devBdfs survDevCount d.sysmanDevices }
        initialized := true })
  else (.ret .success, { d with initialized := true })

/-- The addresses of the devices of all drivers. -/
def bdfsOf (groups : List DevGroup) : Finset String :=
  ((groups.flatMap DevGroup.devices).map Device.bdfStr).toFinset

/-- `driver::init`. -/
def Driver.init (d : Driver) : Outcome ZeResult × Driver :=
  match zesInitialize l0 d with
  | (.success, d) =>
    match zeInitialize l0 d with
    | (.success, d) =>
      match (List.range d.driverCount).mapM (initGroup l0 d) with
      | .error .undefined => (.fault, d)
      | .error (.fails result _) => (.ret result, d)
      | .ok groups => findSurvivability l0 { d with devs := some groups } (bdfsOf groups)
    | (_, d) => findSurvivability l0 d ∅
  | (result, d) => (.ret result, d)

end Init

/-! ## Loops over all devices -/

/-- `devInfo`: a device that a command is for. -/
structure DevInfo where
  index : Nat
  dev : Device
  deviceHdl : Option Handle
  zesDeviceHdl : Option Handle

/-- A number, for `std::from_chars`. -/
def numericId (bdf : String) : Option Nat :=
  let cs := bdf.toList
  if cs ≠ [] ∧ cs.all Char.isDigit then
    let value := Numerals.ofDigits 10 0 (Numerals.leadingDigits 10 cs)
    if value < 0x100000000 then some value else none
  else none

/-- A device is put behind those found so far. -/
def Device.addInfo (dev : Device) (devList : List DevInfo) (devIndex : Nat) : List DevInfo :=
  devList ++ [⟨devIndex, dev, dev.zeDevice, dev.zesDevice⟩]

/-- The devices that the loops of `findDevice` come to, in their order; `none` is an access outside of
an array. -/
def Driver.accesses (d : Driver) : List (Option Device) :=
  (List.range d.driverCount).flatMap (fun i =>
    match (d.devs.getD [])[i]? with
    | none => [none]
    | some group => (List.range group.totalDevicesCount).map fun j => group.dev[j]?) ++
  (List.range d.svZesDevs.survDevCount).map fun k => d.svZesDevs.survDevices[k]?

/-- The loops of `findDevice`. -/
def processDevices (bdf : String) : List (Option Device) → Nat → List DevInfo →
    Outcome (ZeResult × List DevInfo)
  | [], _, devList =>
    if bdf ≠ "" ∧ devList.isEmpty then .ret (.invalidArgument, devList) else .ret (.success, devList)
  | none :: _, _, _ => .fault
  | some dev :: devices, deviceIndex, devList =>
    if bdf = "" then processDevices bdf devices (deviceIndex + 1) (dev.addInfo devList deviceIndex)
    else if dev.isBDF bdf ∨ numericId bdf = some deviceIndex then
      .ret (.success, dev.addInfo devList deviceIndex)
    else processDevices bdf devices (deviceIndex + 1) devList

/-- The loop over all devices that looks for an address. -/
def Driver.findDevice (d : Driver) (bdf : String) (devList : List DevInfo) :
    Outcome (ZeResult × List DevInfo) :=
  processDevices bdf d.accesses 0 devList

/-- What the body of `driver::run` does for one driver; `none` is an access outside of an array. -/
def Driver.runDriver (d : Driver) (result : ZeResult) (i : Nat) : Option ZeResult := do
  let _ ← (d.zeDrivers.getD [])[i]?
  let group ← (d.devs.getD [])[i]?
  (List.range group.totalDevicesCount).foldlM (fun _ j => group.dev[j]?.map Device.run) result

/-- The loop over all devices that uses each of them. -/
def Driver.run (d : Driver) : Outcome ZeResult :=
  if d.initialized then
    match (List.range d.driverCount).foldlM d.runDriver .success with
    | none => .fault
    | some result => .ret result
  else .ret .uninitialized

/-! ## What initialisation leaves -/

section Spec

variable {l0 : LevelZero} {d d' : Driver} {devBdfs : Finset String}

/-- The search takes the first devices whose addresses are not known. -/
theorem fillSlots_eq (zesDriver : Option Handle) (devBdfs : Finset String) (room : Nat)
    (devices : List ZesDevice) : fillSlots l0 zesDriver devBdfs room devices =
      ((devices.filter (isNew l0 devBdfs)).take room).map (survDevice l0 zesDriver) ++
        List.replicate (room - (devices.filter (isNew l0 devBdfs)).length) { bdfStr := "" } := by
  induction devices generalizing room with
  | nil =>
    rw [fillSlots]
    simp
  | cons zes rest ih =>
    cases room with
    | zero =>
      rw [fillSlots, ih]
      simp
    | succ room =>
      rw [fillSlots]
      by_cases hnew : isNew l0 devBdfs zes
      · rw [if_pos hnew, ih, List.filter_cons_of_pos hnew, List.take_succ_cons, List.map_cons,
          List.length_cons, Nat.add_sub_add_right, List.cons_append]
      · rw [if_neg hnew, ih, List.filter_cons_of_neg hnew]

theorem length_fillSlots (zesDriver : Option Handle) (devBdfs : Finset String) (room : Nat)
    (devices : List ZesDevice) : (fillSlots l0 zesDriver devBdfs room devices).length = room := by
  rw [fillSlots_eq, List.length_append, List.length_map, List.length_take, List.length_replicate]
  omega

/-- **Spec of the search.** It fills as many slots as it counts, and leaves everything else. -/
theorem findSurvivability_eq {result : ZeResult}
    (h : findSurvivability l0 d devBdfs = (.ret result, d')) :
    d'.driverCount = d.driverCount ∧ d'.devs = d.devs ∧ d'.zeDrivers = d.zeDrivers ∧
      d'.initialized = true ∧ (d.svZesDevs = {} →
        d'.svZesDevs.survDevices.length = d'.svZesDevs.survDevCount) := by
  rw [findSurvivability] at h
  split at h
  case isTrue =>
    split at h
    case h_1 => cases h
    case h_2 zesDriver _ =>
      cases h
      exact ⟨rfl, rfl, rfl, rfl, fun _ => length_fillSlots _ _ _ _⟩
  case isFalse =>
    cases h
    refine ⟨rfl, rfl, rfl, rfl, fun hnone => ?_⟩
    rw [hnone]
    rfl

/-- **Spec of the initialisation.** It succeeds if sysman does, and either the core interface fails or
all devices can be initialised. -/
theorem init_success (h : d.init l0 = (.ret .success, d')) :
    ∃ d₁ result d₂, zesInitialize l0 d = (.success, d₁) ∧ zeInitialize l0 d₁ = (result, d₂) ∧
      (result ≠ .success ∧ findSurvivability l0 d₂ ∅ = (.ret .success, d') ∨
        result = .success ∧ ∃ groups, (List.range d₂.driverCount).mapM (initGroup l0 d₂) = .ok groups ∧
          findSurvivability l0 { d₂ with devs := some groups } (bdfsOf groups) =
            (.ret .success, d')) := by
  rw [Driver.init] at h
  split at h
  case h_2 result d₁ hne hzes =>
    obtain ⟨hret, -⟩ := Prod.mk.inj h
    exact absurd (Outcome.ret.inj hret) hne
  case h_1 d₁ hzes =>
    split at h
    case h_2 result d₂ hne hze => exact ⟨d₁, result, d₂, hzes, hze, .inl ⟨hne, h⟩⟩
    case h_1 d₂ hze =>
      refine ⟨d₁, .success, d₂, hzes, hze, .inr ⟨rfl, ?_⟩⟩
      split at h
      case h_1 => cases h
      case h_2 result hfails hgroups =>
        obtain ⟨hret, -⟩ := Prod.mk.inj h
        exact absurd (Outcome.ret.inj hret) hfails
      case h_3 groups hgroups => exact ⟨groups, hgroups, h⟩

/-- **Spec of `zeInitialize`.** The number of drivers is kept as soon as it is there. -/
theorem zeInitialize_cases (l0 : LevelZero) (d : Driver) :
    (l0.zeInit ≠ .success ∧ zeInitialize l0 d = (l0.zeInit, d)) ∨
    (l0.zeInit = .success ∧ l0.zeDrivers.countResult ≠ .success ∧ zeInitialize l0 d =
      (l0.zeDrivers.countResult, { d with driverCount := l0.zeDrivers.count })) ∨
    (l0.zeInit = .success ∧ l0.zeDrivers.countResult = .success ∧
      l0.zeDrivers.fillResult ≠ .success ∧ zeInitialize l0 d = (l0.zeDrivers.fillResult,
        { d with driverCount := l0.zeDrivers.leftCount, zeDrivers := some l0.zeDrivers.blank })) ∨
    (l0.zeInit = .success ∧ l0.zeDrivers.countResult = .success ∧
      l0.zeDrivers.fillResult = .success ∧ zeInitialize l0 d = (.success,
        { d with
          driverCount := l0.zeDrivers.items.length
          zeDrivers := some l0.zeDrivers.filled })) := by
  by_cases hinit : l0.zeInit = .success
  case neg => exact .inl ⟨hinit, by rw [zeInitialize, if_pos hinit]⟩
  by_cases hcount : l0.zeDrivers.countResult = .success
  case neg =>
    refine .inr (.inl ⟨hinit, hcount, ?_⟩)
    rw [zeInitialize, if_neg (not_not_intro hinit), if_pos hcount]
  by_cases hfill : l0.zeDrivers.fillResult = .success
  case neg =>
    refine .inr (.inr (.inl ⟨hinit, hcount, hfill, ?_⟩))
    rw [zeInitialize, if_neg (not_not_intro hinit), if_neg (not_not_intro hcount), if_pos hfill]
  refine .inr (.inr (.inr ⟨hinit, hcount, hfill, ?_⟩))
  rw [zeInitialize, if_neg (not_not_intro hinit), if_neg (not_not_intro hcount),
    if_neg (not_not_intro hfill)]

theorem Listing.take_filled {α : Type} (listing : Listing α) :
    (listing.filled.take listing.items.length).reduceOption = listing.items := by
  rw [Listing.filled, List.take_left' (List.length_map some)]
  change (listing.items.map some).filterMap id = listing.items
  rw [List.filterMap_map, Function.id_comp, List.filterMap_some]

theorem sysmanDevices_of_none (h : d.totalZesDevices = none) : d.sysmanDevices = [] := by
  rw [Driver.sysmanDevices, h, Option.getD_none, List.take_nil]
  rfl

/-- A driver object that has the devices of sysman, and is new otherwise. -/
structure Untouched (l0 : LevelZero) (d : Driver) : Prop where
  driverCount : d.driverCount = 0
  zeDrivers : d.zeDrivers = none
  devs : d.devs = none
  svZesDevs : d.svZesDevs = {}
  sysman : d.sysmanDevices = l0.sysman
  total : d.totalZesDevicesCount = l0.sysman.length

/-- **Spec of `zesInitialize`.** When it succeeds for a new driver, the devices of sysman are those that
are counted, and nothing else is there. -/
theorem zesInitialize_success (h : zesInitialize l0 {} = (.success, d')) : Untouched l0 d' := by
  by_cases hinit : l0.zesInit ≠ .success
  · rw [zesInitialize, if_pos hinit] at h
    exact absurd (Prod.mk.inj h).1 hinit
  by_cases hdrivers : l0.zesDrivers.countResult ≠ .success ∨ l0.zesDrivers.count = 0
  · rw [zesInitialize, if_neg hinit, if_pos hdrivers] at h
    obtain ⟨hok, rfl⟩ := Prod.mk.inj h
    have hnone : l0.sysman = [] := if_pos (hdrivers.resolve_left (not_not_intro hok))
    exact ⟨rfl, rfl, rfl, rfl, hnone.symm, by rw [hnone]; rfl⟩
  have hsysman : l0.sysman = l0.zesDevices.items := if_neg fun hzero => hdrivers (.inr hzero)
  by_cases hfillDrivers : l0.zesDrivers.fillResult ≠ .success
  · rw [zesInitialize, if_neg hinit, if_neg hdrivers, if_pos hfillDrivers] at h
    exact absurd (Prod.mk.inj h).1 hfillDrivers
  by_cases hdevices : l0.zesDevices.countResult ≠ .success ∨ l0.zesDevices.count = 0
  · rw [zesInitialize, if_neg hinit, if_neg hdrivers, if_neg hfillDrivers, if_pos hdevices] at h
    obtain ⟨hok, hd⟩ := Prod.mk.inj h
    have hnone : d'.sysmanDevices = [] := sysmanDevices_of_none (by rw [← hd])
    have hcount := hdevices.resolve_left (not_not_intro hok)
    have hitems : l0.zesDevices.items = [] :=
      List.eq_nil_of_length_eq_zero (Nat.le_zero.mp (hcount ▸ l0.zesDevices.fits))
    refine ⟨by rw [← hd], by rw [← hd], by rw [← hd], by rw [← hd], ?_, ?_⟩
    · rw [hnone, hsysman, hitems]
    · rw [hsysman, hitems, ← hd]
      exact hcount
  by_cases hfill : l0.zesDevices.fillResult ≠ .success
  · rw [zesInitialize, if_neg hinit, if_neg hdrivers, if_neg hfillDrivers, if_neg hdevices,
      if_pos hfill] at h
    exact absurd (Prod.mk.inj h).1 hfill
  · rw [zesInitialize, if_neg hinit, if_neg hdrivers, if_neg hfillDrivers, if_neg hdevices,
      if_neg hfill] at h
    have hd := (Prod.mk.inj h).2
    refine ⟨by rw [← hd], by rw [← hd], by rw [← hd], by rw [← hd], ?_, ?_⟩
    · rw [hsysman, ← hd]
      exact l0.zesDevices.take_filled
    · rw [hsysman, ← hd]

/-- Steps that all succeed. -/
theorem forall₂_of_mapM {ε α β : Type} {f : α → Except ε β} {xs : List α} {ys : List β}
    (h : xs.mapM f = .ok ys) : List.Forall₂ (fun x y => f x = .ok y) xs ys := by
  induction xs generalizing ys with
  | nil =>
    rw [List.mapM_nil] at h
    obtain rfl := Except.ok.inj h
    exact .nil
  | cons x xs ih =>
    rw [List.mapM_cons] at h
    cases hx : f x with
    | error e =>
      rw [hx] at h
      cases h
    | ok y =>
      rw [hx] at h
      cases hxs : xs.mapM f with
      | error e =>
        rw [hxs] at h
        cases h
      | ok zs =>
        rw [hxs] at h
        obtain rfl := Except.ok.inj h
        exact .cons hx (ih hxs)

/-- **Spec of one driver.** -/
theorem initGroup_ok {i : Nat} {group : DevGroup} (h : initGroup l0 d i = .ok group) :
    group.totalDevicesCount ≤ group.dev.length ∧
      (l0.driver i).devices.items.zipIdx.mapM (initDevice l0 d i) = .ok group.devices := by
  rw [initGroup] at h
  split_ifs at h
  cases hdevices : (l0.driver i).devices.items.zipIdx.mapM (initDevice l0 d i) with
  | error e =>
    rw [hdevices] at h
    cases h
  | ok devices =>
    rw [hdevices] at h
    obtain rfl := Except.ok.inj h
    refine ⟨?_, ?_⟩
    · rw [List.length_append]
      exact Nat.le_add_right _ _
    · rw [DevGroup.devices, List.take_left' rfl]

end Spec

/-! ## The loops stay inside the arrays -/

/-- The loops over all devices stay inside the arrays, and use only drivers that have been filled in. -/
structure Indexable (d : Driver) : Prop where
  findDevice : ∀ bdf devList, d.findDevice bdf devList ≠ .fault
  run : d.run ≠ .fault
  allocated : d.devs = none → d.driverCount = 0
  filled : ∀ i < d.driverCount, ∃ handle, (d.zeDrivers.getD [])[i]? = some (some handle)

/-- A core interface that fails does not leave a number of drivers. -/
structure LeavesNoCount (l0 : LevelZero) : Prop where
  count : l0.zeInit = .success → l0.zeDrivers.countResult ≠ .success → l0.zeDrivers.count = 0
  fill : l0.zeInit = .success → l0.zeDrivers.countResult = .success →
    l0.zeDrivers.fillResult ≠ .success → l0.zeDrivers.leftCount = 0

section Loops

variable {d : Driver}

/-- The loop faults on a missing device only. -/
theorem processDevices_ne_fault {bdf : String} {devices : List (Option Device)} (h : none ∉ devices)
    (deviceIndex : Nat) (devList : List DevInfo) :
    processDevices bdf devices deviceIndex devList ≠ .fault := by
  induction devices generalizing deviceIndex devList with
  | nil =>
    rw [processDevices]
    split <;> exact nofun
  | cons device devices ih =>
    cases device with
    | none => exact absurd List.mem_cons_self h
    | some dev =>
      have hrest : none ∉ devices := fun hmem => h (List.mem_cons_of_mem _ hmem)
      rw [processDevices]
      split_ifs
      · exact ih hrest _ _
      · exact nofun
      · exact ih hrest _ _

/-- The arrays are as long as the numbers that go with them. -/
structure Allocated (d : Driver) : Prop where
  groups : ∀ i < d.driverCount, ∃ group, (d.devs.getD [])[i]? = some group ∧
    group.totalDevicesCount ≤ group.dev.length
  drivers : ∀ i < d.driverCount, ∃ handle, (d.zeDrivers.getD [])[i]? = some (some handle)
  surv : d.svZesDevs.survDevices.length = d.svZesDevs.survDevCount

theorem Allocated.none_notMem (h : Allocated d) : none ∉ d.accesses := by
  intro hmem
  rcases List.mem_append.mp hmem with hmem | hmem
  · obtain ⟨i, hi, hnone⟩ := List.mem_flatMap.mp hmem
    obtain ⟨group, hgroup, hle⟩ := h.groups i (List.mem_range.mp hi)
    rw [hgroup] at hnone
    obtain ⟨j, hj, hget⟩ := List.mem_map.mp hnone
    exact absurd (List.getElem?_eq_none_iff.mp hget)
      (Nat.not_le_of_lt ((List.mem_range.mp hj).trans_le hle))
  · obtain ⟨k, hk, hget⟩ := List.mem_map.mp hmem
    rw [← h.surv] at hk
    exact absurd (List.getElem?_eq_none_iff.mp hget) (Nat.not_le_of_lt (List.mem_range.mp hk))

theorem foldlM_isSome {α β : Type} {f : β → α → Option β} {xs : List α}
    (h : ∀ x ∈ xs, ∀ b, (f b x).isSome) (b : β) : (xs.foldlM f b).isSome := by
  induction xs generalizing b with
  | nil => rfl
  | cons x xs ih =>
    obtain ⟨c, hc⟩ := Option.isSome_iff_exists.mp (h x List.mem_cons_self b)
    rw [List.foldlM_cons, hc]
    exact ih (fun y hy => h y (List.mem_cons_of_mem x hy)) c

theorem Allocated.run_ne_fault (h : Allocated d) : d.run ≠ .fault := by
  have hsome : ((List.range d.driverCount).foldlM d.runDriver .success).isSome := by
    refine foldlM_isSome (fun i hi result => ?_) _
    obtain ⟨group, hgroup, hle⟩ := h.groups i (List.mem_range.mp hi)
    obtain ⟨handle, hhandle⟩ := h.drivers i (List.mem_range.mp hi)
    rw [Driver.runDriver, hgroup, hhandle]
    refine foldlM_isSome (fun j hj _ => ?_) result
    have hlt : j < group.dev.length := (List.mem_range.mp hj).trans_le hle
    rw [List.getElem?_eq_getElem hlt]
    rfl
  obtain ⟨result, hresult⟩ := Option.isSome_iff_exists.mp hsome
  rw [Driver.run, hresult]
  split <;> exact nofun

theorem Allocated.indexable (h : Allocated d) : Indexable d where
  findDevice := fun _ devList => processDevices_ne_fault h.none_notMem 0 devList
  run := h.run_ne_fault
  allocated := by
    intro hnone
    by_contra hne
    obtain ⟨group, hgroup, -⟩ := h.groups 0 (Nat.pos_of_ne_zero hne)
    rw [hnone] at hgroup
    cases hgroup
  filled := h.drivers

/-- Drivers that are counted without an array are an access outside of it. -/
theorem not_indexable_of_devs_none (hdevs : d.devs = none) (hcount : d.driverCount ≠ 0) :
    ¬Indexable d := fun h => hcount (h.allocated hdevs)

end Loops

section Runs

variable {l0 : LevelZero} {d d₁ d₂ : Driver}

/-- When the core interface fails, the arrays fit exactly if no drivers are counted. -/
theorem indexable_iff_of_fails (h : findSurvivability l0 d₂ ∅ = (.ret .success, d))
    (hd₁ : Untouched l0 d₁) (hdevs : d₂.devs = d₁.devs) (hsurv : d₂.svZesDevs = d₁.svZesDevs) :
    Indexable d ↔ d₂.driverCount = 0 := by
  obtain ⟨hcount, hdevs', -, -, hslots⟩ := findSurvivability_eq h
  have hnone : d.devs = none := by rw [hdevs', hdevs, hd₁.devs]
  constructor
  · intro hindexable
    rw [← hcount]
    exact hindexable.allocated hnone
  · intro hzero
    have hdrivers : d.driverCount = 0 := hcount.trans hzero
    refine Allocated.indexable ⟨fun i hi => ?_, fun i hi => ?_, hslots (hsurv.trans hd₁.svZesDevs)⟩
    · rw [hdrivers] at hi
      exact absurd hi (Nat.not_lt_zero i)
    · rw [hdrivers] at hi
      exact absurd hi (Nat.not_lt_zero i)

/-- When the core interface succeeds, the arrays fit. -/
theorem allocated_of_groups {groups : List DevGroup} (hd₁ : Untouched l0 d₁)
    (hd₂ : d₂ = { d₁ with
      driverCount := l0.zeDrivers.items.length
      zeDrivers := some l0.zeDrivers.filled })
    (hgroups : (List.range d₂.driverCount).mapM (initGroup l0 d₂) = .ok groups)
    (h : findSurvivability l0 { d₂ with devs := some groups } (bdfsOf groups) = (.ret .success, d)) :
    Allocated d := by
  obtain ⟨hcount, hdevs, hdrivers, -, hslots⟩ := findSurvivability_eq h
  have hall := forall₂_of_mapM hgroups
  have hsurv : d₂.svZesDevs = {} := by rw [hd₂, hd₁.svZesDevs]
  have hlength : d.driverCount = l0.zeDrivers.items.length := by rw [hcount, hd₂]
  refine ⟨fun i hi => ?_, fun i hi => ?_, hslots hsurv⟩
  · rw [hdevs]
    have hrange : i < (List.range d₂.driverCount).length := by
      rw [List.length_range, ← hcount]
      exact hi
    have hgroup : i < groups.length := hall.length_eq ▸ hrange
    exact ⟨groups[i], List.getElem?_eq_getElem hgroup, (initGroup_ok (hall.get hrange hgroup)).1⟩
  · rw [hdrivers, hd₂, Option.getD_some, Listing.filled]
    rw [hlength] at hi
    refine ⟨l0.zeDrivers.items[i], ?_⟩
    rw [List.getElem?_append_left (by rwa [List.length_map]), List.getElem?_map,
      List.getElem?_eq_getElem hi]
    rfl

/-- **When the loops stay inside the arrays.** After an initialisation that returns success: exactly if
a core interface that has failed left no number of drivers. -/
theorem init_indexable_iff (l0 : LevelZero) (d : Driver)
    (h : ({} : Driver).init l0 = (.ret .success, d)) : Indexable d ↔ LeavesNoCount l0 := by
  obtain ⟨d₁, result, d₂, hzes, hze, hends⟩ := init_success h
  have hd₁ := zesInitialize_success hzes
  rcases zeInitialize_cases l0 d₁ with ⟨hinit, hrun⟩ | ⟨hinit, hcount, hrun⟩ |
    ⟨hinit, hcount, hfill, hrun⟩ | ⟨hinit, hcount, hfill, hrun⟩
  all_goals obtain ⟨rfl, rfl⟩ := Prod.mk.inj (hze.symm.trans hrun)
  · obtain ⟨-, hsurv⟩ | ⟨hok, -⟩ := hends
    · rw [indexable_iff_of_fails hsurv hd₁ rfl rfl]
      exact iff_of_true hd₁.driverCount
        ⟨fun hok => absurd hok hinit, fun hok => absurd hok hinit⟩
    · exact absurd hok hinit
  · obtain ⟨-, hsurv⟩ | ⟨hok, -⟩ := hends
    · rw [indexable_iff_of_fails hsurv hd₁ rfl rfl]
      exact ⟨fun hzero => ⟨fun _ _ => hzero, fun _ hok => absurd hok hcount⟩,
        fun hleaves => hleaves.count hinit hcount⟩
    · exact absurd hok hcount
  · obtain ⟨-, hsurv⟩ | ⟨hok, -⟩ := hends
    · rw [indexable_iff_of_fails hsurv hd₁ rfl rfl]
      exact ⟨fun hzero => ⟨fun _ hfails => absurd hcount hfails, fun _ _ _ => hzero⟩,
        fun hleaves => hleaves.fill hinit hcount hfill⟩
    · exact absurd hok hfill
  · obtain ⟨hfails, -⟩ | ⟨-, groups, hgroups, hsurv⟩ := hends
    · exact absurd rfl hfails
    · exact iff_of_true (allocated_of_groups hd₁ rfl hgroups hsurv).indexable
        ⟨fun _ hfails => absurd hcount hfails, fun _ _ hfails => absurd hfill hfails⟩

end Runs

/-! ## A driver whose handles cannot be read -/

/-- An enumeration of one item, whose second call has a result. -/
def Listing.one {α : Type} (item : α) (fillResult : ZeResult) : Listing α where
  countResult := .success
  count := 1
  fillResult := fillResult
  items := [item]
  fits := Nat.le_refl 1
  leftCount := 1

/-- One device, which sysman and the core interface know. -/
def oneDevice (fillResult : ZeResult) : LevelZero where
  zesInit := .success
  zesDrivers := .one 10 .success
  zesDevices := .one ⟨100, [1], { bus := 0x4d }⟩ .success
  nodup := List.nodup_singleton _
  zeInit := .success
  zeDrivers := .one 20 fillResult
  driver := fun _ =>
    { apiVersion := .success
      devices := .one 30 .success
      device := fun _ =>
        { contextCreate := .success
          properties := some [1]
          zesProperties := fun _ => .success
          pciProperties := fun _ => true
          memory := "" } }
  pciProperties := fun _ => true
  survPciProperties := fun _ => true
  memory := fun _ => ""

theorem init_indexable_iff_sample : Indexable (({} : Driver).init (oneDevice .success)).2 ↔
    LeavesNoCount (oneDevice .success) :=
  init_indexable_iff (oneDevice .success) _
    (Prod.ext (by decide) rfl)

/-- The second call fails, and the driver is still counted. -/
theorem init_not_indexable : ¬∀ (l0 : LevelZero) (d : Driver),
    ({} : Driver).init l0 = (.ret .success, d) → Indexable d := by
  intro h
  have hinit : (({} : Driver).init (oneDevice (.error 0x78000001))).1 = .ret .success := by
    decide
  have hcount : (({} : Driver).init (oneDevice (.error 0x78000001))).2.driverCount = 1 := by
    decide
  have hdevs : (({} : Driver).init (oneDevice (.error 0x78000001))).2.devs = none := rfl
  refine not_indexable_of_devs_none hdevs ?_ (h _ _ (Prod.ext hinit rfl))
  rw [hcount]
  exact one_ne_zero

end XpuManager
