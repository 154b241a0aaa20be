import XpuManager.Lib.Numerals

/-! # Querying a PCI device

What the creation of virtual functions asks the PCI library for (`oal/lin/linvf.cpp`): the device of
an address, its device ID, and the fields of its capability 0x10. -/

namespace XpuManager

open Numerals

/-- A device of the PCI library: whether it can be probed, its ID, and the bytes of its configuration
space, as far as they can be read. -/
structure PciDevice where
  probes : Bool
  deviceId : UInt16
  config : Nat → Option UInt8

namespace PciDevice

/-- A byte of the configuration space. -/
def cfgReadU8 (dev : PciDevice) (offset : Nat) : Option UInt8 := dev.config offset

/-- Two bytes of the configuration space, the low one first. -/
def cfgReadU16 (dev : PciDevice) (offset : Nat) : Option UInt16 := do
  let low ← dev.config offset
  let high ← dev.config (offset + 1)
  pure (low.toUInt16 + 256 * high.toUInt16)

/-- Four bytes of the configuration space, the low ones first. -/
def cfgReadU32 (dev : PciDevice) (offset : Nat) : Option UInt32 := do
  let low ← dev.cfgReadU16 offset
  let high ← dev.cfgReadU16 (offset + 2)
  pure (low.toUInt32 + 65536 * high.toUInt32)

end PciDevice

/-- What is found of a device; other fields of the source are for its messages only. -/
structure PciDeviceInfo where
  deviceId : UInt16 := 0
  valid : Bool := false
  isSriovCapable : Bool := false
  totalVFs : UInt16 := 0
  initialVFs : UInt16 := 0
  numVFs : UInt16 := 0
  vfStride : UInt32 := 0
  vfDeviceId : UInt16 := 0
  firstVFOffset : UInt32 := 0
  vfBarSize : List UInt32 := List.replicate 6 0
  deriving DecidableEq

/-- The PCI library at the time of a query: whether it was initialised before, whether it can be
initialised, and the device of an address. -/
structure PciAccess where
  pciInit : Bool
  systemInit : Bool
  findBySlot : UInt16 → UInt8 → UInt8 → UInt8 → Option PciDevice

def pciCapabilityList : Nat := 0x34
def pciCapIdSriov : UInt8 := 0x10
def offsetTotalVf : Nat := 0x0E
def offsetInitialVf : Nat := 0x0C
def offsetNumVf : Nat := 0x10
def offsetVfStride : Nat := 0x14
def offsetVfDeviceId : Nat := 0x1A
def offsetFirstVfOffset : Nat := 0x18
def offsetVfBar : Nat := 0x24

def initializePciSystem (pci : PciAccess) : Bool := pci.pciInit || pci.systemInit

/-- The walk along the capabilities from `capPtr` to the one with ID 0x10; the outer `none` says that
the fuel is spent. -/
def findSriov (dev : PciDevice) : Nat → UInt8 → Option (Option UInt8)
  | 0, _ => none
  | fuel + 1, capPtr =>
    if capPtr = 0 then some none
    else
      match dev.cfgReadU8 capPtr.toNat with
      | none => some none
      | some capId =>
        if capId = pciCapIdSriov then some (some capPtr)
        else
          match dev.cfgReadU8 (capPtr.toNat + 1) with
          | none => some none
          | some next => findSriov dev fuel next

/-- A walk that is longer than there are pointers never ends; then there is no result. -/
def readSriovCapability (dev : PciDevice) (info : PciDeviceInfo) : Option PciDeviceInfo :=
  match dev.cfgReadU8 pciCapabilityList with
  | none => some info
  | some capPtr =>
    match findSriov dev 256 capPtr with
    | none => none
    | some none => some info
    | some (some cap) =>
      let u16 (offset : Nat) : UInt16 := (dev.cfgReadU16 (cap.toNat + offset)).getD 0
      some { info with
        isSriovCapable := true
        totalVFs := u16 offsetTotalVf
        initialVFs := u16 offsetInitialVf
        numVFs := u16 offsetNumVf
        vfStride := (u16 offsetVfStride).toUInt32
        vfDeviceId := u16 offsetVfDeviceId
        firstVFOffset := (u16 offsetFirstVfOffset).toUInt32
        vfBarSize := (List.range 6).map fun i =>
          (dev.cfgReadU32 (cap.toNat + offsetVfBar + i * 4)).getD 0 }

def queryPciDevice (pci : PciAccess) (domain : UInt16) (bus device function : UInt8) :
    Option PciDeviceInfo :=
  if initializePciSystem pci = false then some {}
  else
    match pci.findBySlot domain bus device function with
    | none => some {}
    | some dev =>
      if dev.probes then readSriovCapability dev { valid := true, deviceId := dev.deviceId }
      else some {}

/-- `find` of a character from a position on. -/
def findFrom (cs : List Char) (c : Char) (pos : Nat) : Option Nat :=
  ((cs.drop pos).findIdx? (· = c)).map (· + pos)

/-- `substr(from, to - from)`; when the length is negative it counts as one beyond the end. -/
def substring (cs : List Char) (start stop : Nat) : String :=
  String.ofList (if start ≤ stop then (cs.drop start).take (stop - start) else cs.drop start)

/-- The parts of an address `XXXX:XX:XX.X` or `XX:XX.X`. -/
def parseBdf (bdf : String) : Option (UInt16 × UInt8 × UInt8 × UInt8) :=
  let cs := bdf.toList
  match findFrom cs ':' 0 with
  | none => none
  | some colon1 =>
    match findFrom cs ':' (colon1 + 1), findFrom cs '.' 0 with
    | some colon2, some dot => do
      let domain ← stoul 16 (substring cs 0 colon1)
      let bus ← stoul 16 (substring cs (colon1 + 1) colon2)
      let device ← stoul 16 (substring cs (colon2 + 1) dot)
      let function ← stoul 16 (substring cs (dot + 1) cs.length)
      pure (domain.toUInt16, bus.toUInt8, device.toUInt8, function.toUInt8)
    | none, some dot => do
      let bus ← stoul 16 (substring cs 0 colon1)
      let device ← stoul 16 (substring cs (colon1 + 1) dot)
      let function ← stoul 16 (substring cs (dot + 1) cs.length)
      pure (0, bus.toUInt8, device.toUInt8, function.toUInt8)
    | _, none => none

/-- The query of a device by its address; it has no result when the walk along the capabilities does
not end. -/
def queryPciDeviceByBdf (pci : PciAccess) (bdf : String) : Option PciDeviceInfo :=
  match parseBdf bdf with
  | none => some {}
  | some (domain, bus, device, function) => queryPciDevice pci domain bus device function

/-- The walk keeps what is known of the device. -/
theorem readSriovCapability_valid {dev : PciDevice} {info info' : PciDeviceInfo}
    (h : readSriovCapability dev info = some info') : info'.valid = info.valid := by
  unfold readSriovCapability at h
  split at h
  case h_1 => obtain rfl := Option.some.inj h; rfl
  case h_2 =>
  split at h
  case h_1 => cases h
  case h_2 => obtain rfl := Option.some.inj h; rfl
  case h_3 => obtain rfl := Option.some.inj h; rfl

/-- A query finds the device, or nothing of it. -/
theorem valid_of_query {pci : PciAccess} {bdf : String} {info : PciDeviceInfo}
    (h : queryPciDeviceByBdf pci bdf = some info) : info.valid = true ∨ info = {} := by
  unfold queryPciDeviceByBdf at h
  split at h
  case h_1 => exact .inr (Option.some.inj h).symm
  case h_2 =>
  unfold queryPciDevice at h
  split at h
  case isTrue => exact .inr (Option.some.inj h).symm
  case isFalse =>
  split at h
  case h_1 => exact .inr (Option.some.inj h).symm
  case h_2 =>
  split at h
  · exact .inl (readSriovCapability_valid h)
  · exact .inr (Option.some.inj h).symm

end XpuManager
