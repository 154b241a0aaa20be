import XpuManager.Oal.PciQuery
import XpuManager.Oal.VfConfig

/-! # Virtual functions

Virtual functions are created and removed through files of the kernel (`oal/lin/linvf.cpp`): their
resources are written to files of each function, then the number of functions to a file of the
device. -/

namespace XpuManager

open Numerals

/-- The state of error correction of a device's memory. -/
inductive EccState where
  | unavailable
  | enabled
  | disabled
  deriving DecidableEq

inductive DevFuncType where
  | unknown
  | virtual
  | physical
  | all
  deriving DecidableEq

structure DeviceSriovInfo where
  vGpuNumber : UInt32 := 0
  vGpuMemorySize : UInt64 := 0
  eccState : EccState := .unavailable
  drmPath : String := ""
  bdfAddress : String := ""
  lmemSizeFree : UInt64 := 0
  ggttSizeFree : UInt64 := 0
  doorbellFree : UInt32 := 0
  contextFree : UInt32 := 0
  functionType : DevFuncType := .unknown

def oneMbInBytes : UInt64 := 1024 * 1024

def maxPath : Nat := 256

/-! ## Paths -/

def debugfsPathOf (bdfAddress : String) : String := "/sys/kernel/debug/dri/" ++ bdfAddress

def devicePathOf (cardName : String) : String := "/sys/class/drm/" ++ cardName

/-- The directory of a virtual function. -/
def debugfsVfPathOf (debugfsPath : String) (vfNum : Nat) : String :=
  debugfsPath ++ "/gt0/vf" ++ toString vfNum

/-- The directory of a virtual function's scheduling parameters, if the device has them there. -/
def sysfsVfProfileOf (sriovAdminPath : String) (vfNum : Nat) : String :=
  if sriovAdminPath = "" then "" else sriovAdminPath ++ "/vf" ++ toString vfNum ++ "/profile"

/-- What comes behind the last slash, unless that is nothing. -/
def getCardNameFromDrmPath (drmPath : String) : String :=
  let name := drmPath.toList.rtakeWhile (· ≠ '/')
  if name.length < drmPath.toList.length ∧ name ≠ [] then String.ofList name else drmPath

section Files

variable (io : FileIo)

/-- The directory for the profiles of virtual functions, if there is one. -/
def getSriovAdminPath (drmCardName : String) : Prog FileState String := do
  let sysfsPath := devicePathOf drmCardName ++ "/device/sriov_admin"
  let present ← fileExists io sysfsPath
  pure (if present then sysfsPath else "")

/-! ## What is written -/

def vfSchedFiles (dir : String) (attrs : AttrFromConfigFile) : List (String × String) :=
  [(dir ++ "/exec_quantum_ms", toString attrs.vfExec.toNat),
    (dir ++ "/preempt_timeout_us", toString attrs.vfPreempt.toNat)]

/-- The scheduling of a virtual function. -/
def writeVfSchedParams (dir : String) (attrs : AttrFromConfigFile) : Prog FileState Int :=
  writeFiles io (vfSchedFiles dir attrs)

def pfSchedFiles (dir : String) (attrs : AttrFromConfigFile) (useSysfs : Bool) :
    List (String × String) :=
  [(dir ++ "/exec_quantum_ms", toString attrs.pfExec.toNat),
    (dir ++ "/preempt_timeout_us", toString attrs.pfPreempt.toNat),
    if useSysfs then (dir ++ "/sched_priority", if attrs.schedIfIdle then "low" else "normal")
    else (dir ++ "/sched_if_idle", if attrs.schedIfIdle then "1" else "0")]

/-- The scheduling of the physical function. -/
def writePfSchedParams (dir : String) (attrs : AttrFromConfigFile) (useSysfs : Bool) :
    Prog FileState Int :=
  writeFiles io (pfSchedFiles dir attrs useSysfs)

def vfResourceFiles (dir : String) (attrs : AttrFromConfigFile) (lmem : UInt64) :
    List (String × String) :=
  [(dir ++ "/lmem_quota", toString lmem.toNat),
    (dir ++ "/ggtt_quota", toString attrs.vfGgtt.toNat),
    (dir ++ "/doorbells_quota", toString attrs.vfDoorbells.toNat),
    (dir ++ "/contexts_quota", toString attrs.vfContexts.toNat)]

/-- The resources of a virtual function. -/
def writeVfResourceParams (dir : String) (attrs : AttrFromConfigFile) (lmem : UInt64) :
    Prog FileState Int :=
  writeFiles io (vfResourceFiles dir attrs lmem)

/-- All attributes of a virtual function. -/
def writeVfAttr (sysfsVfProfileDir debugfsVfDir : String) (attrs : AttrFromConfigFile)
    (lmem : UInt64) : Prog FileState Int :=
  let schedDir := if sysfsVfProfileDir ≠ "" then sysfsVfProfileDir else debugfsVfDir
  Prog.chain 0 (writeVfSchedParams io schedDir attrs)
    (writeVfResourceParams io debugfsVfDir attrs lmem)

/-- The loop of `createVfInternal` over some functions. -/
def writeVfAttrs (sriovAdminPath debugfsPath : String) (attrs : AttrFromConfigFile) (lmem : UInt64) :
    List Nat → Prog FileState Int
  | [] => pure 0
  | vfNum :: vfNums =>
    Prog.chain 0 (writeVfAttr io (sysfsVfProfileOf sriovAdminPath vfNum)
      (debugfsVfPathOf debugfsPath vfNum) attrs lmem)
      (writeVfAttrs sriovAdminPath debugfsPath attrs lmem vfNums)

/-- The functions `1` to `numVfs`. -/
def vfNumbers (numVfs : Nat) : List Nat := (List.range numVfs).map (· + 1)

/-- The last files of a creation. -/
def deviceFiles (devicePath : String) (attrs : AttrFromConfigFile) (numVfs : UInt32) :
    List (String × String) :=
  [(devicePath ++ "/device" ++ "/sriov_drivers_autoprobe", if attrs.driversAutoprobe then "1" else "0"),
    (devicePath ++ "/device" ++ "/sriov_numvfs", toString numVfs.toNat)]

/-- Writes the files of a creation, one after the other. -/
def createVfInternal (drmPath bdfAddress : String) (attrs : AttrFromConfigFile) (numVfs : UInt32)
    (lmem : UInt64) : Prog FileState Bool := do
  let devicePath := devicePathOf drmPath
  let debugfsPath := debugfsPathOf bdfAddress
  let sriovAdminPath ← getSriovAdminPath io drmPath
  let useSysfs : Bool := sriovAdminPath ≠ ""
  let pfSchedDir := if useSysfs then sriovAdminPath ++ "/pf/profile" else debugfsPath ++ "/gt0/pf"
  let vfs := writeVfAttrs io sriovAdminPath debugfsPath attrs lmem
  let ret ← Prog.chain 0 (writePfSchedParams io pfSchedDir attrs useSysfs) (vfs (vfNumbers numVfs.toNat))
  if ret ≠ 0 then pure false
  else if numVfs.toNat + 1 = UInt32.size then
    -- the counter of the loop starts over at 0 and never exceeds the number
    let ret ← vfs [0]
    if ret ≠ 0 then pure false else Prog.cut
  else
    let ret ← writeFiles io (deviceFiles devicePath attrs numVfs)
    pure (ret = 0)

/-! ## Free resources -/

/-- `sscanf` of a line with `%*[^0-9]%lu`: digits behind something else; 0 if there are none. -/
def scanSize (line : List Char) : UInt64 :=
  let digits := line.dropWhile fun c => !c.isDigit
  if digits.length = line.length then 0
  else UInt64.ofNat (min (ofDigits 10 0 (leadingDigits 10 digits)) (UInt64.size - 1))

/-- The size of free memory in the lines of `vram_mm`. -/
def freeSizeOf : List (List Char) → UInt64
  | [] => 0
  | line :: lines =>
    if maxPath ≤ line.length then 0
    else if hasInfix "visible_avail".toList line then scanSize line * oneMbInBytes
    else freeSizeOf lines

/-- The free memory of the device. -/
def getFreeLmemSize (path : String) : Prog FileState UInt64 := do
  let mmPath := path ++ "/tile0/vram_mm"
  let outcome ← pathExists io mmPath
  if outcome = .denied then pure 0
  else
    let mmPath := if outcome = .present then mmPath else path ++ "/vram0_mm"
    let content ← readStream io mmPath
    match content with
    | none => pure 0
    | some content => pure (freeSizeOf (fileLines content))

/-- `none` is the result `false`. -/
def loadSriovData (data : DeviceSriovInfo) : Prog FileState (Option DeviceSriovInfo) := do
  let debugfsPath := debugfsPathOf data.bdfAddress
  let free ← getFreeLmemSize io debugfsPath
  let pfIovPath := debugfsPath ++ "/gt0/pf"
  let lmem ← readFile io (pfIovPath ++ "/lmem_spare")
  match lmem with
  | none => pure none
  | some lmem =>
    let ggtt ← readFile io (pfIovPath ++ "/ggtt_spare")
    match ggtt with
    | none => pure none
    | some ggtt =>
      let doorbell ← readFile io (pfIovPath ++ "/doorbells_spare")
      match doorbell with
      | none => pure none
      | some doorbell =>
        let context ← readFile io (pfIovPath ++ "/contexts_spare")
        match context with
        | none => pure none
        | some context =>
          let lmemSpare ← Prog.ofOption (stoul 10 lmem)
          let ggttSpare ← Prog.ofOption (stoul 10 ggtt)
          let contextSpare ← Prog.ofOption (stoi context)
          let doorbellSpare ← Prog.ofOption (stoi doorbell)
          pure (some { data with
            lmemSizeFree := free - lmemSpare
            ggttSizeFree := data.ggttSizeFree + ggttSpare
            contextFree := data.contextFree + UInt32.ofInt contextSpare
            doorbellFree := data.doorbellFree + UInt32.ofInt doorbellSpare })

/-! ## The operations -/

/-- The memory of each function that is checked: what was asked for, or what the configuration has. -/
def lmemToUse (di : DeviceSriovInfo) (attrs : AttrFromConfigFile) : UInt64 :=
  if di.vGpuMemorySize > 0 then di.vGpuMemorySize
  else if di.eccState = .enabled then attrs.vfLmemEcc
  else attrs.vfLmem

/-- The number of functions is refused, or the device has none. -/
def numberRefused (info : PciDeviceInfo) (vGpuNumber : UInt32) : Bool :=
  info.valid && (!info.isSriovCapable || vGpuNumber = 0 || info.totalVFs.toUInt32 < vGpuNumber)

/-- Virtual functions are created on a device that has none. -/
def linCreateVFs (pci : PciAccess) (di : DeviceSriovInfo) : Prog FileState Int := do
  let cardName := getCardNameFromDrmPath di.drmPath
  let di := { di with vGpuMemorySize := di.vGpuMemorySize * oneMbInBytes }
  let data ← loadSriovData io di
  match data with
  | none => pure (-1)
  | some di =>
    let numVfsString ← readFile io (devicePathOf cardName ++ "/device" ++ "/sriov_numvfs")
    match numVfsString with
    | none => pure (-1)
    | some numVfsString =>
      let numVfs ← Prog.ofOption (stoi numVfsString)
      if numVfs > 0 then pure (-1)
      else
        match queryPciDeviceByBdf pci di.bdfAddress with
        | none => Prog.cut
        | some info =>
          if numberRefused info di.vGpuNumber then pure (-1)
          else
            let attrs ← readVfConfigFromFile io info.deviceId.toUInt32 di.vGpuNumber
            match attrs with
            | none => pure (-1)
            | some attrs =>
              if attrs.vfLmem = 0 then pure (-1)
              else if di.lmemSizeFree < lmemToUse di attrs * di.vGpuNumber.toUInt64 then pure (-1)
              else
                let created ← createVfInternal io cardName di.bdfAddress attrs di.vGpuNumber
                  di.vGpuMemorySize
                pure (if created then 0 else -1)

/-- The loop of `removeAllVFs`, which does not look at what comes of it. -/
def clearVfAttrs (sriovAdminPath debugfsPath : String) : List Nat → Prog FileState Unit
  | [] => pure ()
  | vfNum :: vfNums => do
    let _ ← writeVfAttr io (sysfsVfProfileOf sriovAdminPath vfNum) (debugfsVfPathOf debugfsPath vfNum)
      {} 0
    clearVfAttrs sriovAdminPath debugfsPath vfNums

def numVfsPathOf (bdfAddress : String) : String :=
  "/sys/bus/pci/devices/" ++ bdfAddress ++ "/sriov_numvfs"

/-- All virtual functions are removed. -/
def removeAllVFs (devInfo : DeviceSriovInfo) : Prog FileState Int := do
  let numVfsPath := numVfsPathOf devInfo.bdfAddress
  let numVfsString ← readFile io numVfsPath
  match numVfsString with
  | none => pure (-1)
  | some numVfsString =>
    let ret ← writeFile io numVfsPath "0"
    if ret ≠ 0 then pure (-1)
    else
      let sriovAdminPath ← getSriovAdminPath io (getCardNameFromDrmPath devInfo.drmPath)
      let numVfs ← Prog.ofOption (stoi numVfsString)
      clearVfAttrs io sriovAdminPath (debugfsPathOf devInfo.bdfAddress) (vfNumbers numVfs.toNat)
      pure 0

/-- The address in a line of `uevent`, read by `sscanf` with `PCI_SLOT_NAME=%s`. -/
def scanSlotName (line : List Char) : List Char :=
  if "PCI_SLOT_NAME=".toList.isPrefixOf line then
    ((line.drop "PCI_SLOT_NAME=".length).dropWhile isSpace).takeWhile fun c => !isSpace c
  else []

/-- The address in the lines of `uevent`; `none` is a line that is too long. -/
def slotNameOf : List (List Char) → Option String
  | [] => some ""
  | line :: lines =>
    if maxPath ≤ line.length then none
    else if scanSlotName line ≠ [] then some (String.ofList (scanSlotName line))
    else slotNameOf lines

/-- The loop of `linListVFs` over some functions; `none` is the result -1. -/
def listFunctions (devicePath debugfsPath : String) :
    List Nat → Prog FileState (Option (List DeviceSriovInfo))
  | [] => pure (some [])
  | functionIndex :: functions => do
    let lmem ← readFile io (if functionIndex = 0 then debugfsPath ++ "/gt0/pf/lmem_spare"
      else debugfsVfPathOf debugfsPath functionIndex ++ "/lmem_quota")
    match lmem with
    | none => pure none
    | some lmem =>
      let size ← Prog.ofOption (stoul 10 lmem)
      let uevent ← readStream io (if functionIndex = 0 then devicePath ++ "/device/uevent"
        else devicePath ++ "/device/virtfn" ++ toString (functionIndex - 1) ++ "/uevent")
      match slotNameOf (fileLines (uevent.getD "")) with
      | none => pure none
      | some bdf =>
        let rest ← listFunctions devicePath debugfsPath functions
        pure (rest.map fun infos =>
          { functionType := if functionIndex = 0 then .physical else .virtual
            vGpuNumber := UInt32.ofNat functionIndex
            vGpuMemorySize := size
            bdfAddress := bdf } :: infos)

/-- The functions of a device, the physical one and the virtual ones. -/
def linListVFs (di : DeviceSriovInfo) : Prog FileState (Option (List DeviceSriovInfo)) := do
  let devicePath := devicePathOf (getCardNameFromDrmPath di.drmPath)
  let data ← loadSriovData io di
  match data with
  | none => pure none
  | some di =>
    let numVfsString ← readFile io (numVfsPathOf di.bdfAddress)
    match numVfsString with
    | none => pure none
    | some numVfsString =>
      if parseInt 10 numVfsString = none then pure none
      else
        let numVfs ← Prog.ofOption (stoi numVfsString)
        listFunctions io devicePath (debugfsPathOf di.bdfAddress) (List.range (numVfs + 1).toNat)

end Files

end XpuManager
