import XpuManager.Lib.Runs
import XpuManager.Oal.FileIo

/-! # The database of PCI devices

`PciDatabase` (`oal/lin/pci_database.cpp`) reads the list of known devices, `pci.ids`, for switches, and
corrects it by `pci.conf`. Both are read line by line. Most accesses to a line, and all conversions of
numbers, throw when there is not what they look for. -/

namespace XpuManager

namespace PciDatabase

open Numerals

inductive DeviceType where
  | unknown
  | switch
  | graphic
  deriving DecidableEq

/-- An entry of the database. -/
structure PcieDevice where
  type : DeviceType
  grouped : Bool := false
  vendorId : Int
  deviceId : Int
  subVendorId : Int := 0
  subDeviceId : Int := 0
  deviceName : List Char := []
  deriving DecidableEq

/-- The devices by vendor and device ID. -/
abbrev Devices := Int × Int → Option PcieDevice

/-- The sections of `pci.ids`. -/
inductive IdType where
  | unknown
  | vendor
  | device
  | subSys
  | knownDClass
  deriving DecidableEq

/-! ## The library -/

/-- `substr`, which throws beyond the end. -/
def substr (info : List Char) (pos n : Nat) : Option (List Char) :=
  if pos ≤ info.length then some ((info.drop pos).take n) else none

def substrFrom (info : List Char) (pos : Nat) : Option (List Char) :=
  if pos ≤ info.length then some (info.drop pos) else none

/-- The hexadecimal number that a text begins with. -/
def number (text : List Char) : Option Int := parseInt 16 (String.ofList text)

/-- How many characters are read for it: white space, a sign, `0x` and the digits. -/
def numberEnd (text : List Char) : Nat :=
  let digits := dropPrefix 16 (takeSign (text.dropWhile isSpace)).2
  text.length - digits.length + (leadingDigits 16 digits).length

/-- `std::stoi` with the base 16, and the number of characters that were read; `none` is an exception. -/
def stoiPos (text : List Char) : Option (Int × Nat) :=
  match number text with
  | none => none
  | some i => if -0x80000000 ≤ i ∧ i < 0x80000000 then some (i, numberEnd text) else none

def stoi16 (text : List Char) : Option Int := (stoiPos text).map Prod.fst

/-- A length as an `int`. -/
def intLen (info : List Char) : Int := (Int32.ofNat info.length).toInt

/-! ## The lines of `pci.ids` -/

def isBlankSpace (c : Char) : Bool := c = ' ' || c = '\t'

/-- A comment, which may have blanks in front. -/
def lineIsComment (info : List Char) : Bool := (info.dropWhile isBlankSpace).head? = some '#'

/-- What the parsing of a line gives: its result, the type and the IDs, and where the name begins. -/
structure Level0 where
  bResult : Bool := false
  type : IdType
  vendorId : Int
  idx : Nat

structure Level1 where
  bResult : Bool := false
  type : IdType
  deviceId : Int
  idx : Nat

structure Level2 where
  bResult : Bool := false
  type : IdType
  subVendorId : Int
  subDeviceId : Int
  idx : Nat

/-- Whether a line is a header: it begins with a capital letter, and a blank is behind it. The second
character is looked at only if there is one. -/
def isHeader (info : List Char) (len : Int) (first : Char) : Option Bool :=
  if ('A' ≤ first ∧ first ≤ 'Z') ∧ 2 ≤ len then info[1]?.map isBlankSpace else some false

/-- The ID of `n` digits at a position, and whether it is one and a blank follows it. -/
def idAt (info : List Char) (pos n : Nat) : Option (Int × Bool) := do
  let id ← stoi16 (← substr info pos n)
  if 0 ≤ id then info[pos + n]?.map fun c => (id, isBlankSpace c) else some (id, false)

/-- A line without a tab. -/
def parseLevel0 (info : List Char) (len : Int) (type : IdType) (vendorId : Int) (idx : Nat) :
    Option Level0 := do
  let first ← info[0]?
  let header ← isHeader info len first
  if first = 'C' ∧ header then
    if 5 < len then
      let vendorId ← stoi16 (← substr info 2 2)
      if 0 ≤ vendorId then some ⟨true, .knownDClass, vendorId, 5⟩
      else some ⟨false, type, vendorId, idx⟩
    else some ⟨false, type, vendorId, idx⟩
  else if header then some ⟨true, .unknown, vendorId, idx⟩
  else if 5 < len then
    let (vendorId, ok) ← idAt info 0 4
    if ok then some ⟨true, .vendor, vendorId, 5⟩ else some ⟨false, type, vendorId, idx⟩
  else some ⟨false, type, vendorId, idx⟩

/-- A line with one tab. -/
def parseLevel1 (info : List Char) (len : Int) (type : IdType) (deviceId : Int) (idx : Nat) :
    Option Level1 :=
  match type with
  | .unknown => some ⟨true, type, deviceId, idx⟩
  | .knownDClass => do
    let (deviceId, ok) ← idAt info 1 2
    if ok then some ⟨true, type, deviceId, 4⟩ else some ⟨false, type, deviceId, idx⟩
  | .vendor | .device | .subSys =>
    if 6 < len then do
      let (deviceId, ok) ← idAt info 1 4
      if ok then some ⟨true, .device, deviceId, 6⟩ else some ⟨false, type, deviceId, idx⟩
    else some ⟨false, type, deviceId, idx⟩

/-- A line with two tabs. -/
def parseLevel2 (info : List Char) (len : Int) (type : IdType) (subVendorId subDeviceId : Int)
    (idx : Nat) : Option Level2 :=
  match type with
  | .unknown | .knownDClass | .vendor => some ⟨true, type, subVendorId, subDeviceId, idx⟩
  | .device | .subSys =>
    if 12 < len then do
      let (subVendorId, ok) ← idAt info 2 4
      if ok then
        let (subDeviceId, ok) ← idAt info 7 4
        if ok then some ⟨true, .subSys, subVendorId, subDeviceId, 12⟩
        else some ⟨false, type, subVendorId, subDeviceId, idx⟩
      else some ⟨false, type, subVendorId, subDeviceId, idx⟩
    else some ⟨false, type, subVendorId, subDeviceId, idx⟩

def switchString : List Char := " Switch ".toList

/-- A device whose name says that it is a switch is kept. -/
def addSwitchDevice (devices : Devices) (vendorId deviceId : Int) (deviceName : List Char)
    (subVendorId subDeviceId : Int) (subsystemName : List Char) : Devices :=
  let device : PcieDevice :=
    { type := .switch
      vendorId := vendorId
      deviceId := deviceId
      subVendorId := subVendorId
      subDeviceId := subDeviceId }
  if 0 ≤ subVendorId ∧ 0 ≤ subDeviceId ∧ subsystemName ≠ [] then
    if hasInfix switchString subsystemName then
      Function.update devices (vendorId, deviceId) (some device)
    else devices
  else if 0 ≤ vendorId ∧ 0 ≤ deviceId ∧ deviceName ≠ [] then
    if hasInfix switchString deviceName then
      Function.update devices (vendorId, deviceId) (some device)
    else devices
  else devices

/-- What is carried from line to line. -/
structure PciParse where
  bResult : Bool := false
  vendorId : Int := 0
  deviceId : Int := 0
  subVendorId : Int := 0
  subDeviceId : Int := 0
  deviceName : List Char := []
  subsystemName : List Char := []
  idtype : IdType := .unknown
  devices : Devices

/-- The rest of a line from a position on, without spaces at its front. -/
def nameFrom (info : List Char) (idx : Nat) : Option (List Char) :=
  (substrFrom info idx).map fun name => name.dropWhile (· = ' ')

/-- The database after a line of the list, whose names are those of `st`. -/
def PciParse.addDevice (st : PciParse) : PciParse :=
  if st.idtype ≠ .knownDClass then
    { st with
      devices := addSwitchDevice st.devices st.vendorId st.deviceId st.deviceName st.subVendorId
        st.subDeviceId st.subsystemName }
  else st

def parseLine0 (st : PciParse) (info : List Char) : Option PciParse := do
  let level ← parseLevel0 info (intLen info) st.idtype st.vendorId 0
  let _vendorName ← nameFrom info level.idx
  some { st with
    bResult := level.bResult
    idtype := level.type
    vendorId := level.vendorId
    deviceId := -1
    subVendorId := -1
    subDeviceId := -1 }

def parseLine1 (st : PciParse) (info : List Char) : Option PciParse := do
  let level ← parseLevel1 info (intLen info) st.idtype (-1) 1
  let name ← nameFrom info level.idx
  some { st with
    bResult := level.bResult
    idtype := level.type
    deviceId := level.deviceId
    subVendorId := -1
    subDeviceId := -1
    deviceName := name : PciParse }.addDevice

def parseLine2 (st : PciParse) (info : List Char) : Option PciParse := do
  let level ← parseLevel2 info (intLen info) st.idtype (-1) (-1) 2
  let name ← nameFrom info level.idx
  some { st with
    bResult := level.bResult
    idtype := level.type
    subVendorId := level.subVendorId
    subDeviceId := level.subDeviceId
    subsystemName := name : PciParse }.addDevice

/-- A line whose level is its indentation; beyond the second level there is nothing. -/
def parseAtLevel (st : PciParse) (info : List Char) : Nat → Option PciParse
  | 0 => parseLine0 st info
  | 1 => parseLine1 st info
  | 2 => parseLine2 st info
  | _ => some st

/-- A turn of the loop of `parsePciDevice`. -/
def parseLine (st : PciParse) (info : List Char) : Option PciParse :=
  if info = [] then some st
  else if lineIsComment info then some st
  else parseAtLevel st info (info.takeWhile (· = '\t')).length

/-- All lines of `pci.ids`. -/
def parsePciDevice (devices : Devices) (content : String) : Option PciParse :=
  Runs.follow parseLine { devices := devices } (fileLines content)

/-! ## The lines of `pci.conf` -/

/-- The entry of a graphics device, from the character behind its type on. -/
def parseGraphic (info : List Char) (start : Nat) (device : PcieDevice) : Option PcieDevice := do
  let start := start + ((info.drop start).takeWhile isBlankSpace).length
  let group ← info[start]?
  let start := start + 1
  let start := start + ((info.drop start).takeWhile isBlankSpace).length
  let device := { device with type := .graphic, grouped := group ≠ '0' }
  if start < info.length then
    let name ← substrFrom info start
    some { device with deviceName := name }
  else some device

/-- A turn of the loop of `parseDeviceConfig`. -/
def configLine (devices : Devices) (info : List Char) : Option Devices :=
  if info = [] then some devices
  else if lineIsComment info then some devices
  else do
    let (vendorId, pos) ← stoiPos (← substrFrom info 0)
    let start := pos + 1
    if start < info.length then
      let (deviceId, pos) ← stoiPos (← substrFrom info start)
      let start := start + pos + 1
      if start < info.length then
        let type ← info[start]?
        let device : PcieDevice := { type := .unknown, vendorId := vendorId, deviceId := deviceId }
        if type = '0' then some (Function.update devices (vendorId, deviceId) none)
        else if type = '1' then
          some (Function.update devices (vendorId, deviceId) (some { device with type := .switch }))
        else if type = '2' then
          let device ← parseGraphic info (start + 1) device
          some (Function.update devices (vendorId, deviceId) (some device))
        else some devices
      else some devices
    else some devices

/-- All lines of `pci.conf`. -/
def parseDeviceConfig (devices : Devices) (content : String) : Option Devices :=
  Runs.follow configLine devices (fileLines content)

/-- The two files, one after the other. -/
def parseDatabase (pciIds pciConf : String) : Option Devices := do
  let st ← parsePciDevice (fun _ => none) pciIds
  parseDeviceConfig st.devices pciConf

end PciDatabase

end XpuManager
