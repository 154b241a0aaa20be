import XpuManager.Hal.Driver
import XpuManager.Lib.Spans

/-! # The DMI table

`DmiReader` (`oal/lin/dmi_reader.cpp`) reads the system slots and the system information from the DMI
table. All lengths and indices in it come from the firmware. -/

namespace XpuManager

open Spans

/-- The header of a structure. -/
structure SMBIOSHeader where
  type : UInt8
  length : UInt8
  handle : UInt16
  deriving DecidableEq

def sizeofHeader : Nat := 4

/-- The header at a position. -/
def headerAt (span : List UInt8) (offset : Nat) : Except Fault SMBIOSHeader := do
  let type ← get span offset
  let length ← get span (offset + 1)
  let low ← get span (offset + 2)
  let high ← get span (offset + 3)
  pure ⟨type, length, low.toUInt16 + 256 * high.toUInt16⟩

/-! ## The walk over the structures -/

/-- A structure lies within the table, and has at least a size. -/
def validateStructure (dmiData : List UInt8) (offset minSize : Nat) : Except Fault Bool :=
  if dmiData.length < offset + sizeofHeader then pure false
  else do
    let header ← headerAt dmiData offset
    pure (sizeofHeader ≤ header.length.toNat ∧ offset + header.length.toNat ≤ dmiData.length ∧
      minSize ≤ header.length.toNat)

/-- The loop for two zeros in a row, with so many turns to come. -/
def findDoubleNull (remainingData : List UInt8) : Nat → Nat → Except Fault (Option Nat)
  | 0, _ => pure none
  | turns + 1, i => do
    let first ← get remainingData i
    let second ← get remainingData (i + 1)
    if first = 0 ∧ second = 0 then pure (some i) else findDoubleNull remainingData turns (i + 1)

/-- The offset of the structure behind one, or 0. -/
def findNextStructure (dmiData : List UInt8) (currentOffset : Nat) : Except Fault Nat := do
  if ← validateStructure dmiData currentOffset sizeofHeader then
    let header ← headerAt dmiData currentOffset
    let remainingData ← subspan dmiData (currentOffset + header.length.toNat)
    match ← findDoubleNull remainingData (remainingData.length - 1) 0 with
    | none => pure 0
    | some i => pure (currentOffset + header.length.toNat + i + 2)
  else pure 0

/-- The loop over the structures from an offset on, for so many turns at most. -/
def structuresFrom (dmiData : List UInt8) :
    Nat → Nat → Except Fault (List (Nat × SMBIOSHeader))
  | 0, _ => .error .unfinished
  | turns + 1, offset =>
    if offset < dmiData.length then do
      if ← validateStructure dmiData offset sizeofHeader then
        let header ← headerAt dmiData offset
        let next ← findNextStructure dmiData offset
        if next = 0 then pure [(offset, header)]
        else
          let structures ← structuresFrom dmiData turns next
          pure ((offset, header) :: structures)
      else pure []
    else pure []

/-- A loop that is still running after a turn for each byte counts as one that never ends. -/
def getStructureIterator (dmiData : List UInt8) : Except Fault (List (Nat × SMBIOSHeader)) :=
  structuresFrom dmiData (dmiData.length + 1) 0

/-! ## Strings -/

/-- The loop to the beginning of a string, with so many strings to pass over. -/
def skipStrings (stringArea : List UInt8) : Nat → Nat → Except Fault (Option Nat)
  | 0, pos => pure (some pos)
  | count + 1, pos => do
    let remainingArea ← subspan stringArea pos
    if 0 ∈ remainingArea then
      let pos := pos + remainingArea.idxOf 0 + 1
      if stringArea.length ≤ pos then pure none else skipStrings stringArea count pos
    else pure none

def maxStringLength : Nat := 256

/-- A string of a structure, by its index. -/
def getStringFromTable (dmiData : List UInt8) (structureOffset : Nat)
    (structureLength stringIndex : UInt8) : Except Fault (List UInt8) :=
  if stringIndex = 0 then pure []
  else
    let stringAreaStart := structureOffset + structureLength.toNat
    if dmiData.length ≤ stringAreaStart then pure []
    else do
      let stringArea ← subspan dmiData stringAreaStart
      match ← skipStrings stringArea (stringIndex.toNat - 1) 0 with
      | none => pure []
      | some pos =>
        let targetArea ← subspan stringArea pos
        subspanOf targetArea 0 (min (targetArea.idxOf 0) maxStringLength)

/-! ## Slots -/

/-- What is read of a slot. -/
structure SlotInfo where
  designation : List UInt8 := []
  type : String := ""
  usage : String := ""
  busAddress : Option String := none
  handle : UInt16
  slotTypeRaw : UInt8 := 0
  usageRaw : UInt8 := 0
  deriving DecidableEq

def slotTypes : List (UInt8 × String) :=
  [(0x01, "Other"), (0x02, "Unknown"), (0x03, "ISA"), (0x04, "MCA"), (0x05, "EISA"), (0x06, "PCI"),
    (0x07, "PC Card (PCMCIA)"), (0x08, "VL-VESA"), (0x09, "Proprietary"),
    (0x0A, "Processor Card Slot"), (0x0B, "Proprietary Memory Card Slot"),
    (0x0C, "I/O Riser Card Slot"), (0x0D, "NuBus"), (0x0E, "PCI - 66MHz Capable"), (0x0F, "AGP"),
    (0x10, "AGP 2X"), (0x11, "AGP 4X"), (0x12, "PCI-X"), (0x13, "AGP 8X"), (0xA5, "PCI Express"),
    (0xA6, "PCI Express x1"), (0xA7, "PCI Express x2"), (0xA8, "PCI Express x4"),
    (0xA9, "PCI Express x8"), (0xAA, "PCI Express x16"), (0xAB, "PCI Express Gen 2"),
    (0xAC, "PCI Express Gen 2 x1"), (0xAD, "PCI Express Gen 2 x2"), (0xAE, "PCI Express Gen 2 x4"),
    (0xAF, "PCI Express Gen 2 x8"), (0xB0, "PCI Express Gen 2 x16"), (0xB1, "PCI Express Gen 3"),
    (0xB2, "PCI Express Gen 3 x1"), (0xB3, "PCI Express Gen 3 x2"), (0xB4, "PCI Express Gen 3 x4"),
    (0xB5, "PCI Express Gen 3 x8"), (0xB6, "PCI Express Gen 3 x16"), (0xB8, "PCI Express Gen 4 x1"),
    (0xB9, "PCI Express Gen 4 x2"), (0xBA, "PCI Express Gen 4 x4"), (0xBB, "PCI Express Gen 4 x8"),
    (0xBC, "PCI Express Gen 4 x16"), (0xBD, "PCI Express Gen 5 x1"), (0xBE, "PCI Express Gen 5 x2"),
    (0xBF, "PCI Express Gen 5 x4"), (0xC0, "PCI Express Gen 5 x8"), (0xC1, "PCI Express Gen 5 x16")]

def usageTypes : List (UInt8 × String) :=
  [(0x01, "Other"), (0x02, "Unknown"), (0x03, "Available"), (0x04, "In Use"), (0x05, "Unavailable")]

/-- The text of a value, or the value itself after another text. -/
def decode (texts : List (UInt8 × String)) (otherwise : String) (value : UInt8) : String :=
  match texts.find? fun entry => entry.1 = value with
  | some entry => entry.2
  | none => otherwise ++ " (0x" ++ String.ofList (Nat.toDigits 16 value.toNat) ++ ")"

def decodeSlotType (type : UInt8) : String := decode slotTypes "Unknown" type

def decodeSlotUsage (usage : UInt8) : String := decode usageTypes "Reserved" usage

/-- `readFromBuffer` of one byte; it throws when the byte is not there. -/
def readByte (buffer : List UInt8) (offset : Nat) : Except Fault UInt8 :=
  if buffer.length < offset + 1 then .error .thrown else get buffer offset

/-- `readFromBuffer` of two bytes. -/
def readWord (buffer : List UInt8) (offset : Nat) : Except Fault UInt16 :=
  if buffer.length < offset + 2 then .error .thrown
  else do
    let low ← get buffer offset
    let high ← get buffer (offset + 1)
    pure (low.toUInt16 + 256 * high.toUInt16)

/-- The address of the bus at some offsets, unless it is marked as absent. -/
def tryReadBusAddress (buffer : List UInt8) (segOff busOff dfOff : Nat) :
    Except Fault (Option (UInt16 × UInt8 × UInt8)) := do
  let seg ← readWord buffer segOff
  let busNum ← readByte buffer busOff
  let df ← readByte buffer dfOff
  pure (if busNum ≠ 0xFF then some (seg, busNum, df) else none)

/-- The standard offsets first, then the alternative ones. -/
def readBusAddress (buffer : List UInt8) : Except Fault (Option (UInt16 × UInt8 × UInt8)) := do
  match ← tryReadBusAddress buffer 13 15 16 with
  | some result => pure (some result)
  | none => tryReadBusAddress buffer 12 14 15

def formatBusAddress (segment : UInt16) (bus devfunc : UInt8) : String :=
  hexField 4 segment.toUInt32 ++ ":" ++ hexField 2 bus.toUInt32 ++ ":" ++
    hexField 2 (devfunc >>> 3).toUInt32 ++ "." ++ hexField 1 (devfunc &&& 0x7).toUInt32

def parseDesignation (dmiData buffer : List UInt8) (offset : Nat) (header : SMBIOSHeader)
    (slot : SlotInfo) : Except Fault SlotInfo :=
  if 6 ≤ header.length.toNat then do
    let designationIdx ← get buffer 4
    let slotType ← get buffer 5
    let designation ← getStringFromTable dmiData offset header.length designationIdx
    pure { slot with
      designation := designation
      slotTypeRaw := slotType
      type := decodeSlotType slotType }
  else pure slot

def parseUsage (buffer : List UInt8) (header : SMBIOSHeader) (slot : SlotInfo) :
    Except Fault SlotInfo :=
  if 8 ≤ header.length.toNat then do
    let usage ← get buffer 7
    pure { slot with usageRaw := usage, usage := decodeSlotUsage usage }
  else pure slot

def parseBusAddress (buffer : List UInt8) (header : SMBIOSHeader) (slot : SlotInfo) :
    Except Fault SlotInfo :=
  if 17 ≤ header.length.toNat then do
    match ← readBusAddress buffer with
    | some (segment, bus, devfunc) =>
      pure { slot with busAddress := some (formatBusAddress segment bus devfunc) }
    | none => pure slot
  else pure slot

/-- A slot, if the structure is long enough. -/
def parseSlot (dmiData : List UInt8) (offset : Nat) : Except Fault (Option SlotInfo) := do
  if ← validateStructure dmiData offset 12 then
    let buffer ← subspan dmiData offset
    let header ← headerAt buffer 0
    let slot ← parseDesignation dmiData buffer offset header { handle := header.handle }
    let slot ← parseUsage buffer header slot
    let slot ← parseBusAddress buffer header slot
    pure (some slot)
  else pure none

/-! ## System information -/

/-- What is read of the system. -/
structure SystemInfo where
  manufacturer : List UInt8 := []
  productName : List UInt8 := []
  version : List UInt8 := []
  serialNumber : List UInt8 := []
  uuid : String := ""
  handle : UInt16
  deriving DecidableEq

/-- The texts of the system. -/
def parseStrings (dmiData buffer : List UInt8) (offset : Nat) (header : SMBIOSHeader)
    (info : SystemInfo) : Except Fault SystemInfo :=
  if 8 ≤ header.length.toNat then do
    let mfgIdx ← get buffer 4
    let prodIdx ← get buffer 5
    let verIdx ← get buffer 6
    let serialIdx ← get buffer 7
    let manufacturer ← getStringFromTable dmiData offset header.length mfgIdx
    let productName ← getStringFromTable dmiData offset header.length prodIdx
    let version ← getStringFromTable dmiData offset header.length verIdx
    let serialNumber ← getStringFromTable dmiData offset header.length serialIdx
    pure { info with
      manufacturer := manufacturer
      productName := productName
      version := version
      serialNumber := serialNumber }
  else pure info

/-- `%02x` of some bytes. -/
def hexBytes (bytes : List UInt8) : String :=
  String.join (bytes.map fun byte => hexField 2 byte.toUInt32)

def parseUuid (buffer : List UInt8) (header : SMBIOSHeader) (info : SystemInfo) :
    Except Fault SystemInfo :=
  if 25 ≤ header.length.toNat then do
    let uuidSpan ← subspanOf buffer 8 16
    let part1 ← subspanOf uuidSpan 0 4
    let part2 ← subspanOf uuidSpan 4 2
    let part3 ← subspanOf uuidSpan 6 2
    let part4 ← subspanOf uuidSpan 8 2
    let part5 ← subspanOf uuidSpan 10 6
    pure { info with
      uuid := hexBytes part1 ++ "-" ++ hexBytes part2 ++ "-" ++ hexBytes part3 ++ "-" ++
        hexBytes part4 ++ "-" ++ hexBytes part5 }
  else pure info

/-- The system, if the structure is long enough. -/
def parseSystemInfo (dmiData : List UInt8) (offset : Nat) : Except Fault (Option SystemInfo) := do
  if ← validateStructure dmiData offset 8 then
    let buffer ← subspan dmiData offset
    let header ← headerAt buffer 0
    let info ← parseStrings dmiData buffer offset header { handle := header.handle }
    let info ← parseUuid buffer header info
    pure (some info)
  else pure none

/-! ## The reader -/

/-- The table that was read, and whether that succeeded. -/
structure DmiReader where
  dmiData : List UInt8
  mIsValid : Bool

/-- The loop over the structures for slots. -/
def collectSlots (dmiData : List UInt8) :
    List (Nat × SMBIOSHeader) → Except Fault (List SlotInfo)
  | [] => pure []
  | (offset, header) :: structures =>
    if header.type = 9 then do
      let slotInfo ← parseSlot dmiData offset
      let slots ← collectSlots dmiData structures
      pure (slotInfo.toList ++ slots)
    else collectSlots dmiData structures

namespace DmiReader

/-- All slots of a table that is valid. -/
def getSlots (reader : DmiReader) : Except Fault (List SlotInfo) :=
  if reader.mIsValid then do
    let structures ← getStructureIterator reader.dmiData
    collectSlots reader.dmiData structures
  else pure []

/-- The system of a table that is valid. -/
def getSystemInfo (reader : DmiReader) : Except Fault (Option SystemInfo) :=
  if reader.mIsValid then do
    let structures ← getStructureIterator reader.dmiData
    match structures.find? fun entry => entry.2.type = 1 with
    | some entry => parseSystemInfo reader.dmiData entry.1
    | none => pure none
  else pure none

end DmiReader

/-! ## No fault -/

variable {dmiData buffer : List UInt8} {offset minSize : Nat} {header : SMBIOSHeader}

theorem headerAt_drop (dmiData : List UInt8) (offset : Nat) :
    headerAt (dmiData.drop offset) 0 = headerAt dmiData offset := by
  unfold headerAt
  simp only [get_drop, Nat.add_zero, Nat.zero_add]

theorem headerAt_ends (h : offset + sizeofHeader ≤ dmiData.length) :
    Ends (headerAt dmiData offset) fun _ => True := by
  have h4 : offset + 4 ≤ dmiData.length := h
  refine (ends_get (by omega)).bind fun type _ => ?_
  refine (ends_get (by omega)).bind fun length _ => ?_
  refine (ends_get (by omega)).bind fun low _ => ?_
  refine (ends_get (by omega)).bind fun high _ => ?_
  exact .pure trivial

/-- A structure of at least some size lies inside the table. -/
structure Inside (dmiData : List UInt8) (offset minSize : Nat) (header : SMBIOSHeader) : Prop where
  found : headerAt dmiData offset = .ok header
  header_le : sizeofHeader ≤ header.length.toNat
  le_length : offset + header.length.toNat ≤ dmiData.length
  minSize_le : minSize ≤ header.length.toNat

theorem validateStructure_ends (dmiData : List UInt8) (offset minSize : Nat) :
    Ends (validateStructure dmiData offset minSize) fun ok =>
      ok = true → ∃ header, Inside dmiData offset minSize header := by
  unfold validateStructure
  refine .ite (fun _ => .pure fun h => by cases h) fun hsize => ?_
  obtain ⟨header, hheader, -⟩ := headerAt_ends (Nat.le_of_not_lt hsize)
  rw [hheader]
  refine .pure fun hok => ?_
  obtain ⟨hmin, hend, hlength⟩ := of_decide_eq_true hok
  exact ⟨header, hheader, hmin, hend, hlength⟩

/-- The scan stays in the table. -/
theorem findDoubleNull_ends (remainingData : List UInt8) (turns i : Nat)
    (h : i + turns + 1 ≤ remainingData.length ∨ turns = 0) :
    Ends (findDoubleNull remainingData turns i) fun found =>
      ∀ j, found = some j → j + 1 < remainingData.length := by
  induction turns generalizing i with
  | zero => exact .pure fun j hj => by cases hj
  | succ turns ih =>
    have hlt : i + turns + 2 ≤ remainingData.length := by omega
    refine (ends_get (by omega)).bind fun first _ => (ends_get (by omega)).bind fun second _ => ?_
    refine .ite (fun _ => .pure fun j hj => ?_) fun _ => ih (i + 1) (.inl (by omega))
    obtain rfl := Option.some.inj hj
    omega

/-- **Step lemma.** The next structure, if there is one, begins behind this one. -/
theorem findNextStructure_ends (dmiData : List UInt8) (offset : Nat) :
    Ends (findNextStructure dmiData offset) fun next =>
      next ≠ 0 → offset < next ∧ next ≤ dmiData.length := by
  refine (validateStructure_ends dmiData offset sizeofHeader).bind fun ok hok => ?_
  refine .ite (fun htrue => ?_) fun _ => .pure fun h => absurd rfl h
  obtain ⟨header, hinside⟩ := hok htrue
  rw [hinside.found]
  refine (ends_subspan hinside.le_length).bind fun remainingData hremaining => ?_
  have hlength : remainingData.length = dmiData.length - (offset + header.length.toNat) := by
    rw [hremaining, List.length_drop]
  refine (findDoubleNull_ends remainingData _ 0 (by omega)).bind fun found hfound => ?_
  cases found with
  | none => exact .pure fun h => absurd rfl h
  | some i =>
    have hi := hfound i rfl
    exact .pure fun _ => by omega

/-- The structures that are found from an offset on. -/
def WellOrdered (dmiData : List UInt8) (offset : Nat) (structures : List (Nat × SMBIOSHeader)) : Prop :=
  (structures.map Prod.fst).Pairwise (· < ·) ∧
    ∀ entry ∈ structures, offset ≤ entry.1 ∧ Inside dmiData entry.1 sizeofHeader entry.2

theorem wellOrdered_nil (dmiData : List UInt8) (offset : Nat) : WellOrdered dmiData offset [] :=
  ⟨.nil, fun _ h => by cases h⟩

theorem WellOrdered.cons {next : Nat} {structures : List (Nat × SMBIOSHeader)}
    (h : WellOrdered dmiData next structures) (hnext : offset < next)
    (hinside : Inside dmiData offset sizeofHeader header) :
    WellOrdered dmiData offset ((offset, header) :: structures) := by
  obtain ⟨hsorted, hall⟩ := h
  refine ⟨?_, List.forall_mem_cons.mpr ⟨⟨Nat.le_refl _, hinside⟩, fun entry hentry => ?_⟩⟩
  · refine List.pairwise_cons.mpr ⟨fun start hstart => ?_, hsorted⟩
    obtain ⟨entry, hentry, rfl⟩ := List.mem_map.mp hstart
    exact hnext.trans_le (hall entry hentry).1
  · obtain ⟨hstart, hentry⟩ := hall entry hentry
    exact ⟨hnext.le.trans hstart, hentry⟩

/-- **Run lemma.** The loop ends, as each turn takes it further into the table. -/
theorem structuresFrom_ends (turns offset : Nat) (hoffset : offset ≤ dmiData.length)
    (hturns : dmiData.length < offset + turns) :
    Ends (structuresFrom dmiData turns offset) (WellOrdered dmiData offset) := by
  induction turns generalizing offset with
  | zero => exact absurd hoffset (Nat.not_le.mpr hturns)
  | succ turns ih =>
    rw [structuresFrom]
    refine .ite (fun _ => ?_) fun _ => .pure (wellOrdered_nil dmiData offset)
    refine (validateStructure_ends dmiData offset sizeofHeader).bind fun ok hok => ?_
    refine .ite (fun htrue => ?_) fun _ => .pure (wellOrdered_nil dmiData offset)
    obtain ⟨header, hinside⟩ := hok htrue
    rw [hinside.found]
    refine (findNextStructure_ends dmiData offset).bind fun next hnext => ?_
    refine .ite (fun _ => .pure ?_) fun hne => ?_
    · exact (wellOrdered_nil dmiData (offset + 1)).cons (Nat.lt_succ_self offset) hinside
    · obtain ⟨hlt, hle⟩ := hnext hne
      refine (ih next hle (by omega)).bind fun structures hstructures => ?_
      exact .pure (hstructures.cons hlt hinside)

theorem getStructureIterator_ends (dmiData : List UInt8) :
    Ends (getStructureIterator dmiData) (WellOrdered dmiData 0) :=
  structuresFrom_ends (dmiData.length + 1) 0 (Nat.zero_le _) (by omega)

theorem skipStrings_ends (stringArea : List UInt8) (count pos : Nat) (hpos : pos ≤ stringArea.length) :
    Ends (skipStrings stringArea count pos) fun found =>
      ∀ pos, found = some pos → pos ≤ stringArea.length := by
  induction count generalizing pos with
  | zero =>
    refine .pure fun found hfound => ?_
    obtain rfl := Option.some.inj hfound
    exact hpos
  | succ count ih =>
    refine (ends_subspan hpos).bind fun remainingArea _ => ?_
    refine .ite (fun _ => ?_) fun _ => .pure fun _ h => by cases h
    exact .ite (fun _ => .pure fun _ h => by cases h) fun hlt => ih _ (Nat.le_of_not_le hlt)

/-- It stays in the table too. -/
theorem getStringFromTable_ends (dmiData : List UInt8) (structureOffset : Nat)
    (structureLength stringIndex : UInt8) :
    Ends (getStringFromTable dmiData structureOffset structureLength stringIndex) fun _ => True := by
  refine .ite (fun _ => .pure trivial) fun _ => ?_
  refine .ite (fun _ => .pure trivial) fun hstart => ?_
  refine (ends_subspan (Nat.le_of_not_le hstart)).bind fun stringArea _ => ?_
  refine (skipStrings_ends stringArea _ 0 (Nat.zero_le _)).bind fun found hfound => ?_
  cases found with
  | none => exact .pure trivial
  | some pos =>
    refine (ends_subspan (hfound pos rfl)).bind fun targetArea _ => ?_
    refine (ends_subspanOf ?_).mono fun _ _ => trivial
    have := targetArea.idxOf_le_length (a := 0)
    omega

section Slots

theorem readByte_ends (h : offset + 1 ≤ buffer.length) : Ends (readByte buffer offset) fun _ => True :=
  .ite (fun hshort => absurd h (Nat.not_le.mpr hshort)) fun _ => ends_get h

theorem readWord_ends (h : offset + 2 ≤ buffer.length) : Ends (readWord buffer offset) fun _ => True := by
  refine .ite (fun hshort => absurd h (Nat.not_le.mpr hshort)) fun _ => ?_
  refine (ends_get (by omega)).bind fun low _ => (ends_get (by omega)).bind fun high _ => ?_
  exact .pure trivial

theorem tryReadBusAddress_ends {segOff busOff dfOff : Nat} (hseg : segOff + 2 ≤ buffer.length)
    (hbus : busOff + 1 ≤ buffer.length) (hdf : dfOff + 1 ≤ buffer.length) :
    Ends (tryReadBusAddress buffer segOff busOff dfOff) fun _ => True := by
  refine (readWord_ends hseg).bind fun seg _ => ?_
  refine (readByte_ends hbus).bind fun busNum _ => ?_
  exact (readByte_ends hdf).bind fun df _ => .pure trivial

theorem readBusAddress_ends (h : 17 ≤ buffer.length) : Ends (readBusAddress buffer) fun _ => True := by
  refine (tryReadBusAddress_ends (by omega) (by omega) (by omega)).bind fun result _ => ?_
  cases result with
  | some result => exact .pure trivial
  | none => exact tryReadBusAddress_ends (by omega) (by omega) (by omega)

variable (hbuffer : header.length.toNat ≤ buffer.length)
include hbuffer

theorem parseDesignation_ends (dmiData : List UInt8) (offset : Nat) (slot : SlotInfo) :
    Ends (parseDesignation dmiData buffer offset header slot) fun _ => True := by
  refine .ite (fun hlength => ?_) fun _ => .pure trivial
  refine (ends_get (by omega)).bind fun designationIdx _ => ?_
  refine (ends_get (by omega)).bind fun slotType _ => ?_
  exact (getStringFromTable_ends _ _ _ _).bind fun designation _ => .pure trivial

theorem parseUsage_ends (slot : SlotInfo) : Ends (parseUsage buffer header slot) fun _ => True := by
  refine .ite (fun hlength => ?_) fun _ => .pure trivial
  exact (ends_get (by omega)).bind fun usage _ => .pure trivial

theorem parseBusAddress_ends (slot : SlotInfo) :
    Ends (parseBusAddress buffer header slot) fun _ => True := by
  refine .ite (fun hlength => ?_) fun _ => .pure trivial
  refine (readBusAddress_ends (by omega)).bind fun result _ => ?_
  cases result with
  | some result => exact .pure trivial
  | none => exact .pure trivial

theorem parseStrings_ends (dmiData : List UInt8) (offset : Nat) (info : SystemInfo) :
    Ends (parseStrings dmiData buffer offset header info) fun _ => True := by
  refine .ite (fun hlength => ?_) fun _ => .pure trivial
  refine (ends_get (by omega)).bind fun mfgIdx _ => (ends_get (by omega)).bind fun prodIdx _ => ?_
  refine (ends_get (by omega)).bind fun verIdx _ => (ends_get (by omega)).bind fun serialIdx _ => ?_
  refine (getStringFromTable_ends _ _ _ _).bind fun manufacturer _ => ?_
  refine (getStringFromTable_ends _ _ _ _).bind fun productName _ => ?_
  refine (getStringFromTable_ends _ _ _ _).bind fun version _ => ?_
  exact (getStringFromTable_ends _ _ _ _).bind fun serialNumber _ => .pure trivial

theorem parseUuid_ends (info : SystemInfo) : Ends (parseUuid buffer header info) fun _ => True := by
  refine .ite (fun hlength => ?_) fun _ => .pure trivial
  refine (ends_subspanOf (by omega)).bind fun uuidSpan huuid => ?_
  refine (ends_subspanOf (by omega)).bind fun part1 _ => ?_
  refine (ends_subspanOf (by omega)).bind fun part2 _ => ?_
  refine (ends_subspanOf (by omega)).bind fun part3 _ => ?_
  refine (ends_subspanOf (by omega)).bind fun part4 _ => ?_
  exact (ends_subspanOf (by omega)).bind fun part5 _ => .pure trivial

end Slots

/-- The part of the table from a structure on, and the header at its beginning. -/
theorem Inside.rest (h : Inside dmiData offset minSize header) :
    subspan dmiData offset = .ok (dmiData.drop offset) ∧
      headerAt (dmiData.drop offset) 0 = .ok header ∧
      header.length.toNat ≤ (dmiData.drop offset).length := by
  have hle := h.le_length
  refine ⟨subspan_eq (by omega), (headerAt_drop dmiData offset).trans h.found, ?_⟩
  rw [List.length_drop]
  omega

theorem parseSlot_ends (dmiData : List UInt8) (offset : Nat) :
    Ends (parseSlot dmiData offset) fun _ => True := by
  refine (validateStructure_ends dmiData offset 12).bind fun ok hok => ?_
  refine .ite (fun htrue => ?_) fun _ => .pure trivial
  obtain ⟨header, hinside⟩ := hok htrue
  obtain ⟨hsubspan, hheader, hbuffer⟩ := hinside.rest
  refine (Ends.bind ⟨_, hsubspan, rfl⟩ fun buffer hb => ?_)
  subst hb
  rw [hheader]
  refine (parseDesignation_ends hbuffer dmiData offset _).bind fun slot _ => ?_
  refine (parseUsage_ends hbuffer slot).bind fun slot _ => ?_
  exact (parseBusAddress_ends hbuffer slot).bind fun slot _ => .pure trivial

theorem parseSystemInfo_ends (dmiData : List UInt8) (offset : Nat) :
    Ends (parseSystemInfo dmiData offset) fun _ => True := by
  refine (validateStructure_ends dmiData offset 8).bind fun ok hok => ?_
  refine .ite (fun htrue => ?_) fun _ => .pure trivial
  obtain ⟨header, hinside⟩ := hok htrue
  obtain ⟨hsubspan, hheader, hbuffer⟩ := hinside.rest
  refine (Ends.bind ⟨_, hsubspan, rfl⟩ fun buffer hb => ?_)
  subst hb
  rw [hheader]
  refine (parseStrings_ends hbuffer dmiData offset _).bind fun info _ => ?_
  exact (parseUuid_ends hbuffer info).bind fun info _ => .pure trivial

theorem collectSlots_ends (dmiData : List UInt8) (structures : List (Nat × SMBIOSHeader)) :
    Ends (collectSlots dmiData structures) fun _ => True := by
  induction structures with
  | nil => exact .pure trivial
  | cons entry structures ih =>
    refine .ite (fun _ => ?_) fun _ => ih
    refine (parseSlot_ends dmiData entry.1).bind fun slotInfo _ => ?_
    exact ih.bind fun slots _ => .pure trivial

theorem DmiReader.getSlots_ends (reader : DmiReader) : Ends reader.getSlots fun _ => True := by
  refine .ite (fun _ => ?_) fun _ => .pure trivial
  exact (getStructureIterator_ends reader.dmiData).bind fun structures _ => collectSlots_ends _ _

theorem DmiReader.getSystemInfo_ends (reader : DmiReader) :
    Ends reader.getSystemInfo fun _ => True := by
  refine .ite (fun _ => ?_) fun _ => .pure trivial
  refine (getStructureIterator_ends reader.dmiData).bind fun structures _ => ?_
  cases structures.find? fun entry => entry.2.type = 1 with
  | some entry => exact parseSystemInfo_ends _ _
  | none => exact .pure trivial

/-- **The reader is safe.** Whatever bytes the table has, the walk over its structures ends, at offsets
that get larger, with structures inside the table; and reading the slots and the system information
meets no access outside the table and throws nothing. -/
theorem dmiReader_safe (reader : DmiReader) :
    (∃ structures, getStructureIterator reader.dmiData = .ok structures ∧
      (structures.map Prod.fst).Pairwise (· < ·) ∧
      ∀ entry ∈ structures, headerAt reader.dmiData entry.1 = .ok entry.2 ∧
        sizeofHeader ≤ entry.2.length.toNat ∧
        entry.1 + entry.2.length.toNat ≤ reader.dmiData.length) ∧
    (∃ slots, reader.getSlots = .ok slots) ∧
    ∃ info, reader.getSystemInfo = .ok info := by
  obtain ⟨structures, hstructures, hsorted, hall⟩ := getStructureIterator_ends reader.dmiData
  obtain ⟨slots, hslots, -⟩ := reader.getSlots_ends
  obtain ⟨info, hinfo, -⟩ := reader.getSystemInfo_ends
  refine ⟨⟨structures, hstructures, hsorted, fun entry hentry => ?_⟩, ⟨slots, hslots⟩, ⟨info, hinfo⟩⟩
  have hinside := (hall entry hentry).2
  exact ⟨hinside.found, hinside.header_le, hinside.le_length⟩

end XpuManager
