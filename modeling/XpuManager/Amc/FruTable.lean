import XpuManager.Amc.Fru

/-! # The fields of the FRU record table

`parseFruTable`: the record sets of the table and what their fields leave in `mFruTable`. The state
of a run is `mFruTable`. -/

namespace XpuManager

open Prog

/-! ## `mFruTable` -/

abbrev fruRecordTypeGeneral : UInt8 := 0x01
abbrev fruRecordTypeOem : UInt8 := 0xFE

abbrev fruRecordEncodingTypeUtf16 : UInt8 := 0x02

abbrev fruGeneralFieldTypeManufacturerDate : UInt8 := 0x06
abbrev fruGeneralFieldTypeOtherInformation : UInt8 := 0x0E
abbrev fruGeneralFieldTypeVendorIana : UInt8 := 0x0F

abbrev fruOemFieldTypeVendorIana : UInt8 := 0x01
abbrev fruOemFieldTypeSlaveAddress : UInt8 := 0x02
abbrev fruOemFieldTypeSmbusFrequency : UInt8 := 0x03
abbrev fruOemFieldTypeHardwareArbitrationOptIn : UInt8 := 0x04

abbrev fruDataMaxLength : Nat := 255
abbrev fruMaxOtherInfoRecords : Nat := 10

/-- The general fields that hold one text. -/
inductive GeneralText where
  | chassisType | model | partNum | serialNum | manufacturer | vendor | name | sku | version
  | assetTag | desc | engChangeLevel | sparePartNum
  deriving DecidableEq

namespace GeneralText

/-- `fruGeneralRecordFields`. -/
def fieldType : GeneralText → UInt8
  | chassisType => 0x01
  | model => 0x02
  | partNum => 0x03
  | serialNum => 0x04
  | manufacturer => 0x05
  | vendor => 0x07
  | name => 0x08
  | sku => 0x09
  | version => 0x0A
  | assetTag => 0x0B
  | desc => 0x0C
  | engChangeLevel => 0x0D
  | sparePartNum => 0x10

/-- All of them, in the order of the switch. -/
def all : List GeneralText :=
  [chassisType, model, partNum, serialNum, manufacturer, vendor, name, sku, version, assetTag, desc,
    engChangeLevel, sparePartNum]

/-- The text field of a field type. -/
def ofFieldType (fieldType : UInt8) : Option GeneralText :=
  all.find? fun τ => τ.fieldType = fieldType

theorem ofFieldType_eq_some_iff {fieldType : UInt8} {τ : GeneralText} :
    ofFieldType fieldType = some τ ↔ fieldType = τ.fieldType := by
  constructor
  · intro h
    have hfind := List.find?_some h
    exact (of_decide_eq_true hfind).symm
  · rintro rfl
    cases τ <;> decide

end GeneralText

/-- `timestamp104_t`, without the two resolutions, which nothing sets. -/
structure Timestamp104 where
  utcOffset : Int16
  microsecond : Bytes
  second : UInt8
  minute : UInt8
  hour : UInt8
  day : UInt8
  month : UInt8
  year : UInt16
  deriving Inhabited

/-- `fruTable`; `text` are the arrays `genChassisType`, `genModel` and so on. -/
structure FruTable where
  text : GeneralText → Buf fruDataMaxLength
  genManufacturerDate : Timestamp104
  genOtherInfo : Fin fruMaxOtherInfoRecords → Buf fruDataMaxLength
  genOtherInfoCount : UInt8
  genVendorIana : UInt32
  oemVendorIana : UInt32
  oemSlaveAddr : UInt8
  oemSmbusFreq : UInt16
  oemHWArbitrationOptIn : UInt16

/-- `clearFruTableData`. -/
def FruTable.cleared : FruTable where
  text := fun _ => Buf.zero _
  genManufacturerDate := ⟨0, [0, 0, 0], 0, 0, 0, 0, 0, 0⟩
  genOtherInfo := fun _ => Buf.zero _
  genOtherInfoCount := 0
  genVendorIana := 0
  oemVendorIana := 0
  oemSlaveAddr := 0
  oemSmbusFreq := 0
  oemHWArbitrationOptIn := 0

/-! ## C strings -/

/-- The C string at the start of some bytes. -/
def cString (bs : Bytes) : Bytes := bs.takeWhile (· ≠ 0)

/-- `STRNCPY_S(dest, src, sz)` is `snprintf(dest, sz, "%s", src)`: at most `sz - 1` characters and
the terminator are written, and nothing at all when `sz` is 0. -/
def strncpyS {n : Nat} (dest : Buf n) (src : Bytes) (sz : Nat) : Buf n :=
  if sz = 0 then dest else dest.overlay 0 ((cString src).take (sz - 1) ++ [0])

/-- `safeLength`. -/
def safeLength (decodedText : Bytes) : Nat :=
  if decodedText.length < fruDataMaxLength - 1 then decodedText.length else fruDataMaxLength - 1

/-- What all text branches do: `STRNCPY_S` and a terminator at `safeLength`. -/
def storeText (dest : Buf fruDataMaxLength) (decodedText : Bytes) : Buf fruDataMaxLength :=
  (strncpyS dest decodedText (safeLength decodedText)).setByte (safeLength decodedText) 0

/-! ## Decoding -/

/-- One UTF-16 code unit; what is not ASCII becomes a question mark. -/
def utf16Char (low high : UInt8) : UInt8 := if low.toNat + 256 * high.toNat < 128 then low else 63

/-- The turn of the loop over UTF-16 text; the index has 8 bits. -/
def utf16Turn (fieldData : Bytes) : UInt8 × Bytes → Prog FruTable ((UInt8 × Bytes) ⊕ Bytes)
  | (i, decodedText) =>
    if i.toNat < fieldData.length then
      if i.toNat + 1 < fieldData.length then
        pure (.inl (i + 2, decodedText ++
          [utf16Char (fieldData.getD i.toNat 0) (fieldData.getD (i.toNat + 1) 0)]))
      else pure (.inl (i + 2, decodedText))
    else pure (.inr decodedText)

/-- The text of a field. -/
def decodeText (fuel : Nat) (encodingType : UInt8) (fieldData : Bytes) : Prog FruTable Bytes :=
  if encodingType = fruRecordEncodingTypeUtf16 then Prog.loop (utf16Turn fieldData) fuel (0, [])
  else pure fieldData

/-! ## Fields -/

/-- `parseTimestamp104` on a timestamp of the right length; another one is cleared. -/
def parseTimestamp104 (data : Bytes) : Timestamp104 :=
  if data.length ≠ 13 then ⟨0, [0, 0, 0], 0, 0, 0, 0, 0, 0⟩
  else
    { utcOffset := Int16.ofNat (ofLeBytes (data.take 2))
      microsecond := [data.getD 4 0, data.getD 3 0, data.getD 2 0]
      second := data.getD 5 0
      minute := data.getD 6 0
      hour := data.getD 7 0
      day := data.getD 8 0
      month := data.getD 9 0
      year := UInt16.ofNat (ofLeBytes ((data.drop 10).take 2)) }

/-- `memcpy` of at most `k` bytes over a number of `k` bytes. -/
def copyNumber (k : Nat) (old : Nat) (data : Bytes) : Nat :=
  ofLeBytes (data.take k ++ (leBytes k old).drop (data.take k).length)

/-- Other information goes to the next entry, if there is one. -/
def FruTable.addOtherInfo (t : FruTable) (decodedText : Bytes) : FruTable :=
  if h : t.genOtherInfoCount.toNat < fruMaxOtherInfoRecords then
    { t with
      genOtherInfo := fun i => if i = ⟨t.genOtherInfoCount.toNat, h⟩ then
        storeText (t.genOtherInfo i) decodedText else t.genOtherInfo i
      genOtherInfoCount := t.genOtherInfoCount + 1 }
  else t

/-- A text field gets its text. -/
def FruTable.setText (t : FruTable) (τ : GeneralText) (decodedText : Bytes) : FruTable :=
  { t with text := fun τ' => if τ' = τ then storeText (t.text τ') decodedText else t.text τ' }

/-- The fields of a general record. -/
def parseGeneralField (fieldType : UInt8) (fieldData decodedText : Bytes) : Prog FruTable UInt8 :=
  match GeneralText.ofFieldType fieldType with
  | some τ => do
      Prog.modify fun t => t.setText τ decodedText
      pure pldmSuccess
  | none =>
    if fieldType = fruGeneralFieldTypeManufacturerDate then do
      Prog.modify fun t => { t with genManufacturerDate := parseTimestamp104 fieldData }
      pure pldmSuccess
    else if fieldType = fruGeneralFieldTypeOtherInformation then do
      Prog.modify fun t => t.addOtherInfo decodedText
      pure pldmSuccess
    else if fieldType = fruGeneralFieldTypeVendorIana then do
      Prog.modify fun t => { t with
        genVendorIana := UInt32.ofNat (copyNumber 4 t.genVendorIana.toNat fieldData) }
      pure pldmSuccess
    else pure pldmError

/-- The fields of an OEM record. -/
def parseOemField (fieldType : UInt8) (fieldData : Bytes) : Prog FruTable UInt8 :=
  if fieldType = fruOemFieldTypeVendorIana then do
    Prog.modify fun t => { t with
      oemVendorIana := UInt32.ofNat (copyNumber 4 t.oemVendorIana.toNat fieldData) }
    pure pldmSuccess
  else if fieldType = fruOemFieldTypeSlaveAddress then do
    Prog.modify fun t => { t with
      oemSlaveAddr := UInt8.ofNat (copyNumber 1 t.oemSlaveAddr.toNat fieldData) }
    pure pldmSuccess
  else if fieldType = fruOemFieldTypeSmbusFrequency then do
    Prog.modify fun t => { t with
      oemSmbusFreq := UInt16.ofNat (copyNumber 2 t.oemSmbusFreq.toNat fieldData) }
    pure pldmSuccess
  else if fieldType = fruOemFieldTypeHardwareArbitrationOptIn then do
    Prog.modify fun t => { t with
      oemHWArbitrationOptIn := UInt16.ofNat (copyNumber 2 t.oemHWArbitrationOptIn.toNat fieldData) }
    pure pldmSuccess
  else pure pldmError

/-- `parseFruField`. -/
def parseFruField (fuel : Nat) (fieldData : Bytes) (fieldType recordType encodingType : UInt8) :
    Prog FruTable UInt8 :=
  if fieldData = [] then pure pldmSuccess
  else do
    let decodedText ← decodeText fuel encodingType fieldData
    if recordType = fruRecordTypeGeneral then parseGeneralField fieldType fieldData decodedText
    else if recordType = fruRecordTypeOem then parseOemField fieldType fieldData
    else pure pldmError

/-! ## Record sets -/

/-- The loop over the fields of a record: the bytes behind them, or `none` where the data ends too
early. The status of a field is only logged. -/
def parseFields (fuel : Nat) (recordType encodingType : UInt8) :
    Nat → Bytes → Prog FruTable (Option Bytes)
  | 0, rest => pure (some rest)
  | n + 1, fieldType :: fieldLength :: rest =>
    if rest.length < fieldLength.toNat then pure none
    else do
      let _ ← parseFruField fuel (rest.take fieldLength.toNat) fieldType recordType encodingType
      parseFields fuel recordType encodingType n (rest.drop fieldLength.toNat)
  | _ + 1, _ => pure none

/-- The turn of the loop over record sets. -/
def parseRecordSet (fuel : Nat) : Bytes → Prog FruTable (Bytes ⊕ UInt8)
  | _ :: _ :: recordType :: numberOfFruFields :: encodingType :: rest => do
      match ← parseFields fuel recordType encodingType numberOfFruFields.toNat rest with
      | none => pure (.inr pldmError)
      | some rest => pure (.inl rest)
  -- the end of the data, or not enough of it for a header
  | _ => pure (.inr pldmSuccess)

/-- `parseFruTable`. -/
def parseFruTable (fuel : Nat) (fruData : Bytes) : Prog FruTable UInt8 :=
  if fruData = [] then pure pldmError
  else do
    Prog.modify fun _ => FruTable.cleared
    Prog.loop (parseRecordSet fuel) fuel fruData

end XpuManager
