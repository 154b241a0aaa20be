import XpuManager.Lib.Zoom
import XpuManager.Amc.FileTransfer
import XpuManager.Amc.Platform

/-! # The PDR manager and the sensor queries

The records of a `pldm` object as sensors and files, the caches of sensors by their unit, and the
queries over both. The caches hold addresses of records, so an object also knows which storage its
records lie in: whatever changes `mPdrs` may move them. -/

namespace XpuManager

open Prog

abbrev pldmNumericSensorPdr : UInt8 := 2
abbrev pldmFileDescriptorPdr : UInt8 := 30

abbrev pldmUnitDegreesC : UInt8 := 0x02
abbrev pldmUnitVolts : UInt8 := 0x05
abbrev pldmUnitCurrentAmps : UInt8 := 0x06
abbrev pldmUnitWatts : UInt8 := 0x07

/-- `sizeof(pldmNumericSensorValuePdr)`. -/
abbrev numericSensorPdrSize : Nat := 105

/-- `sizeof(pldmFileDescriptorPdr) - 1`. -/
abbrev minFilePdrSize : Nat := 36

/-- The size of a GetSensorReading request: both headers and the request structure. -/
abbrev getSensorReadingSize : UInt8 := 15

/-! ## Records -/

/-- `header.type` of a record. -/
def pdrType (record : Bytes) : UInt8 := record.getD 5 0

/-- A number in a record, which has it. -/
def pdrField (record : Bytes) (off len : Nat) : Nat := ofLeBytes ((record.drop off).take len)

/-- `baseUnit` of a numeric sensor record. -/
def baseUnit (record : Bytes) : UInt8 := record.getD 22 0

/-- `pldmSensorInfo`, with `ρ` for `double`. -/
structure PldmSensorInfo (ρ : Type) where
  sensorId : UInt16
  entityType : UInt16
  entityInstanceNum : UInt16
  containerId : UInt16
  reading : ρ
  deriving DecidableEq

/-- The address of a record: the storage of `mPdrs` that it lies in, and its index there. -/
structure PdrPtr where
  storage : Nat
  index : Nat
  deriving DecidableEq

/-- A `pldm` object with the caches of its `PdrManager` and its readings. -/
structure PldmObject (ρ : Type) where
  pldm : Pldm
  /-- The storage that the records of `mPdrs` lie in. -/
  storage : Nat
  mTempSensors : List PdrPtr
  mVoltageSensors : List PdrPtr
  mCurrentSensors : List PdrPtr
  mPowerSensors : List PdrPtr
  mSensorInfoList : List (PldmSensorInfo ρ)
  /-- The records that were read as a `pldmNumericSensorValuePdr`, in order. -/
  sensorCasts : List Bytes

variable {ρ : Type}

/-- The object with another `Pldm` part; a change of `mPdrs` may move the records. -/
def PldmObject.withPldm (p : Pldm) (s : PldmObject ρ) : PldmObject ρ :=
  { s with
    pldm := p
    storage := if p.pf.mPdrs = s.pldm.pf.mPdrs then s.storage else s.storage + 1 }

/-- A program on the `Pldm` part. -/
def onPldm {α : Type} (m : Prog Pldm α) : Prog (PldmObject ρ) α :=
  zoom PldmObject.pldm PldmObject.withPldm m

/-- A number in a record; past its end is undefined behaviour. -/
def readField (record : Bytes) (off len : Nat) : Prog (PldmObject ρ) Nat :=
  if off + len ≤ record.length then pure (pdrField record off len) else Prog.fault

/-- `reinterpret_cast<const pldmNumericSensorValuePdr *>(record.data.data())`. -/
def castSensor (record : Bytes) : Prog (PldmObject ρ) Unit :=
  Prog.modify fun s => { s with sensorCasts := s.sensorCasts ++ [record] }

/-! ## The manager -/

/-- The caches, emptied. -/
def PldmObject.withoutCaches (s : PldmObject ρ) : PldmObject ρ :=
  { s with mTempSensors := [], mVoltageSensors := [], mCurrentSensors := [], mPowerSensors := [] }

/-- `PdrManager::clear`. -/
def pdrManagerClear : Prog (PldmObject ρ) Unit := do
  onPldm clearPdrs
  Prog.modify PldmObject.withoutCaches

/-- `PdrManager::getSensorRecords`. -/
def PldmObject.getSensorRecords (s : PldmObject ρ) (unit : UInt8) : List PdrPtr :=
  if unit = pldmUnitDegreesC then s.mTempSensors
  else if unit = pldmUnitVolts then s.mVoltageSensors
  else if unit = pldmUnitCurrentAmps then s.mCurrentSensors
  else if unit = pldmUnitWatts then s.mPowerSensors
  else []

/-- One turn of the loop of `buildSensorCache`, for a record and its index. -/
def cacheSensor (s : PldmObject ρ) (entry : Bytes × Nat) : PldmObject ρ :=
  if pdrType entry.1 ≠ pldmNumericSensorPdr then s
  else if entry.1.length < numericSensorPdrSize then s
  else
    let s := { s with sensorCasts := s.sensorCasts ++ [entry.1] }
    let ptr : PdrPtr := ⟨s.storage, entry.2⟩
    if baseUnit entry.1 = pldmUnitDegreesC then
      { s with mTempSensors := s.mTempSensors ++ [ptr] }
    else if baseUnit entry.1 = pldmUnitVolts then
      { s with mVoltageSensors := s.mVoltageSensors ++ [ptr] }
    else if baseUnit entry.1 = pldmUnitCurrentAmps then
      { s with mCurrentSensors := s.mCurrentSensors ++ [ptr] }
    else if baseUnit entry.1 = pldmUnitWatts then
      { s with mPowerSensors := s.mPowerSensors ++ [ptr] }
    else s

/-- `PdrManager::buildSensorCache`. -/
def buildSensorCache : Prog (PldmObject ρ) Unit :=
  Prog.modify fun s => s.pldm.pf.mPdrs.zipIdx.foldl cacheSensor s.withoutCaches

/-- The record at an address; an address into another storage is undefined behaviour. -/
def followPtr (ptr : PdrPtr) : Prog (PldmObject ρ) Bytes := do
  let s ← Prog.get
  Prog.ofOption (if ptr.storage = s.storage then s.pldm.pf.mPdrs[ptr.index]? else none)

/-! ## Readings -/

/-- The arithmetic of `double`, which is left open. -/
structure DoubleArith (ρ : Type) where
  /-- An integer as a `double`. -/
  ofInt : Int → ρ
  /-- The `real32_t` with these bits. -/
  ofFloat : UInt32 → ρ
  add : ρ → ρ → ρ
  mul : ρ → ρ → ρ
  /-- `std::pow(10, n)`. -/
  pow10 : Int → ρ

/-- The number in `mSensorReading`, by its `sensorDataSize`. -/
def sensorReadingValue (sensorDataSize : UInt8) (data : Buf 4) : Option Int :=
  let low : UInt16 := UInt16.ofNat (ofLeBytes (data.slice 0 2))
  let word : UInt32 := UInt32.ofNat (ofLeBytes (data.slice 0 4))
  if sensorDataSize = 0 then some (data.byte 0).toNat
  else if sensorDataSize = 1 then some (data.byte 0).toInt8.toInt
  else if sensorDataSize = 2 then some low.toNat
  else if sensorDataSize = 3 then some low.toInt16.toInt
  else if sensorDataSize = 4 then some word.toNat
  else if sensorDataSize = 5 then some word.toInt32.toInt
  else none

/-- `PdrManager::convertReading`. -/
def convertReading (arith : DoubleArith ρ) (sensor : Bytes) (sensorDataSize : UInt8) (data : Buf 4) :
    Prog (PldmObject ρ) (Option ρ) := do
  let resolution ← readField sensor 33 4
  let offset ← readField sensor 37 4
  let unitModifier ← readField sensor 23 1
  pure <| (sensorReadingValue sensorDataSize data).map fun raw =>
    arith.mul
      (arith.add (arith.mul (arith.ofInt raw) (arith.ofFloat (UInt32.ofNat resolution)))
        (arith.ofFloat (UInt32.ofNat offset)))
      (arith.pow10 (UInt8.ofNat unitModifier).toInt8.toInt)

/-- The entry of `mSensorInfoList` for a reading of a sensor. -/
def pushSensorInfo (sensor : Bytes) (reading : ρ) : Prog (PldmObject ρ) Unit := do
  let sensorId ← readField sensor 12 2
  let entityType ← readField sensor 14 2
  let entityInstanceNum ← readField sensor 16 2
  let containerId ← readField sensor 18 2
  Prog.modify fun s => { s with mSensorInfoList := s.mSensorInfoList ++
    [⟨UInt16.ofNat sensorId, UInt16.ofNat entityType, UInt16.ofNat entityInstanceNum,
      UInt16.ofNat containerId, reading⟩] }

/-- `pfGetSensorValue`. -/
def pfGetSensorValue (arith : DoubleArith ρ) (fuel : Nat) (sensor : Bytes) :
    Prog (PldmObject ρ) UInt8 := do
  let sensorId ← readField sensor 12 2
  onPldm (modifyPf fun pf => { pf with sensorId := UInt16.ofNat sensorId, rearmEventState := 0 })
  let ret ← onPldm (pfMonCtrlCmd fuel pldmGetSensorReading getSensorReadingSize)
  if ret ≠ pldmSuccess then pure pldmError
  else do
    let s ← Prog.get
    let value ← convertReading arith sensor s.pldm.pf.sensorDataSize s.pldm.pf.sensorReading
    match value with
    | none => pure pldmError
    | some value => do
        pushSensorInfo sensor value
        pure pldmSuccess

/-- One turn of the loop of `pfGetSensorValuesById`. -/
def sensorByIdTurn (arith : DoubleArith ρ) (fuel : Nat) (sensorId : UInt16) (record : Bytes)
    (_ : Unit) : Prog (PldmObject ρ) (UInt8 ⊕ Unit) := do
  castSensor record
  let id ← readField record 12 2
  if id ≠ sensorId.toNat then pure (.inr ())
  else do
    let ret ← pfGetSensorValue arith fuel record
    pure (.inl ret)

/-- `pfGetSensorValuesById`. -/
def pfGetSensorValuesById (arith : DoubleArith ρ) (fuel : Nat) (sensorId : UInt16) :
    Prog (PldmObject ρ) UInt8 := do
  let s ← Prog.get
  let ret ← Prog.forEach (sensorByIdTurn arith fuel sensorId) s.pldm.pf.mPdrs ()
  match ret with
  | .inl ret => pure ret
  | .inr () => pure pldmError

/-- One turn of the loop of `pfGetSensorValuesByUnit`, which goes on whatever the reading does. -/
def sensorByUnitTurn (arith : DoubleArith ρ) (fuel : Nat) (ptr : PdrPtr) (_ : Unit) :
    Prog (PldmObject ρ) (UInt8 ⊕ Unit) := do
  let record ← followPtr ptr
  castSensor record
  let _ ← pfGetSensorValue arith fuel record
  pure (.inr ())

/-- `pfGetSensorValuesByUnit`. -/
def pfGetSensorValuesByUnit (arith : DoubleArith ρ) (fuel : Nat) (unit : UInt8) :
    Prog (PldmObject ρ) UInt8 := do
  let s ← Prog.get
  if s.getSensorRecords unit = [] then pure pldmError
  else do
    let ret ← Prog.forEach (sensorByUnitTurn arith fuel) (s.getSensorRecords unit) ()
    match ret with
    | .inl ret => pure ret
    | .inr () => pure pldmSuccess

/-! ## The public calls -/

/-- `pfGetTotalPdrs`, whose records `XpuManager.pfGetTotalPdrs` receives. -/
def PldmObject.pfGetTotalPdrs (fuel : Nat) : Prog (PldmObject ρ) UInt8 := do
  pdrManagerClear
  onPldm (XpuManager.pfGetTotalPdrs fuel)

/-- `pfMonCtrlInitialize`. -/
def PldmObject.pfMonCtrlInitialize (fuel : Nat) : Prog (PldmObject ρ) UInt8 :=
  chain pldmSuccess (onPldm (pfGetPdrRepositoryInfo fuel)) (PldmObject.pfGetTotalPdrs fuel)

/-- `getSensorInfoById`. -/
def getSensorInfoById (arith : DoubleArith ρ) (fuel : Nat) (sensorId : UInt16) :
    Prog (PldmObject ρ) UInt8 := do
  let ret ← PldmObject.pfMonCtrlInitialize fuel
  if ret ≠ pldmSuccess then pure pldmError
  else do
    let ret ← pfGetSensorValuesById arith fuel sensorId
    pure (if ret ≠ pldmSuccess then pldmError else pldmSuccess)

/-- `getSensorInfoByUnit`. -/
def getSensorInfoByUnit (arith : DoubleArith ρ) (fuel : Nat) (unit : UInt8) :
    Prog (PldmObject ρ) UInt8 := do
  let ret ← PldmObject.pfMonCtrlInitialize fuel
  if ret ≠ pldmSuccess then pure pldmError
  else do
    buildSensorCache
    let ret ← pfGetSensorValuesByUnit arith fuel unit
    pure (if ret ≠ pldmSuccess then pldmError else pldmSuccess)

/-- `getFilePdrById`. -/
def PldmObject.getFilePdrById (s : PldmObject ρ) (filePdrId : UInt16) : Option Bytes :=
  s.pldm.pf.mPdrs.find? fun record => pdrType record = pldmFileDescriptorPdr ∧
    minFilePdrSize ≤ record.length ∧ pdrField record 12 2 = filePdrId.toNat

/-- `getFile`; the result is paired with `fileData` as it is left. -/
def getFile (fuel : Nat) (filePdrId : UInt16) (fileData : Bytes) :
    Prog (PldmObject ρ) (UInt8 × Bytes) := do
  let ret ← PldmObject.pfMonCtrlInitialize fuel
  if ret ≠ pldmSuccess then pure (ret, fileData)
  else do
    let s ← Prog.get
    match s.getFilePdrById filePdrId with
    | none => pure (pldmError, fileData)
    | some filePdr => do
        let opened ← onPldm (pldmDfOpenCommand fuel (UInt16.ofNat (pdrField filePdr 12 2)) 0)
        if opened.1 ≠ pldmSuccess then pure (opened.1, fileData)
        else do
          let received ← onPldm (pldmMultipartReceiveCommand fuel opened.2 [])
          let closeRet ← onPldm (pldmDfCloseCommand fuel opened.2)
          pure (if closeRet ≠ pldmSuccess ∧ received.1 = pldmSuccess then closeRet else received.1,
            received.2)

/-- `amcSensorInfo`. -/
structure AmcSensorInfo (ρ : Type) where
  sensorId : UInt16
  sensorReading : ρ
  deriving DecidableEq

/-- The entry of a reading in what `amcGetSensorInfoBySensorId` returns. -/
def PldmSensorInfo.amc (info : PldmSensorInfo ρ) : AmcSensorInfo ρ := ⟨info.sensorId, info.reading⟩

abbrev amcSuccess : Int := 0
abbrev amcError : Int := 1

/-- `amcGetSensorInfoBySensorId` on the card of the object; the result is paired with `sensorInfo` as
it is left. -/
def amcGetSensorInfoBySensorId (arith : DoubleArith ρ) (fuel : Nat) (sensorId : UInt16)
    (sensorInfo : List (AmcSensorInfo ρ)) : Prog (PldmObject ρ) (Int × List (AmcSensorInfo ρ)) := do
  let ret ← getSensorInfoById arith fuel sensorId
  if ret ≠ pldmSuccess then pure (amcError, sensorInfo)
  else do
    let s ← Prog.get
    pure (amcSuccess, sensorInfo ++
      (s.mSensorInfoList.filter fun info => info.sensorId = sensorId).map PldmSensorInfo.amc)

end XpuManager
