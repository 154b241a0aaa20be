import XpuManager.Amc.Exchange

/-! # Platform monitoring and control

The platform family of a `pldm` object: the PDR repository, its records, which come in several
parts, and sensor readings. -/

namespace XpuManager

open Prog

abbrev pldmGetSensorReading : UInt8 := 0x11
abbrev pldmGetPdrRepositoryInfo : UInt8 := 0x50
abbrev pldmGetPdr : UInt8 := 0x51

abbrev pldmPdrRepoAvailable : UInt8 := 0x00

/-- `sizeof(pdrPayloadHeader)`. -/
abbrev pdrPayloadHeaderSize : Nat := 10

/-- Update the platform part of the object. -/
def modifyPf (g : PlatformState → PlatformState) : Prog Pldm Unit :=
  Prog.modify fun s => { s with pf := g s.pf }

/-! ## Requests -/

/-- The bytes of a `pdrReqPayload` structure. -/
def PdrReqPayload.bytes (r : PdrReqPayload) : Bytes :=
  leBytes 4 r.recordHandle.toNat ++ leBytes 4 r.dataTransferHandle.toNat ++ [r.transferOpFlag]
    ++ leBytes 2 r.requestCount.toNat ++ leBytes 2 r.recordChangeNumber.toNat

/-- `pfFillPayload`. The CRC of GetPDR and GetSensorReading leaves out the last byte before it. -/
def pfFillPayload (cmd size : UInt8) : Prog Pldm UInt8 := do
  payloadZero size.toNat
  let s ← Prog.get
  if cmd = pldmGetPdrRepositoryInfo then do
    payloadSetCrc 0 (size.toNat - 1)
    pure pldmSuccess
  else if cmd = pldmGetPdr then do
    payloadCopy 0 s.pf.pfPdrReq.bytes
    payloadSetCrc 13 12
    pure pldmSuccess
  else if cmd = pldmGetSensorReading then do
    payloadCopy 0 (leBytes 2 s.pf.sensorId.toNat ++ [s.pf.rearmEventState])
    payloadSetCrc 3 2
    pure pldmSuccess
  else pure pldmError

/-! ## Responses -/

/-- The repository information of a response. -/
def pdrRepositoryInfo (f : Frame) : PdrRepositoryInfo where
  repositoryState := f.respPayload 1
  recordCount := UInt32.ofNat (f.field 28 4)
  repositorySize := UInt32.ofNat (f.field 32 4)
  largestRecordSize := UInt32.ofNat (f.field 36 4)

/-- `pfPdrRepoRespPayload`. -/
def pfPdrRepoRespPayload : Prog Pldm UInt8 := do
  let s ← Prog.get
  if s.mI2cPldmRead.respPayload 0 ≠ pldmSuccess then pure pldmError
  else do
    let info := pdrRepositoryInfo s.mI2cPldmRead
    modifyPf fun pf => { pf with pfPdrRepoInfo := info }
    if info.repositorySize = 0 ∨ info.recordCount = 0 then pure pldmError
    else if info.repositoryState ≠ pldmPdrRepoAvailable then pure pldmError
    else pure pldmSuccess

/-- The fixed part of a GetPDR response. -/
def pdrRespPayload (f : Frame) : PdrRespPayload where
  completionCode := f.respPayload 0
  nextRecordHandle := UInt32.ofNat (f.field 1 4)
  nextDataTransferHandle := UInt32.ofNat (f.field 5 4)
  transferFlag := f.respPayload 9
  responseCount := UInt16.ofNat (f.field 10 2)

/-- `mPdrManager.appendPdrData` with the record data of a response; data past the frame is undefined
behaviour. -/
def appendPdrData (f : Frame) (respCount : Nat) : Prog Pldm Unit :=
  if 12 + respCount ≤ payloadSize then
    modifyPf fun pf =>
      { pf with mCurrentPdr := pf.mCurrentPdr ++ f.slice (payloadStart + 12) respCount }
  else Prog.fault

/-- `pfPdrRespPayload`. -/
def pfPdrRespPayload : Prog Pldm UInt8 := do
  let s ← Prog.get
  if s.mI2cPldmRead.respPayload 0 ≠ pldmSuccess then pure pldmError
  else do
    let resp := pdrRespPayload s.mI2cPldmRead
    modifyPf fun pf => { pf with pfPdrResp := resp }
    appendPdrData s.mI2cPldmRead resp.responseCount.toNat
    pure pldmSuccess

/-- The number of bytes of a sensor reading, by its `sensorDataSize`. -/
def sensorReadingSize (sensorDataSize : UInt8) : Option Nat :=
  if sensorDataSize = 0 ∨ sensorDataSize = 1 then some 1
  else if sensorDataSize = 2 ∨ sensorDataSize = 3 then some 2
  else if sensorDataSize = 4 ∨ sensorDataSize = 5 then some 4
  else none

/-- The fixed part of a GetSensorReading response. -/
def sensorReadingResp (f : Frame) : SensorReadingResp where
  completionCode := f.respPayload 0
  sensorDataSize := f.respPayload 1
  sensorOperationalState := f.respPayload 2
  sensorEventMessageEnable := f.respPayload 3
  presentState := f.respPayload 4
  previousState := f.respPayload 5
  eventState := f.respPayload 6

/-- `pfSensorReadingRespPayload`. -/
def pfSensorReadingRespPayload : Prog Pldm UInt8 := do
  let s ← Prog.get
  let f := s.mI2cPldmRead
  if f.respPayload 0 ≠ pldmSuccess then pure pldmError
  else do
    let resp := sensorReadingResp f
    modifyPf fun pf =>
      { pf with pfSensorReadingResp := resp, sensorDataSize := resp.sensorDataSize }
    match sensorReadingSize resp.sensorDataSize with
    | none => pure pldmError
    | some n => do
        modifyPf fun pf =>
          { pf with sensorReading := pf.sensorReading.overlay 0 (f.slice (payloadStart + 7) n) }
        pure pldmSuccess

/-- `processPlatformResponse`; the instance ID is unused. -/
def processPlatformResponse (cmd _id : UInt8) : Prog Pldm UInt8 :=
  if cmd = pldmGetPdrRepositoryInfo then pfPdrRepoRespPayload
  else if cmd = pldmGetPdr then pfPdrRespPayload
  else if cmd = pldmGetSensorReading then pfSensorReadingRespPayload
  else pure pldmError

/-! ## Commands -/

/-- `mPdrManager.finishPdrRecord`: a record with a whole header is kept. -/
def finishPdrRecord : Prog Pldm Unit := modifyPf fun pf => { pf with
  mPdrs := if pdrPayloadHeaderSize ≤ pf.mCurrentPdr.length then pf.mPdrs ++ [pf.mCurrentPdr]
    else pf.mPdrs
  mCurrentPdr := [] }

/-- One request and its response. -/
def pfExchange (cmd size : UInt8) : Prog Pldm UInt8 :=
  exchange pldmPlatformMonitoring cmd
    (fun id => orError (andThen (requestHeaders pldmPlatformMonitoring cmd size id)
      (pfFillPayload cmd size)))
    (fun _ => size) fun id => receiveThen (processPlatformResponse cmd id)

/-- One turn of the loop of `pfMonCtrlCmd`; only a record that has not ended asks for another. -/
def pfMonCtrlTurn (cmd size : UInt8) (_ : Unit) : Prog Pldm (Unit ⊕ UInt8) := do
  let ret ← pfExchange cmd size
  if ret ≠ pldmSuccess then pure (.inr ret)
  else if cmd ≠ pldmGetPdr then pure (.inr pldmSuccess)
  else do
    let s ← Prog.get
    let resp := s.pf.pfPdrResp
    modifyPf fun pf => { pf with pfPdrReq := { pf.pfPdrReq with
      recordHandle := resp.nextRecordHandle
      dataTransferHandle := resp.nextDataTransferHandle } }
    if resp.transferFlag = pldmEnd ∨ resp.transferFlag = pldmStartAndEnd then do
      finishPdrRecord
      modifyPf fun pf => { pf with pfPdrReq := { pf.pfPdrReq with
        transferOpFlag := pldmGetFirstPart, dataTransferHandle := 0 } }
      pure (.inr pldmSuccess)
    else do
      modifyPf fun pf => { pf with pfPdrReq := { pf.pfPdrReq with
        transferOpFlag := pldmGetNextPart } }
      pure (.inl ())

/-- `pfMonCtrlCmd`. -/
def pfMonCtrlCmd (fuel : Nat) (cmd size : UInt8) : Prog Pldm UInt8 :=
  Prog.loop (pfMonCtrlTurn cmd size) fuel ()

/-- `pfGetPdrRepositoryInfo`. -/
def pfGetPdrRepositoryInfo (fuel : Nat) : Prog Pldm UInt8 :=
  orError (pfMonCtrlCmd fuel pldmGetPdrRepositoryInfo 12)

/-- `mPdrManager.clear`. The sensor caches are rebuilt from the records before they are used. -/
def clearPdrs : Prog Pldm Unit := modifyPf fun pf => { pf with mPdrs := [], mCurrentPdr := [] }

/-- `pfGetTotalPdrs`. -/
def pfGetTotalPdrs (fuel : Nat) : Prog Pldm UInt8 := do
  clearPdrs
  modifyPf fun pf => { pf with pfPdrReq :=
    { recordHandle := 0, dataTransferHandle := 0, transferOpFlag := pldmGetFirstPart
      requestCount := pf.pfPdrRepoInfo.largestRecordSize.toUInt16, recordChangeNumber := 0 } }
  let s ← Prog.get
  let ret ← Prog.forEach (fun (_ : Nat) (_ : Unit) => do
    let ret ← pfMonCtrlCmd fuel pldmGetPdr 25
    pure (if ret = pldmSuccess then .inr () else .inl pldmError))
    (List.range s.pf.pfPdrRepoInfo.recordCount.toNat) ()
  match ret with
  | .inl ret => pure ret
  | .inr () => pure pldmSuccess

/-- `pfMonCtrlInitialize`. -/
def pfMonCtrlInitialize (fuel : Nat) : Prog Pldm UInt8 :=
  andThen (pfGetPdrRepositoryInfo fuel) (pfGetTotalPdrs fuel)

/-! ## What the steps do -/

theorem onlyPayload_pfFillPayload (cmd size : UInt8) :
    Within OnlyPayload (pfFillPayload cmd size) := by
  refine Within.bind (onlyPayload_payloadCopy _ _) fun _ => Within.bind Within.get fun s =>
    Within.ite (onlyPayload_setCrc_success _ _) (Within.ite ?_ (Within.ite ?_ (Within.pure _)))
  · exact Within.bind (onlyPayload_payloadCopy _ _) fun _ => onlyPayload_setCrc_success _ _
  · exact Within.bind (onlyPayload_payloadCopy _ _) fun _ => onlyPayload_setCrc_success _ _

/-- A response changes the platform state and writes nothing. -/
theorem quiet_processPlatformResponse (cmd id : UInt8) :
    Within Quiet (processPlatformResponse cmd id) := by
  have hpf (g : PlatformState → PlatformState) : Within Quiet (modifyPf g) :=
    fun _ => ⟨rfl, rfl, rfl⟩
  refine Within.ite ?_ (Within.ite ?_ (Within.ite ?_ (Within.pure _)))
  · exact Within.bind Within.get fun _ => Within.ite (Within.pure _)
      (Within.bind (hpf _) fun _ => Within.ite (Within.pure _)
        (Within.ite (Within.pure _) (Within.pure _)))
  · refine Within.bind Within.get fun _ => Within.ite (Within.pure _)
      (Within.bind (hpf _) fun _ => Within.bind ?_ fun _ => Within.pure _)
    exact Within.ite (hpf _) Within.fault
  · refine Within.bind Within.get fun s => Within.ite (Within.pure _)
      (Within.bind (hpf _) fun _ => ?_)
    split
    · exact Within.pure _
    · exact Within.bind (hpf _) fun _ => Within.pure _

/-- Building the headers and the payload in order, with any failure turned into `PLDM_ERROR`. -/
theorem onlyFrame_pfPrep (cmd size id : UInt8) :
    Within OnlyFrame (orError (andThen (requestHeaders pldmPlatformMonitoring cmd size id)
      (pfFillPayload cmd size))) := by
  refine within_orError (Within.bind (onlyFrame_messageHeaders _ _ _ _ _) fun _ =>
    Within.ite ?_ (Within.pure _))
  exact (onlyPayload_pfFillPayload cmd size).mono fun _ _ => And.left

theorem fills_pfPrep (cmd size id : UInt8) :
    Within Fills (orError (andThen (requestHeaders pldmPlatformMonitoring cmd size id)
      (pfFillPayload cmd size))) := fills_of_onlyFrame (onlyFrame_pfPrep cmd size id)

end XpuManager
