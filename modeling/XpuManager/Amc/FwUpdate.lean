import XpuManager.Amc.Exchange

/-! # PLDM firmware update

The firmware-update family of a `pldm` object: the inventory commands (`fwUpdCmd`), the data phase
in which the device asks for the component image piece by piece (`readFromFD`), and the update of a
whole package (`fwUpdInitialize`). Loops that the device can keep alive run on `fuel`. -/

namespace XpuManager

/-! ## Command and completion codes -/

abbrev queryDeviceIdentifiers : UInt8 := 0x01
abbrev getFirmwareParameters : UInt8 := 0x02
abbrev requestUpdate : UInt8 := 0x10
abbrev passComponentTable : UInt8 := 0x13
abbrev updateComponent : UInt8 := 0x14
abbrev requestFirmwareData : UInt8 := 0x15
abbrev transferComplete : UInt8 := 0x16
abbrev verifyComplete : UInt8 := 0x17
abbrev applyComplete : UInt8 := 0x18
abbrev activateFirmware : UInt8 := 0x1A
abbrev getStatus : UInt8 := 0x1B
abbrev cancelUpdateComponent : UInt8 := 0x1C
abbrev cancelUpdate : UInt8 := 0x1D

abbrev alreadyInUpdateMode : UInt8 := 0x81
abbrev dataOutOfRange : UInt8 := 0x82
abbrev invalidTransferLength : UInt8 := 0x83
abbrev commandNotExpected : UInt8 := 0x88

abbrev fwuCommandBaseSize : UInt8 := 12
abbrev activateFirmwareSize : UInt8 := 13
abbrev pldmMctpMaxTransferSize : UInt32 := 32
abbrev pldmFwupdateMaxPayloadSize : Nat := 512
abbrev fwuMaximumOutstandingTransferReq : UInt8 := 1
abbrev fwuPackageDatalength : UInt16 := 0
abbrev fwuForceupdate : UInt32 := 1
abbrev componentClassificationIndex : UInt8 := 0x00
abbrev transferflagEnd : UInt8 := 0x04

/-- The entries of `fwuStates`, which GetStatus responses index. -/
def fwuStates : List String :=
  ["Idle", "Learn Components", "Ready Xfer", "Download", "Verify", "Apply", "Active"]

/-! ## Request payloads -/

/-- The bytes of a `fwuRequestUpdate` structure. -/
def FwuRequestUpdate.bytes (r : FwuRequestUpdate) : Bytes :=
  leBytes 4 r.maxTransferSize.toNat ++ leBytes 2 r.numComp.toNat ++ [r.maxOutstandXferReqs]
    ++ leBytes 2 r.pkgDataLen.toNat ++ [r.compImgSetVerStrType, r.compImgSetVerStrLen]
    ++ r.compImgSetVerStr.slice 0 pldmFwuCompVerStrSizeMax

/-- The bytes of a `fwuPassCompTable` structure. -/
def FwuPassCompTable.bytes (r : FwuPassCompTable) : Bytes :=
  [r.xferFlag] ++ leBytes 2 r.compClass.toNat ++ leBytes 2 r.id.toNat ++ [r.compClassIdx]
    ++ leBytes 4 r.comparisonStamp.toNat ++ [r.verStrType, r.verStrLen]
    ++ r.verStr.slice 0 pldmFwuCompVerStrSizeMax

/-- The bytes of a `fwUpdComp` structure. -/
def FwUpdCompReq.bytes (r : FwUpdCompReq) : Bytes :=
  leBytes 2 r.compClass.toNat ++ leBytes 2 r.id.toNat ++ [r.compClassIdx]
    ++ leBytes 4 r.comparisonStamp.toNat ++ leBytes 4 r.componentimagesize.toNat
    ++ leBytes 4 r.updateoptionflags.toNat ++ [r.verStrType, r.verStrLen]
    ++ r.verStr.slice 0 pldmFwuCompVerStrSizeMax

/-- The parsed package; a null `pkg` pointer is undefined behaviour. -/
def getPkg : Prog Pldm FwPkg := do
  let s ← Prog.get
  match s.fw.pkg with
  | some pkg => pure pkg
  | none => Prog.fault

/-- `pkg->compImagesInfo.compImages[mCurComp]`. -/
def curComp : Prog Pldm CompImageInfo := do
  let pkg ← getPkg
  let s ← Prog.get
  match pkg.compImages[s.fw.mCurComp.toNat]? with
  | some comp => pure comp
  | none => Prog.fault

/-- The tail the three structured requests share: set `mFwuCmdLen` to the base size, the structure
without its version string and the string's length (in eight bits), copy that many bytes of the
structure into the payload and put the CRC behind them. -/
def fillStruct (fixedSize verStrLen : UInt8) (bytes : Bytes) : Prog Pldm UInt8 := do
  let cmdLen := fwuCommandBaseSize + fixedSize + verStrLen
  Prog.modify fun s => { s with fw := { s.fw with mFwuCmdLen := cmdLen } }
  payloadCopy 0 (bytes.take cmdLen.toNat)
  payloadSetCrc cmdLen.toNat cmdLen.toNat
  pure pldmSuccess

/-- The payload of RequestUpdate. -/
def fwReqUpdate : Prog Pldm UInt8 := do
  let pkg ← getPkg
  let comp ← curComp
  let s ← Prog.get
  let req : FwuRequestUpdate :=
    { maxTransferSize := pldmMctpMaxTransferSize
      numComp := UInt16.ofNat pkg.compImageCount
      maxOutstandXferReqs := fwuMaximumOutstandingTransferReq
      pkgDataLen := fwuPackageDatalength
      compImgSetVerStrType := comp.verStrType
      compImgSetVerStrLen := comp.verStrLen
      compImgSetVerStr := s.fw.mReqUpdate.compImgSetVerStr.overlay 0 comp.verStr }
  Prog.modify fun s => { s with fw := { s.fw with mReqUpdate := req } }
  fillStruct 11 comp.verStrLen req.bytes

/-- The payload of PassComponentTable. -/
def fwupdPassCompTable : Prog Pldm UInt8 := do
  let comp ← curComp
  let s ← Prog.get
  let req : FwuPassCompTable :=
    { xferFlag := transferflagEnd
      compClass := comp.compClassification
      id := comp.id
      compClassIdx := componentClassificationIndex
      comparisonStamp := comp.compComparisionStamp
      verStrType := comp.verStrType
      verStrLen := comp.verStrLen
      verStr := s.fw.mPassCompTable.verStr.overlay 0 comp.verStr }
  Prog.modify fun s => { s with fw := { s.fw with mPassCompTable := req } }
  fillStruct 12 comp.verStrLen req.bytes

/-- The payload of UpdateComponent. -/
def fwUpdComp : Prog Pldm UInt8 := do
  let comp ← curComp
  let s ← Prog.get
  let req : FwUpdCompReq :=
    { compClass := comp.compClassification
      id := comp.id
      compClassIdx := componentClassificationIndex
      comparisonStamp := comp.compComparisionStamp
      componentimagesize := comp.compSize
      updateoptionflags := fwuForceupdate
      verStrType := comp.verStrType
      verStrLen := comp.verStrLen
      verStr := s.fw.mUpdComp.verStr.overlay 0 comp.verStr }
  Prog.modify fun s => { s with fw := { s.fw with mUpdComp := req } }
  fillStruct 19 comp.verStrLen req.bytes

/-- `pldmFwUpdFillPayload`. -/
def pldmFwUpdFillPayload (cmd size : UInt8) : Prog Pldm UInt8 :=
  if cmd = queryDeviceIdentifiers ∨ cmd = getFirmwareParameters ∨ cmd = cancelUpdateComponent
      ∨ cmd = cancelUpdate ∨ cmd = getStatus then do
    payloadZero size.toNat
    payloadSetCrc 0 (size.toNat - 1)
    pure pldmSuccess
  else if cmd = activateFirmware then do
    payloadSet 0 0x01
    payloadSetCrc 1 (size.toNat - 1)
    pure pldmSuccess
  else if cmd = requestUpdate then orError fwReqUpdate
  else if cmd = passComponentTable then orError fwupdPassCompTable
  else if cmd = updateComponent then orError fwUpdComp
  else pure pldmError

/-! ## Responses -/

/-- `pldmFwUpdateRespPayload`. The state names printed for GetStatus are looked up whatever the log
level is, so a state outside `fwuStates` is an access past its end. -/
def pldmFwUpdateRespPayload (cmd : UInt8) : Prog Pldm UInt8 := do
  setDestSlaveAddr
  let s ← Prog.get
  let current := s.mI2cPldmRead.respPayload 1
  let previous := s.mI2cPldmRead.respPayload 2
  if cmd ≠ getStatus then pure pldmSuccess
  else if current.toNat < fwuStates.length then do
    Prog.modify fun s => { s with fw := { s.fw with mFwuCurrentState := current } }
    if previous.toNat < fwuStates.length then pure pldmSuccess else Prog.fault
  else
    Prog.fault

/-- `pldmFwGetParamPayload`. -/
def pldmFwGetParamPayload (cmd id : UInt8) : Prog Pldm UInt8 := do
  setDestSlaveAddr
  let s ← Prog.get
  let f := s.mI2cPldmRead
  -- only the first chunk of a multi-packet response carries a PLDM header
  if s.fw.mI2cMultiResp ≠ true
      ∧ (f.cmdCode ≠ cmd ∨ f.instanceID ≠ id ∨ f.request ≠ pldmResponse) then
    pure pldmError
  else do
    -- a packet without EOM announces another one, whatever its SOM bit
    Prog.modify fun s => { s with fw := { s.fw with mI2cMultiResp := decide (f.eom = 0) } }
    pure pldmSuccess

/-- `fwUpdateResp`. The completion codes that fail differ only in the message logged. -/
def fwUpdateResp (cmd id : UInt8) : Prog Pldm UInt8 :=
  if cmd = queryDeviceIdentifiers ∨ cmd = cancelUpdateComponent ∨ cmd = cancelUpdate
      ∨ cmd = getStatus then
    pldmFwUpdateRespPayload cmd
  else if cmd = getFirmwareParameters then pldmFwGetParamPayload cmd id
  else if cmd = requestUpdate then do
    let ret ← pldmFwUpdateRespPayload cmd
    let s ← Prog.get
    let code := s.mI2cPldmRead.respPayload 0
    if code ≠ pldmSuccess then
      pure (if code = alreadyInUpdateMode then pldmSuccess else pldmError)
    else pure ret
  else if cmd = passComponentTable ∨ cmd = updateComponent then do
    let ret ← pldmFwUpdateRespPayload cmd
    let s ← Prog.get
    if s.mI2cPldmRead.respPayload 0 ≠ pldmSuccess then pure pldmError else pure ret
  else if cmd = activateFirmware then pldmFwUpdateRespPayload cmd
  else pure pldmError

/-! ## Commands -/

/-- One read of a firmware-update response; a multi-packet response asks for another turn. -/
def fwUpdReadTurn (cmd id : UInt8) (_ : Unit) : Prog Pldm (Unit ⊕ UInt8) := do
  let ret ← andThen receive (fwUpdateResp cmd id)
  let s ← Prog.get
  if ret ≠ pldmSuccess then pure (.inr pldmError)
  else if s.fw.mI2cMultiResp = false then pure (.inr pldmSuccess)
  else pure (.inl ())

/-- ActivateFirmware reboots the device, so its response is not read. -/
def fwUpdRead (fuel : Nat) (cmd id : UInt8) : Prog Pldm UInt8 :=
  if cmd ≠ activateFirmware then Prog.loop (fwUpdReadTurn cmd id) fuel () else pure pldmSuccess

/-- The request of `fwUpdCmd`: the payload first, then the headers for the length it has got. -/
def fwUpdPrep (cmd size id : UInt8) : Prog Pldm UInt8 :=
  andThen (orError (pldmFwUpdFillPayload cmd size)) do
    let s ← Prog.get
    let _ ← requestHeaders pldmFirmwareUpdate cmd s.fw.mFwuCmdLen id
    pure pldmSuccess

/-- `fwUpdCmd` first notes the command's size and forgets an unfinished multi-packet response. -/
def Pldm.fwUpdStart (s : Pldm) (size : UInt8) : Pldm :=
  { s with fw := { s.fw with mFwuCmdLen := size, mI2cMultiResp := false } }

/-- `fwUpdCmd`. -/
def fwUpdCmd (fuel : Nat) (cmd size : UInt8) : Prog Pldm UInt8 := do
  Prog.modify fun s => s.fwUpdStart size
  exchange pldmFirmwareUpdate cmd (fwUpdPrep cmd size) (fun s => s.fw.mFwuCmdLen)
    (fwUpdRead fuel cmd)

/-! ## The data phase -/

/-- The headers of a response to the message in the read frame. -/
def responseHeaders (totalLen : UInt8) : Prog Pldm Unit := do
  let s ← Prog.get
  let _ ← messageHeaders pldmFirmwareUpdate s.mI2cPldmRead.cmdCode totalLen
    s.mI2cPldmRead.instanceID pldmResponse
  pure ()

/-- `respondtoamc`. -/
def respondtoamc (completioncode : UInt8) : Prog Pldm UInt8 := do
  let totalLen : UInt8 := fwuCommandBaseSize + 1
  responseHeaders totalLen
  payloadSet 0 completioncode
  payloadSetCrc 1 (totalLen.toNat - 1)
  sendRequest fun _ => totalLen

/-- `fread(amcfilebuffer, 1, n, mCompFp)` after a seek to `pos`: the bytes delivered, in a buffer of
zeros. -/
def freadComp (pos n : Nat) : Prog Pldm Bytes := do
  let s ← Prog.get
  let got := (s.fw.compFile.drop pos).take n
  if n ≤ pldmFwupdateMaxPayloadSize then do
    emit (.fread pos n got)
    pure (got ++ List.replicate (pldmFwupdateMaxPayloadSize - got.length) 0)
  else
    Prog.fault

/-- The part of `writeToAMCCompXfer` that reads the component and copies it behind the completion
code. A short `fread` is only logged. -/
def copyCompData (comp : CompImageInfo) (offset lenToSend : UInt32) : Prog Pldm Unit := do
  let pos := (comp.compLocOffset + offset).toNat
  if offset + lenToSend ≤ comp.compSize then do
    let amcfilebuffer ← freadComp pos lenToSend.toNat
    payloadCopy 1 (amcfilebuffer.take lenToSend.toNat)
  else do
    -- the image does not end on a multiple of the chunk size: pad with zeros
    payloadZero payloadSize
    let remBytes := comp.compSize - offset
    let amcfilebuffer ← freadComp pos remBytes.toNat
    payloadCopy 1 (amcfilebuffer.take remBytes.toNat)

/-- `writeToAMCCompXfer`. -/
def writeToAMCCompXfer (offset lenToSend : UInt32) (completioncode : UInt8) : Prog Pldm UInt8 := do
  let comp ← curComp
  let totalLen : UInt8 := 9 + 3 + 1 + lenToSend.toUInt8
  responseHeaders totalLen
  copyCompData comp offset lenToSend
  payloadSet 0 completioncode
  payloadSetCrc totalLen.toNat (totalLen.toNat - 1)
  sendRequest fun _ => totalLen

/-- The answer to a RequestFirmwareData message. -/
def answerRequestFirmwareData (offset lenToSend : UInt32) : Prog Pldm UInt8 := do
  let comp ← curComp
  -- the progress is computed before the offset is checked
  if comp.compSize = 0 then Prog.fault
  else do
    Prog.modify fun s =>
      { s with fw := { s.fw with mProgPercent := (offset * 100 / comp.compSize).toInt32 } }
    if offset ≥ comp.compSize then respondtoamc dataOutOfRange
    else if lenToSend > pldmMctpMaxTransferSize then respondtoamc invalidTransferLength
    else writeToAMCCompXfer offset lenToSend pldmResponseCompletion

/-- `offset` of a RequestFirmwareData message. -/
def Frame.rfdOffset (f : Frame) : UInt32 :=
  bytesToInt (f.respPayload 3) (f.respPayload 2) (f.respPayload 1) (f.respPayload 0)

/-- `lenToSend` of a RequestFirmwareData message. -/
def Frame.rfdLength (f : Frame) : UInt32 :=
  bytesToInt (f.respPayload 7) (f.respPayload 6) (f.respPayload 5) (f.respPayload 4)

/-- Leave the data phase with an error unless the step succeeded. -/
def elseLeave (m : Prog Pldm UInt8) : Prog Pldm (Unit ⊕ UInt8) := do
  let ret ← m
  pure (if ret = pldmSuccess then .inl () else .inr pldmError)

/-- The message in the read frame, answered. -/
def answerFD (f : Frame) : Prog Pldm (Unit ⊕ UInt8) :=
  if f.cmdCode = requestFirmwareData then
    elseLeave (answerRequestFirmwareData f.rfdOffset f.rfdLength)
  else if f.cmdCode = transferComplete ∨ f.cmdCode = verifyComplete
      ∨ f.cmdCode = applyComplete then do
    Prog.modify fun s => { s with fw := { s.fw with mProgPercent := 100 } }
    if f.respPayload 0 ≠ pldmSuccess then do
      let _ ← respondtoamc commandNotExpected
      pure (.inr pldmError)
    else do
      match ← elseLeave (respondtoamc pldmResponseCompletion) with
      | .inr ret => pure (.inr ret)
      | .inl () => pure (if f.cmdCode = applyComplete then .inr pldmSuccess else .inl ())
  else
    elseLeave (respondtoamc commandNotExpected)

/-- One turn of the loop of `readFromFD`. -/
def readFromFDTurn (_ : Unit) : Prog Pldm (Unit ⊕ UInt8) := do
  let ok ← readAmc
  let s ← Prog.get
  let f := s.mI2cPldmRead
  if ok = false then pure (.inr pldmError)
  else if f.smbusCmdCode ≠ mctpCmdCode then pure (.inl ())
  else if f.cmdType ≠ pldmFirmwareUpdate then pure (.inr pldmError)
  else answerFD f

/-- `readFromFD`. -/
def readFromFD (fuel : Nat) : Prog Pldm UInt8 := do
  let ret ← Prog.loop readFromFDTurn fuel ()
  let s ← Prog.get
  emit (.transfer s.fw.mCurComp s.mI2cPldmRead ret)
  pure ret

/-! ## The update of a package -/

/-- The five inventory commands with their sizes. -/
def cmdTable : List (UInt8 × UInt8) :=
  [(queryDeviceIdentifiers, 12), (getFirmwareParameters, 12), (requestUpdate, fwuCommandBaseSize),
   (passComponentTable, fwuCommandBaseSize), (updateComponent, fwuCommandBaseSize)]

/-- `fwpkgParseInfo` on the opened file. -/
def fwpkgParseInfo : Prog Pldm UInt8 := do
  let s ← Prog.get
  match fwpkgParse s.fw.compFile with
  | .ret (some pkg) => do
      Prog.modify fun s => { s with fw := { s.fw with pkg := some pkg } }
      pure pldmSuccess
  | .ret none => pure pldmError
  | .fault => Prog.fault
  | .cut => Prog.cut

/-- One entry of the command table; a failure after RequestUpdate sends CancelUpdate. -/
def runInventoryCmd (fuel : Nat) (entry : UInt8 × UInt8) (_ : UInt8) :
    Prog Pldm (UInt8 ⊕ UInt8) := do
  let ret ← fwUpdCmd fuel entry.1 entry.2
  if ret = pldmSuccess then pure (.inr ret)
  else if entry.1 = requestUpdate ∨ entry.1 = passComponentTable ∨ entry.1 = updateComponent then do
    let _ ← fwUpdCmd fuel cancelUpdate fwuCommandBaseSize
    pure (.inl ret)
  else
    pure (.inl ret)

/-- The inventory commands and the data phase of component `n`. -/
def runComponent (fuel n : Nat) (ret : UInt8) : Prog Pldm (UInt8 ⊕ UInt8) := do
  Prog.modify fun s => { s with fw := { s.fw with mCurComp := UInt8.ofNat n } }
  match ← Prog.forEach (runInventoryCmd fuel) cmdTable ret with
  | .inl ret => pure (.inl ret)
  | .inr ret => do
      let fd ← readFromFD fuel
      if fd = pldmSuccess then pure (.inr ret)
      else do
        let _ ← fwUpdCmd fuel cancelUpdate fwuCommandBaseSize
        pure (.inl pldmError)

/-- GetStatus and ActivateFirmware; both failures return the `ret` of the last inventory command. -/
def runActivation (fuel : Nat) (ret : UInt8) : Prog Pldm UInt8 := do
  let status ← fwUpdCmd fuel getStatus fwuCommandBaseSize
  if status ≠ pldmSuccess then pure ret
  else do
    let activate ← fwUpdCmd fuel activateFirmware activateFirmwareSize
    if activate ≠ pldmSuccess then pure ret else pure pldmSuccess

/-- Open and parse the package file (`none` when it cannot be opened). -/
def openPackage (pkgFile : Option Bytes) : Prog Pldm UInt8 := do
  Prog.modify fun s =>
    { s with fw := { s.fw with mReqUpdate := default, mPassCompTable := default,
                               mUpdComp := default } }
  match pkgFile with
  | none => pure pldmError
  | some file => do
      Prog.modify fun s => { s with fw := { s.fw with compFile := file } }
      orError fwpkgParseInfo

/-- The component loop of `fwUpdInitialize`: left with a return value, or run to its end with the
`ret` of the last command. -/
def runComponents (fuel : Nat) (count : Nat) : Prog Pldm (UInt8 ⊕ UInt8) :=
  Prog.forEach (runComponent fuel) (List.range count) pldmError

/-- `fwUpdInitialize`. -/
def fwUpdInitialize (fuel : Nat) (pkgFile : Option Bytes) : Prog Pldm UInt8 :=
  andThen (openPackage pkgFile) do
    let pkg ← getPkg
    match ← runComponents fuel pkg.compImageCount with
    | .inl ret => pure ret
    | .inr ret => runActivation fuel ret

end XpuManager
