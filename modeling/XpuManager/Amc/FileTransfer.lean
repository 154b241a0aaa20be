import XpuManager.Amc.RxMultiPart

/-! # PLDM file transfer

The file-transfer family of a `pldm` object: the commands of one exchange (`pldmFileTransferCmd`),
their response handlers, and the reading of a whole file in parts
(`pldmMultipartReceiveCommand`). -/

namespace XpuManager

open Prog

/-! ## Command codes -/

abbrev dfOpen : UInt8 := 0x01
abbrev dfClose : UInt8 := 0x02
abbrev dfHeartbeat : UInt8 := 0x03
abbrev pldmMultipartReceive : UInt8 := 0x09
abbrev dfProperties : UInt8 := 0x10
abbrev dfGetFileAttribute : UInt8 := 0x11
abbrev dfSetFileAttribute : UInt8 := 0x12
abbrev dfRead : UInt8 := 0x20
abbrev dfFifoSend : UInt8 := 0x21

abbrev pldmFtCmdBaseSize : UInt8 := 12

/-- `sizeof(mDfReadResp.data)`. -/
abbrev dfReadDataSize : Nat := 512

/-! ## Requests -/

/-- The bytes of a `pldm_base_multipart_receive_req` structure. -/
def MultipartReceiveReq.bytes (r : MultipartReceiveReq) : Bytes :=
  [r.pldmType, r.transferOperation] ++ leBytes 4 r.transferContext.toNat
    ++ leBytes 4 r.dataTransferHandle.toNat ++ leBytes 4 r.requestedSectionOffset.toNat
    ++ leBytes 4 r.requestedSectionLengthBytes.toNat

/-- Copy the fields of a request into the payload and put the CRC behind them. -/
def fillFields (bytes : Bytes) : Prog Pldm UInt8 := do
  payloadCopy 0 bytes
  payloadSetCrc bytes.length bytes.length
  pure pldmSuccess

/-- `PldmFillFileTxPayload`. -/
def pldmFillFileTxPayload (cmd size : UInt8) : Prog Pldm UInt8 :=
  if size < pldmFtCmdBaseSize then pure pldmError
  else do
    payloadZero size.toNat
    let s ← Prog.get
    if cmd = dfOpen then
      fillFields (leBytes 2 s.ft.openFileIdentifier.toNat ++ leBytes 2 s.ft.openFileAttribute.toNat)
    else if cmd = dfClose then
      fillFields (leBytes 2 s.ft.closeFileDescriptor.toNat ++ leBytes 2 s.ft.dfCloseOptions.toNat)
    else if cmd = dfHeartbeat then
      fillFields (leBytes 2 s.ft.heartbeatFileDescriptor.toNat
        ++ leBytes 4 s.ft.requesterMaxInterval.toNat)
    else if cmd = dfProperties then do
      payloadSetCrc 4 4
      pure pldmSuccess
    else if cmd = dfRead then
      fillFields (leBytes 2 s.ft.readFileDescriptor.toNat ++ leBytes 4 s.ft.readOffset.toNat
        ++ leBytes 4 s.ft.readLength.toNat)
    else if cmd = pldmMultipartReceive then fillFields s.ft.mMultipartReceiveReq.bytes
    else pure pldmError

/-! ## Responses -/

/-- `respPayload` with `respPayloadLen`: the assembled payload, or that of the read frame when
nothing was assembled. -/
def Pldm.ftRespPayload (s : Pldm) : Bytes :=
  if s.ft.mRxAssembledPayload.isEmpty then s.mI2cPldmRead.slice payloadStart payloadSize
  else s.ft.mRxAssembledPayload

/-- `totalFrameSize`. -/
def Pldm.ftTotalFrameSize (s : Pldm) : Nat :=
  if s.ft.mRxAssembledFrame.isEmpty then s.mI2cPldmRead.byteCount.toNat + 3
  else s.ft.mRxAssembledFrame.length

/-- The completion code of a response payload. -/
def completionCode (resp : Bytes) : UInt8 := resp.getD 0 0

/-- The little-endian field of `len` bytes at `off` of a response payload. -/
def respField (resp : Bytes) (off len : Nat) : Nat := ofLeBytes ((resp.drop off).take len)

/-- `pldmFileTransferRespPayload`. A request bit that is set or another instance ID is only
logged. -/
def pldmFileTransferRespPayload (resp : Bytes) (cmd : UInt8) : Prog Pldm UInt8 := do
  let s ← Prog.get
  let frame := s.ft.mRxAssembledFrame
  if ¬frame.isEmpty ∧ frame.length < payloadStart then pure pldmError
  else if ¬frame.isEmpty ∧ frame.getD 11 0 ≠ cmd then pure pldmError
  else if resp.length = 0 then pure pldmError
  else if completionCode resp ≠ pldmSuccess then
    pure (if cmd = pldmMultipartReceive ∧ completionCode resp = pldmErrorUnsupportedPldmCmd
      then pldmSuccess else pldmError)
  else if cmd ≠ pldmMultipartReceive
      ∧ (s.mI2cPldmRead.som ≠ pldmSomBitOn ∨ s.mI2cPldmRead.eom ≠ pldmEomBitOn) then
    pure pldmError
  else pure pldmSuccess

/-- `handleDfOpenResp`. -/
def handleDfOpenResp (resp : Bytes) : Prog Pldm UInt8 :=
  if resp.length < 3 then pure pldmError
  else do
    modifyFt fun ft => { ft with
      openRespCompletionCode := completionCode resp
      openRespFileDescriptor := UInt16.ofNat (respField resp 1 2) }
    pure (if completionCode resp ≠ pldmSuccess then pldmError else pldmSuccess)

/-- `handleDfCloseResp`. -/
def handleDfCloseResp (resp : Bytes) : Prog Pldm UInt8 :=
  if resp.length < 1 then pure pldmError
  else do
    modifyFt fun ft => { ft with closeRespCompletionCode := completionCode resp }
    pure pldmSuccess

/-- `handleDfHeartbeatResp`. -/
def handleDfHeartbeatResp (resp : Bytes) : Prog Pldm UInt8 :=
  if resp.length < 5 then pure pldmError
  else do
    modifyFt fun ft => { ft with
      heartbeatRespCompletionCode := completionCode resp
      responderMaxInterval := UInt32.ofNat (respField resp 1 4) }
    pure pldmSuccess

/-- `handleDfReadResp`. -/
def handleDfReadResp (resp : Bytes) (totalFrameSize : Nat) : Prog Pldm UInt8 :=
  if resp.length < 5 then pure pldmError
  else do
    let dataLength := UInt32.ofNat (respField resp 1 4)
    modifyFt fun ft => { ft with
      readRespCompletionCode := completionCode resp, readRespDataLength := dataLength }
    if totalFrameSize < payloadStart + 5 then pure pldmError
    else if dataLength.toNat > dfReadDataSize ∨ dataLength.toNat > resp.length - 5 then
      pure pldmError
    else do
      modifyFt fun ft => { ft with
        readRespData := ft.readRespData.overlay 0 ((resp.drop 5).take dataLength.toNat) }
      pure pldmSuccess

/-- The fixed part of a MultipartReceive response. -/
def multipartResp (resp : Bytes) : MultipartReceiveResp where
  completionCode := completionCode resp
  transferFlag := resp.getD 1 0
  nextDataTransferHandle := UInt32.ofNat (respField resp 2 4)
  dataLengthBytes := UInt32.ofNat (respField resp 6 4)

/-- `handleMultipartReceiveResp`. -/
def handleMultipartReceiveResp (resp : Bytes) (totalFrameSize : Nat) : Prog Pldm UInt8 :=
  if resp.length < 10 ∨ totalFrameSize < payloadStart + 10 then pure pldmError
  else do
    let r := multipartResp resp
    modifyFt fun ft => { ft with mMultipartReceiveResp := r }
    if r.completionCode = pldmErrorUnsupportedPldmCmd then do
      modifyFt fun ft => { ft with
        mMultipartReceiveResp := { r with dataLengthBytes := 0 }, readRespDataLength := 0 }
      pure pldmErrorUnsupportedPldmCmd
    else if r.dataLengthBytes.toNat > dfReadDataSize
        ∨ r.dataLengthBytes.toNat > resp.length - 10 then
      pure pldmError
    else do
      modifyFt fun ft => { ft with
        readRespData := ft.readRespData.overlay 0 ((resp.drop 10).take r.dataLengthBytes.toNat)
        readRespDataLength := r.dataLengthBytes }
      pure pldmSuccess

/-- `pldmFileTransferResp`. -/
def pldmFileTransferResp (cmd : UInt8) : Prog Pldm UInt8 := do
  let s ← Prog.get
  let resp := s.ftRespPayload
  let totalFrameSize := s.ftTotalFrameSize
  andThen (orError (pldmFileTransferRespPayload resp cmd)) <|
    if cmd = dfOpen then handleDfOpenResp resp
    else if cmd = dfClose then handleDfCloseResp resp
    else if cmd = dfHeartbeat then handleDfHeartbeatResp resp
    else if cmd = dfRead then handleDfReadResp resp totalFrameSize
    else if cmd = pldmMultipartReceive then handleMultipartReceiveResp resp totalFrameSize
    else if cmd = dfFifoSend ∨ cmd = dfProperties ∨ cmd = dfGetFileAttribute
        ∨ cmd = dfSetFileAttribute then
      pure pldmSuccess
    else pure pldmError

/-! ## Commands -/

/-- MultipartReceive is a command of the base type. -/
def ftCmdType (cmd : UInt8) : UInt8 :=
  if cmd = pldmMultipartReceive then pldmMessageDiscovery else pldmFileTransfer

/-- The request of `pldmFileTransferCmd`. -/
def ftPrep (cmd size id : UInt8) : Prog Pldm UInt8 :=
  andThen (requestHeaders (ftCmdType cmd) cmd size id) (pldmFillFileTxPayload cmd size)

/-- `pldmFileTransferCmd`. -/
def pldmFileTransferCmd (fuel : Nat) (cmd size : UInt8) : Prog Pldm UInt8 :=
  if size < pldmFtCmdBaseSize then pure pldmError
  else
    exchange (ftCmdType cmd) cmd (ftPrep cmd size) (fun _ => size) fun _ =>
      andThen (rxMultiPartData fuel) (pldmFileTransferResp cmd)

/-- `pldmDfOpenCommand`; the result is paired with `fileDescriptor` as it is left. -/
def pldmDfOpenCommand (fuel : Nat) (fileIdentifier fileDescriptor : UInt16) :
    Prog Pldm (UInt8 × UInt16) := do
  modifyFt fun ft => { ft with openFileIdentifier := fileIdentifier, openFileAttribute := 0 }
  let ret ← pldmFileTransferCmd fuel dfOpen 16
  let s ← Prog.get
  pure (if ret ≠ pldmSuccess then (ret, fileDescriptor)
    else (pldmSuccess, s.ft.openRespFileDescriptor))

/-- `pldmDfCloseCommand`. -/
def pldmDfCloseCommand (fuel : Nat) (fileDescriptor : UInt16) : Prog Pldm UInt8 := do
  modifyFt fun ft => { ft with closeFileDescriptor := fileDescriptor, dfCloseOptions := 0 }
  pldmFileTransferCmd fuel dfClose 16

/-- The size of a MultipartReceive request: both headers and the request structure. -/
abbrev multipartReceiveSize : UInt8 := 30

/-- `maxReadChunk`. -/
abbrev maxReadChunk : UInt32 := 512

/-- What the loop of `pldmMultipartReceiveCommand` does with a part, in its order: append the data,
stop, or ask for the next part. -/
def takePart (currentOffset : UInt32) : Prog Pldm (UInt32 ⊕ UInt8) := do
  let s ← Prog.get
  let r := s.ft.mMultipartReceiveResp
  if r.dataLengthBytes > maxReadChunk then pure (.inr pldmError)
  else do
    modifyFt fun ft => { ft with mMultipartReceiveData :=
      ft.mMultipartReceiveData ++ ft.readRespData.slice 0 r.dataLengthBytes.toNat }
    if r.completionCode = pldmErrorUnsupportedPldmCmd ∨ r.dataLengthBytes = 0
        ∨ r.transferFlag = pldmEnd ∨ r.transferFlag = pldmStartAndEnd
        ∨ r.dataLengthBytes < maxReadChunk then
      pure (.inr pldmSuccess)
    else if r.transferFlag ≠ pldmStart ∧ r.transferFlag ≠ pldmMiddle then pure (.inr pldmError)
    else do
      modifyFt fun ft => { ft with mMultipartReceiveReq := { ft.mMultipartReceiveReq with
        transferOperation := pldmXferNextPart, dataTransferHandle := r.nextDataTransferHandle } }
      pure (.inl (currentOffset + r.dataLengthBytes))

/-- One turn of the loop of `pldmMultipartReceiveCommand`. -/
def multipartTurn (fuel : Nat) (currentOffset : UInt32) : Prog Pldm (UInt32 ⊕ UInt8) := do
  modifyFt fun ft => { ft with mMultipartReceiveReq := { ft.mMultipartReceiveReq with
    requestedSectionOffset := currentOffset, requestedSectionLengthBytes := maxReadChunk } }
  let ret ← pldmFileTransferCmd fuel pldmMultipartReceive multipartReceiveSize
  if ret ≠ pldmSuccess then pure (.inr ret) else takePart currentOffset

/-- `pldmMultipartReceiveCommand`; the result is paired with `fileData` as it is left. -/
def pldmMultipartReceiveCommand (fuel : Nat) (fileDescriptor : UInt16) (fileData : Bytes) :
    Prog Pldm (UInt8 × Bytes) := do
  modifyFt fun ft => { ft with
    mMultipartReceiveReq :=
      { pldmType := pldmFileTransfer, transferOperation := pldmXferFirstPart
        transferContext := fileDescriptor.toUInt32, dataTransferHandle := 0
        requestedSectionOffset := 0, requestedSectionLengthBytes := 0 }
    mMultipartReceiveResp := ⟨0, 0, 0, 0⟩
    mMultipartReceiveData := [] }
  let ret ← Prog.loop (multipartTurn fuel) fuel 0
  let s ← Prog.get
  pure (if ret ≠ pldmSuccess then (ret, fileData) else (ret, s.ft.mMultipartReceiveData))

end XpuManager
