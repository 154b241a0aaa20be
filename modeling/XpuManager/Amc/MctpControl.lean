import XpuManager.Amc.Device

/-! # MCTP control

The `mctp` part of a device object, which comes before any PLDM: its frame buffers, the control
commands and the sequence of commands that initialises the endpoint. -/

namespace XpuManager

open Prog

/-! ## Command codes -/

abbrev mctpFailure : UInt8 := 0x01
abbrev mctpCompletionSuccess : UInt8 := 0x00
abbrev mctpRequest : UInt8 := 0x01

abbrev mctpSetEndpointId : UInt8 := 0x01
abbrev mctpGetEndpointId : UInt8 := 0x02
abbrev mctpGetEndpointUuid : UInt8 := 0x03
abbrev mctpGetVersion : UInt8 := 0x04
abbrev mctpGetMessageType : UInt8 := 0x05

abbrev mctpSetEidCmdSize : UInt8 := 13
abbrev mctpGetEidCmdSize : UInt8 := 11
abbrev mctpGetEidUuidCmdSize : UInt8 := 11
abbrev mctpGetVersionSize : UInt8 := 12
abbrev mctpGetMsgTypeSize : UInt8 := 11

abbrev mctpInstanceIdMax : UInt8 := 32
abbrev mctpMaxResponseSize : Nat := 32
abbrev mctpDestSetEid : UInt8 := 0x09
abbrev retryCount : Nat := 3

/-! ## The state -/

/-- `sizeof(mctpSmbusI2cHdr) + sizeof(mctpControlHdr)`, the offset of `respPayload`. -/
abbrev controlPayloadStart : Nat := 11

/-- `sizeof(i2cdata_mctpinfo)`. -/
abbrev controlFrameSize : Nat := 139

/-- An `i2cdata_mctpinfo` structure as its bytes in memory order. -/
abbrev ControlFrame : Type := Buf controlFrameSize

/-- `respPayload[i]`. -/
def controlRespPayload (f : ControlFrame) (i : Nat) : UInt8 := f.byte (controlPayloadStart + i)

/-- One observable step of the control protocol. -/
inductive ControlEvent where
  /-- `writeAmc` handed these bytes to the bus, with this result. -/
  | write (bytes : Bytes) (ok : Bool)
  /-- `readAmc` left this frame in its buffer, or failed. -/
  | read (answer : Option ControlFrame)

/-- The `mctp` part of the object. -/
structure Mctp where
  /-- The answers of the coming reads: the bytes delivered, or a failure. -/
  reads : Stream' (Option Bytes)
  /-- The results of the coming writes. -/
  writes : Stream' Bool
  trace : List ControlEvent
  mI2cMctpRead : ControlFrame
  mI2cMctpWrite : ControlFrame
  instanceID : UInt8
  mDestEid : UInt8
  mDestNewEid : UInt8

/-! ## The I2C interface -/

/-- `writeAmc(wptr + 1, len)`: bytes `1` to `len` of the write frame go to the bus. -/
def controlWriteAmc (len : Nat) : Prog Mctp Bool := do
  let s ← Prog.get
  if len < controlFrameSize then do
    Prog.modify fun s => { s with
      writes := s.writes.tail
      trace := s.trace ++ [.write (s.mI2cMctpWrite.slice 1 len) s.writes.head] }
    pure s.writes.head
  else
    Prog.fault

/-- `readAmc(rptr + 1, MCTP_MAX_RESPONSE_SIZE)`. -/
def controlReadAmc : Prog Mctp Bool := do
  let s ← Prog.get
  let answer := s.reads.head.map fun bs => s.mI2cMctpRead.overlay 1 (bs.take mctpMaxResponseSize)
  Prog.modify fun s => { s with
    reads := s.reads.tail
    trace := s.trace ++ [.read answer]
    mI2cMctpRead := answer.getD s.mI2cMctpRead }
  pure answer.isSome

/-! ## Requests -/

/-- Update the write frame. -/
def modifyControlWrite (g : ControlFrame → ControlFrame) : Prog Mctp Unit :=
  Prog.modify fun s => { s with mI2cMctpWrite := g s.mI2cMctpWrite }

/-- `memcpy(respPayload + i, …)` on the write frame; past `respPayload` is undefined behaviour. -/
def controlPayloadCopy (i : Nat) (bs : Bytes) : Prog Mctp Unit :=
  if i + bs.length ≤ payloadSize then
    modifyControlWrite fun f => f.overlay (controlPayloadStart + i) bs
  else Prog.fault

/-- `respPayload[i] = crc8Smbus(respPayload, len)` on the write frame. -/
def controlPayloadSetCrc (i : Nat) (len : Int) : Prog Mctp Unit := do
  let s ← Prog.get
  if 0 ≤ len ∧ len ≤ payloadSize then
    controlPayloadCopy i [crc8Smbus (s.mI2cMctpWrite.slice controlPayloadStart len.toNat)]
  else
    Prog.fault

/-- `commandConstruction` on the write frame. -/
def controlCommandConstruction (som eom pktSeq bytecount integrityCheck : UInt8) :
    Prog Mctp UInt8 := do
  let s ← Prog.get
  modifyControlWrite fun f => f.overlay 0
    [amcI2cAddr * 2 + mctpDestSlaveAddrB0, mctpCmdCode, bytecount,
     mctpSrcSlaveAddr * 2 + mctpSrcSlaveAddrB0, mctpHeaderVersion + mctpReserved * 16,
     s.mDestEid, mctpSourceEndpointId,
     mctpTagOwner * 8 + pktSeq % 4 * 16 + eom % 2 * 64 + som % 2 * 128,
     mctpControl + integrityCheck % 2 * 128]
  pure mctpSuccess

/-- `headerConstruction` on the write frame. -/
def headerConstruction (instanceId cmd : UInt8) : Prog Mctp UInt8 := do
  modifyControlWrite fun f => f.overlay 9
    [instanceId % 32 + mctpReserved * 32 + mctpRequest * 128, cmd]
  pure mctpSuccess

/-- `fillPayload`. -/
def fillPayload (cmd mctpCmdLen : UInt8) : Prog Mctp UInt8 := do
  controlPayloadCopy 0 (List.replicate mctpCmdLen.toNat 0)
  let s ← Prog.get
  if cmd = mctpSetEndpointId then do
    controlPayloadCopy 0 [0x00, if s.mDestEid = 0 then s.mDestNewEid else s.mDestEid]
    controlPayloadSetCrc 2 (mctpCmdLen.toNat - 1)
    pure mctpSuccess
  else if cmd = mctpGetEndpointId ∨ cmd = mctpGetEndpointUuid ∨ cmd = mctpGetMessageType then do
    controlPayloadSetCrc 0 (mctpCmdLen.toNat - 1)
    pure mctpSuccess
  else if cmd = mctpGetVersion then do
    controlPayloadCopy 0 [0x00]
    controlPayloadSetCrc 1 (mctpCmdLen.toNat - 1)
    pure mctpSuccess
  else pure mctpFailure

/-! ## Responses -/

/-- `getRespPayload`; both parameters are unused. -/
def getRespPayload (_cmd _id : UInt8) : Prog Mctp UInt8 := do
  Prog.modify fun s =>
    { s with mI2cMctpRead :=
        s.mI2cMctpRead.setByte 0 (mctpSrcSlaveAddr * 2 + mctpSrcSlaveAddrB0) }
  let s ← Prog.get
  pure (if controlRespPayload s.mI2cMctpRead 0 ≠ mctpCompletionSuccess then mctpFailure
    else mctpSuccess)

/-- `controlResponse`. -/
def controlResponse (cmd id : UInt8) : Prog Mctp UInt8 :=
  if cmd = mctpSetEndpointId then do
    let ret ← getRespPayload cmd id
    if ret = mctpSuccess then do
      Prog.modify fun s => { s with mDestEid := controlRespPayload s.mI2cMctpRead 2 }
      pure mctpSuccess
    else pure mctpFailure
  else if cmd = mctpGetEndpointId then do
    let ret ← getRespPayload cmd id
    if ret = mctpSuccess then do
      Prog.modify fun s =>
        { s with mDestEid :=
            if controlRespPayload s.mI2cMctpRead 1 ≠ 0 then controlRespPayload s.mI2cMctpRead 1
            else s.mDestEid }
      pure mctpSuccess
    else pure mctpFailure
  else if cmd = mctpGetEndpointUuid ∨ cmd = mctpGetMessageType ∨ cmd = mctpGetVersion then
    getRespPayload cmd id
  else pure mctpFailure

/-! ## Commands -/

/-- The request of `command`: the statuses of the steps that build it are not looked at. -/
def controlRequest (cmd size : UInt8) : Prog Mctp Unit := do
  Prog.modify fun s =>
    { s with instanceID := if s.instanceID = mctpInstanceIdMax then 1 else s.instanceID }
  let s ← Prog.get
  let _ ← controlCommandConstruction mctpSom mctpEom mctpPakSeq (size - 3) mctpIntegrityCheck
  let _ ← headerConstruction s.instanceID cmd
  let _ ← fillPayload cmd size
  pure ()

/-- The response of `command`. -/
def controlReceive (cmd : UInt8) : Prog Mctp UInt8 := do
  let received ← controlReadAmc
  if received = false then pure mctpFailure
  else do
    let s ← Prog.get
    let ret ← controlResponse cmd s.instanceID
    if ret ≠ mctpSuccess then pure mctpFailure
    else do
      Prog.modify fun s => { s with instanceID := s.instanceID + 1 }
      pure mctpSuccess

/-- `mctp::command`. -/
def command (cmd size : UInt8) : Prog Mctp UInt8 := do
  controlRequest cmd size
  let sent ← controlWriteAmc size.toNat
  if sent = false then pure mctpFailure else controlReceive cmd

/-- One attempt of the loop that sets the endpoint ID: `none` asks for another. -/
def setEidAttempt (i : Nat) (_ : Unit) : Prog Mctp (UInt8 ⊕ Unit) := do
  Prog.modify fun s => { s with mDestNewEid := mctpDestSetEid + UInt8.ofNat i }
  let ret ← command mctpSetEndpointId mctpSetEidCmdSize
  if ret = mctpSuccess then pure (.inl mctpSuccess)
  else if i = retryCount - 1 then pure (.inl mctpFailure)
  else pure (.inr ())

/-- The endpoint ID is only set when there is none. -/
def setEid : Prog Mctp UInt8 := do
  let s ← Prog.get
  if s.mDestEid = 0 then do
    match ← Prog.forEach setEidAttempt (List.range retryCount) () with
    | .inl ret => pure ret
    | .inr () => pure mctpSuccess
  else pure mctpSuccess

/-- `mctp::initialize`. -/
def mctpInitialize : Prog Mctp UInt8 :=
  chain mctpSuccess (command mctpGetVersion mctpGetVersionSize) <|
  chain mctpSuccess (command mctpGetEndpointId mctpGetEidCmdSize) <|
  chain mctpSuccess (command mctpGetEndpointUuid mctpGetEidUuidCmdSize) <|
  chain mctpSuccess setEid <|
    command mctpGetMessageType mctpGetMsgTypeSize

end XpuManager
