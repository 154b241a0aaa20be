import Mathlib.Data.Stream.Init
import XpuManager.Amc.FwPackage

/-! # The host side of the AMC channel

The state of a `pldm` object, the I2C interface it talks through, and the steps that all command
families share: header construction and the bounds-checked accesses to the two frame buffers. The
answers that the I2C interface will give are two streams, so what holds of every device is a statement
about every pair of streams. -/

namespace XpuManager

open Prog

/-! ## What a run does -/

/-- One observable step of a run. -/
inductive Event where
  /-- `writeAmc` handed these bytes to the bus, with this result. -/
  | write (bytes : Bytes) (ok : Bool)
  /-- `readAmc` left this frame in its buffer, or failed. -/
  | read (answer : Option Frame)
  /-- `rxMultiPartData` assembled this message from what it read. -/
  | message (frame : Bytes)
  /-- `fread` of `n` bytes at file position `pos` delivered `got`. -/
  | fread (pos n : Nat) (got : Bytes)
  /-- A request and its response ended with the status `ret`, the stored instance ID going from
  `idBefore` to `idAfter`. -/
  | exchange (cmdType cmd ret idBefore idAfter : UInt8)
  /-- `readFromFD` left with the status `ret`, its last message being `frame`. -/
  | transfer (comp : UInt8) (frame : Frame) (ret : UInt8)

/-! ## The state of a `pldm` object -/

/-- `pldmResponseData`. -/
structure PldmResponseData where
  supportedTypes : UInt8
  totalSupportedTypes : UInt8
  tid : UInt8
  deriving Inhabited

/-- `pldmVersionInfo`. -/
structure PldmVersionInfo where
  type : UInt8
  major : UInt8
  minor : UInt8
  update : UInt8
  alpha : UInt8
  deriving Inhabited

instance (n : Nat) : Inhabited (Buf n) := ⟨Buf.zero n⟩

/-- `fwuRequestUpdate`. -/
structure FwuRequestUpdate where
  maxTransferSize : UInt32
  numComp : UInt16
  maxOutstandXferReqs : UInt8
  pkgDataLen : UInt16
  compImgSetVerStrType : UInt8
  compImgSetVerStrLen : UInt8
  compImgSetVerStr : Buf pldmFwuCompVerStrSizeMax
  deriving Inhabited

/-- `fwuPassCompTable`. -/
structure FwuPassCompTable where
  xferFlag : UInt8
  compClass : UInt16
  id : UInt16
  compClassIdx : UInt8
  comparisonStamp : UInt32
  verStrType : UInt8
  verStrLen : UInt8
  verStr : Buf pldmFwuCompVerStrSizeMax
  deriving Inhabited

/-- `fwUpdComp`, the request structure of UpdateComponent. -/
structure FwUpdCompReq where
  compClass : UInt16
  id : UInt16
  compClassIdx : UInt8
  comparisonStamp : UInt32
  componentimagesize : UInt32
  updateoptionflags : UInt32
  verStrType : UInt8
  verStrLen : UInt8
  verStr : Buf pldmFwuCompVerStrSizeMax
  deriving Inhabited

/-- The firmware-update part of a `pldm` object; `compFile` is the content of `mCompFp`. -/
structure FwUpdateState where
  mFwuCmdLen : UInt8
  mI2cMultiResp : Bool
  mReqUpdate : FwuRequestUpdate
  mPassCompTable : FwuPassCompTable
  mUpdComp : FwUpdCompReq
  mFwuCurrentState : UInt8
  compFile : Bytes
  pkg : Option FwPkg
  mCurComp : UInt8
  mProgPercent : Int32
  deriving Inhabited

/-- The discovery part of a `pldm` object. -/
structure DiscoveryState where
  mPldmRespInfo : PldmResponseData
  versionInfo : Fin 8 → PldmVersionInfo
  deriving Inhabited

/-- `fruTableMetadata`. -/
structure FruTableMetadata where
  fruDataMajorVersion : UInt8
  fruDataMinorVersion : UInt8
  fruTableMaxSize : UInt32
  fruTableLen : UInt32
  totalRecordSetIdentifiers : UInt16
  totalNumRecords : UInt16
  checksum : UInt32
  deriving Inhabited

/-- `fruTableResponse`. -/
structure FruTableResponse where
  completionCode : UInt8
  nextDataXferHandle : UInt32
  xferFlag : UInt8
  fruTableData : Buf 512
  deriving Inhabited

/-- The FRU part of a `pldm` object; the two request fields are `mFruTableRequest`. -/
structure FruState where
  dataXferHandle : UInt32
  xferOpFlag : UInt8
  mFruTableResponse : FruTableResponse
  mFruMetadata : FruTableMetadata
  mFruCurrentDataLength : UInt16
  deriving Inhabited

/-- `pdrRepositoryInfoResp`, without its two time stamps. -/
structure PdrRepositoryInfo where
  repositoryState : UInt8
  recordCount : UInt32
  repositorySize : UInt32
  largestRecordSize : UInt32
  deriving Inhabited

/-- `pdrReqPayload`. -/
structure PdrReqPayload where
  recordHandle : UInt32
  dataTransferHandle : UInt32
  transferOpFlag : UInt8
  requestCount : UInt16
  recordChangeNumber : UInt16
  deriving Inhabited

/-- The fields of `pdrRespPayload` before the record data. -/
structure PdrRespPayload where
  completionCode : UInt8
  nextRecordHandle : UInt32
  nextDataTransferHandle : UInt32
  transferFlag : UInt8
  responseCount : UInt16
  deriving Inhabited

/-- The fields of `pldmGetSensorReadingResp` before the reading. -/
structure SensorReadingResp where
  completionCode : UInt8
  sensorDataSize : UInt8
  sensorOperationalState : UInt8
  sensorEventMessageEnable : UInt8
  presentState : UInt8
  previousState : UInt8
  eventState : UInt8
  deriving Inhabited

/-- The platform-monitoring part of a `pldm` object. The two lists are `PdrManager`'s finished
records and the record being received; `sensorReading` is the union inside `mSensorReading`. -/
structure PlatformState where
  pfPdrRepoInfo : PdrRepositoryInfo
  pfPdrReq : PdrReqPayload
  pfPdrResp : PdrRespPayload
  sensorId : UInt16
  rearmEventState : UInt8
  pfSensorReadingResp : SensorReadingResp
  sensorDataSize : UInt8
  sensorReading : Buf 4
  mPdrs : List Bytes
  mCurrentPdr : Bytes
  deriving Inhabited

/-- `pldm_base_multipart_receive_req`. -/
structure MultipartReceiveReq where
  pldmType : UInt8
  transferOperation : UInt8
  transferContext : UInt32
  dataTransferHandle : UInt32
  requestedSectionOffset : UInt32
  requestedSectionLengthBytes : UInt32
  deriving Inhabited

/-- `pldm_base_multipart_receive_resp`. -/
structure MultipartReceiveResp where
  completionCode : UInt8
  transferFlag : UInt8
  nextDataTransferHandle : UInt32
  dataLengthBytes : UInt32
  deriving Inhabited

/-- The file-transfer part of a `pldm` object, with the request and response structures of DfOpen,
DfClose, DfHeartbeat and DfRead spelled out field by field. -/
structure FileTransferState where
  openFileIdentifier : UInt16
  openFileAttribute : UInt16
  openRespCompletionCode : UInt8
  openRespFileDescriptor : UInt16
  closeFileDescriptor : UInt16
  dfCloseOptions : UInt16
  closeRespCompletionCode : UInt8
  heartbeatFileDescriptor : UInt16
  requesterMaxInterval : UInt32
  heartbeatRespCompletionCode : UInt8
  responderMaxInterval : UInt32
  readFileDescriptor : UInt16
  readOffset : UInt32
  readLength : UInt32
  readRespCompletionCode : UInt8
  readRespDataLength : UInt32
  readRespData : Buf 512
  mMultipartReceiveReq : MultipartReceiveReq
  mMultipartReceiveResp : MultipartReceiveResp
  mMultipartReceiveData : Bytes
  mRxAssembledFrame : Bytes
  mRxAssembledPayload : Bytes
  deriving Inhabited

/-- A `pldm` object and the I2C interface below it. -/
structure Pldm where
  /-- The answers of the coming reads: the bytes delivered, or a failure. -/
  reads : Stream' (Option Bytes)
  /-- The results of the coming writes. -/
  writes : Stream' Bool
  trace : List Event
  mI2cPldmRead : Frame
  mI2cPldmWrite : Frame
  mDestEid : UInt8
  instanceID : UInt8
  fw : FwUpdateState
  disc : DiscoveryState
  fru : FruState
  pf : PlatformState
  ft : FileTransferState
  deriving Inhabited

/-- A `pldm` object as its constructor leaves it, before any command. -/
def Pldm.init (reads : Stream' (Option Bytes)) (writes : Stream' Bool) : Pldm :=
  { (default : Pldm) with reads, writes, trace := [], instanceID := 1 }

/-! ## The I2C interface -/

/-- Append an event to the trace. -/
def emit (e : Event) : Prog Pldm Unit := Prog.modify fun s => { s with trace := s.trace ++ [e] }

/-- `writeAmc(wptr + 1, len)`: bytes `1` to `len` of the write frame go to the bus. -/
def writeAmc (len : Nat) : Prog Pldm Bool := do
  let s ← Prog.get
  if len < frameSize then do
    Prog.modify fun s => { s with writes := s.writes.tail }
    emit (.write (s.mI2cPldmWrite.slice 1 len) s.writes.head)
    pure s.writes.head
  else
    Prog.fault

/-- `readAmc(buf + 1, PLDM_MAX_RESPONSE_SIZE)`: the bytes delivered, at most 128, land in the
buffer from its second byte on; a read that delivers fewer leaves the rest as it was. -/
def readInto (buf : Frame) : Prog Pldm (Option Frame) := do
  let s ← Prog.get
  let answer := s.reads.head.map fun bs => buf.overlay 1 (bs.take pldmMaxResponseSize)
  Prog.modify fun s => { s with reads := s.reads.tail }
  emit (.read answer)
  pure answer

/-- `readAmc(rptr + 1, PLDM_MAX_RESPONSE_SIZE)` on the read frame of the object. -/
def readAmc : Prog Pldm Bool := do
  let s ← Prog.get
  match ← readInto s.mI2cPldmRead with
  | some frame => do
      Prog.modify fun s => { s with mI2cPldmRead := frame }
      pure true
  | none => pure false

/-! ## The frame buffers -/

/-- Update the write frame. -/
def modifyWrite (g : Frame → Frame) : Prog Pldm Unit :=
  Prog.modify fun s => { s with mI2cPldmWrite := g s.mI2cPldmWrite }

/-- `memcpy(respPayload + i, …)` on the write frame; past `respPayload` is undefined behaviour. -/
def payloadCopy (i : Nat) (bs : Bytes) : Prog Pldm Unit :=
  if i + bs.length ≤ payloadSize then modifyWrite fun f => f.overlay (payloadStart + i) bs
  else Prog.fault

/-- `respPayload[i] = v` on the write frame. -/
def payloadSet (i : Nat) (v : UInt8) : Prog Pldm Unit := payloadCopy i [v]

/-- `memset(respPayload, 0, size)` on the write frame. -/
def payloadZero (size : Nat) : Prog Pldm Unit := payloadCopy 0 (List.replicate size 0)

/-- `crc8Smbus(respPayload, len)` on the write frame; a negative length converts to a huge one. -/
def payloadCrc (len : Int) : Prog Pldm UInt8 := do
  let s ← Prog.get
  if 0 ≤ len ∧ len ≤ payloadSize then
    pure (crc8Smbus (s.mI2cPldmWrite.slice payloadStart len.toNat))
  else
    Prog.fault

/-- `respPayload[i] = crc8Smbus(respPayload, len)` on the write frame. -/
def payloadSetCrc (i : Nat) (len : Int) : Prog Pldm Unit := do
  let crc ← payloadCrc len
  payloadSet i crc

/-- The two address fields of a received frame that the response handlers fill in. -/
def setDestSlaveAddr : Prog Pldm Unit := Prog.modify fun s =>
  { s with mI2cPldmRead :=
      s.mI2cPldmRead.setByte 0 (mctpSrcSlaveAddr * 2 + mctpSrcSlaveAddrB0) }

/-- The read frame with the address fields that the handler fills in. -/
def Frame.withDestSlaveAddr (f : Frame) : Frame :=
  f.setByte 0 (mctpSrcSlaveAddr * 2 + mctpSrcSlaveAddrB0)

/-! ## Headers -/

/-- `mctp::commandConstruction` on the write frame. -/
def commandConstruction (som eom pktSeq bytecount integrityCheck : UInt8) : Prog Pldm UInt8 := do
  let s ← Prog.get
  modifyWrite fun f => f.overlay 0
    [amcI2cAddr * 2 + mctpDestSlaveAddrB0, mctpCmdCode, bytecount,
     mctpSrcSlaveAddr * 2 + mctpSrcSlaveAddrB0, mctpHeaderVersion + mctpReserved * 16,
     s.mDestEid, mctpSourceEndpointId,
     mctpTagOwner * 8 + pktSeq % 4 * 16 + eom % 2 * 64 + som % 2 * 128,
     mctpControl + integrityCheck % 2 * 128]
  pure mctpSuccess

/-- `mI2cPldmWrite->mctpSmbusHdr.msgType = PLDM_OVER_MCTP`. -/
def setMsgType : Prog Pldm Unit :=
  modifyWrite fun f => f.setByte 8 (f.byte 8 / 128 * 128 + pldmOverMctp)

/-- `pldmHdrConstruction` on the write frame. -/
def pldmHdrConstruction (instanceId cmdType cmd async reqresp : UInt8) : Prog Pldm UInt8 :=
  if instanceId > pldmInstanceIdMax then pure pldmErrorInvalidData
  else if cmdType > pldmTypesMax - 1 then pure pldmErrorInvalidPldmType
  else do
    modifyWrite fun f => f.overlay 9
      [instanceId % 32 + pldmReserved * 32 + (if async = pldmAsyncRequestNotify then 0 else 64)
          + reqresp % 2 * 128,
       cmdType % 64 + pldmHeaderVersion * 64, cmd]
    pure pldmSuccess

/-! ## Steps that fill the write frame -/

/-- A step that at most fills the write frame and the request structures: nothing reaches the bus
and what later steps rely on stays. -/
structure Fills (s t : Pldm) : Prop where
  trace : t.trace = s.trace
  instanceID : t.instanceID = s.instanceID
  reads : t.reads = s.reads
  writes : t.writes = s.writes
  mI2cPldmRead : t.mI2cPldmRead = s.mI2cPldmRead
  mI2cMultiResp : t.fw.mI2cMultiResp = s.fw.mI2cMultiResp
  mCurComp : t.fw.mCurComp = s.fw.mCurComp
  pkg : t.fw.pkg = s.fw.pkg
  compFile : t.fw.compFile = s.fw.compFile
  ft : t.ft = s.ft

instance : Std.Refl Fills := ⟨fun _ => ⟨rfl, rfl, rfl, rfl, rfl, rfl, rfl, rfl, rfl, rfl⟩⟩

instance : IsTrans Pldm Fills where
  trans _ _ _ h h' :=
    { trace := h'.trace.trans h.trace
      instanceID := h'.instanceID.trans h.instanceID
      reads := h'.reads.trans h.reads
      writes := h'.writes.trans h.writes
      mI2cPldmRead := h'.mI2cPldmRead.trans h.mI2cPldmRead
      mI2cMultiResp := h'.mI2cMultiResp.trans h.mI2cMultiResp
      mCurComp := h'.mCurComp.trans h.mCurComp
      pkg := h'.pkg.trans h.pkg
      compFile := h'.compFile.trans h.compFile
      ft := h'.ft.trans h.ft }

/-- The headers in the write frame stay. -/
def KeepsHeader (s t : Pldm) : Prop :=
  ∀ i < payloadStart, t.mI2cPldmWrite.byte i = s.mI2cPldmWrite.byte i

instance : Std.Refl KeepsHeader := ⟨fun _ _ _ => rfl⟩

instance : IsTrans Pldm KeepsHeader := ⟨fun _ _ _ h h' i hi => (h' i hi).trans (h i hi)⟩

/-- A step that at most changes the write frame. -/
def OnlyFrame (s t : Pldm) : Prop := ∃ f, t = { s with mI2cPldmWrite := f }

instance : Std.Refl OnlyFrame := ⟨fun s => ⟨s.mI2cPldmWrite, rfl⟩⟩

instance : IsTrans Pldm OnlyFrame where
  trans := by
    rintro s _ _ ⟨f, rfl⟩ ⟨g, rfl⟩
    exact ⟨g, rfl⟩

theorem OnlyFrame.fills {s t : Pldm} (h : OnlyFrame s t) : Fills s t := by
  obtain ⟨f, rfl⟩ := h
  exact ⟨rfl, rfl, rfl, rfl, rfl, rfl, rfl, rfl, rfl, rfl⟩

theorem fills_of_onlyFrame {α : Type} {m : Prog Pldm α} (h : Within OnlyFrame m) :
    Within Fills m := h.mono fun _ _ => OnlyFrame.fills

theorem onlyFrame_modifyWrite (g : Frame → Frame) : Within OnlyFrame (modifyWrite g) :=
  fun s => ⟨g s.mI2cPldmWrite, rfl⟩

theorem onlyFrame_payloadCopy (i : Nat) (bs : Bytes) : Within OnlyFrame (payloadCopy i bs) :=
  Within.ite (onlyFrame_modifyWrite _) Within.fault

theorem onlyFrame_payloadSetCrc (i : Nat) (len : Int) : Within OnlyFrame (payloadSetCrc i len) :=
  Within.bind
    (Within.bind Within.get fun _ => Within.ite (Within.pure _) Within.fault)
    fun _ => onlyFrame_payloadCopy _ _

theorem onlyFrame_commandConstruction (som eom pktSeq bytecount integrityCheck : UInt8) :
    Within OnlyFrame (commandConstruction som eom pktSeq bytecount integrityCheck) :=
  Within.bind Within.get fun _ => Within.bind (onlyFrame_modifyWrite _) fun _ => Within.pure _

theorem onlyFrame_pldmHdrConstruction (instanceId cmdType cmd async reqresp : UInt8) :
    Within OnlyFrame (pldmHdrConstruction instanceId cmdType cmd async reqresp) :=
  Within.ite (Within.pure _) <| Within.ite (Within.pure _) <|
    Within.bind (onlyFrame_modifyWrite _) fun _ => Within.pure _

theorem keepsHeader_payloadCopy (i : Nat) (bs : Bytes) :
    Within KeepsHeader (payloadCopy i bs) := by
  refine Within.ite (fun s j hj => ?_) Within.fault
  exact Buf.byte_overlay_of_lt (Nat.lt_of_lt_of_le hj (Nat.le_add_right _ _))

theorem keepsHeader_payloadSetCrc (i : Nat) (len : Int) :
    Within KeepsHeader (payloadSetCrc i len) :=
  Within.bind
    (Within.bind Within.get fun _ =>
      Within.ite (Within.pure _) Within.fault)
    fun _ => keepsHeader_payloadCopy _ _

/-- A step that at most changes the payload of the write frame. -/
def OnlyPayload (s t : Pldm) : Prop := OnlyFrame s t ∧ KeepsHeader s t

instance : Std.Refl OnlyPayload := ⟨fun s => ⟨Std.Refl.refl s, Std.Refl.refl s⟩⟩

instance : IsTrans Pldm OnlyPayload where
  trans _ _ _ h h' := ⟨IsTrans.trans _ _ _ h.1 h'.1, IsTrans.trans _ _ _ h.2 h'.2⟩

theorem onlyPayload_payloadCopy (i : Nat) (bs : Bytes) : Within OnlyPayload (payloadCopy i bs) :=
  (onlyFrame_payloadCopy i bs).and (keepsHeader_payloadCopy i bs)

theorem onlyPayload_payloadSetCrc (i : Nat) (len : Int) :
    Within OnlyPayload (payloadSetCrc i len) :=
  (onlyFrame_payloadSetCrc i len).and (keepsHeader_payloadSetCrc i len)

/-- How most builders of a payload end. -/
theorem onlyPayload_setCrc_success (i : Nat) (len : Int) :
    Within OnlyPayload (payloadSetCrc i len >>= fun _ => pure pldmSuccess) :=
  Within.bind (onlyPayload_payloadSetCrc i len) fun _ => Within.pure _

/-- A copy inside `respPayload` goes through. -/
theorem payloadCopy_returns {i : Nat} {bs : Bytes} (h : i + bs.length ≤ payloadSize) (s : Pldm) :
    payloadCopy i bs s =
      (.ret (), { s with mI2cPldmWrite := s.mI2cPldmWrite.overlay (payloadStart + i) bs }) := by
  rw [payloadCopy, if_pos h]
  rfl

/-- A CRC over bytes inside `respPayload`, stored inside `respPayload`, goes through. -/
theorem payloadSetCrc_returns {i : Nat} {len : Int} (hi : i < payloadSize) (h₀ : 0 ≤ len)
    (h : len ≤ payloadSize) (s : Pldm) :
    payloadSetCrc i len s =
      (.ret (), { s with mI2cPldmWrite := s.mI2cPldmWrite.setByte (payloadStart + i)
                           (crc8Smbus (s.mI2cPldmWrite.slice payloadStart len.toNat)) }) := by
  have hcrc : payloadCrc len s =
      (.ret (crc8Smbus (s.mI2cPldmWrite.slice payloadStart len.toNat)), s) := by
    rw [payloadCrc, get_bind_apply, if_pos ⟨h₀, h⟩, pure_apply]
  rw [payloadSetCrc, bind_of_ret hcrc]
  exact payloadCopy_returns hi s

/-- The headers of a message of `size` bytes: MCTP, message type, PLDM. -/
def messageHeaders (cmdType cmd size id reqresp : UInt8) : Prog Pldm UInt8 := do
  let _ ← commandConstruction mctpSom mctpEom mctpPakSeq (size - 3) mctpIntegrityCheck
  setMsgType
  pldmHdrConstruction id cmdType cmd pldmAsyncRequestNotify reqresp

/-- The headers every request of the object carries. -/
abbrev requestHeaders (cmdType cmd size id : UInt8) : Prog Pldm UInt8 :=
  messageHeaders cmdType cmd size id pldmRequest

theorem onlyFrame_messageHeaders (cmdType cmd size id reqresp : UInt8) :
    Within OnlyFrame (messageHeaders cmdType cmd size id reqresp) :=
  Within.bind (onlyFrame_commandConstruction _ _ _ _ _) fun _ =>
    Within.bind (onlyFrame_modifyWrite _) fun _ => onlyFrame_pldmHdrConstruction _ _ _ _ _

/-- The PLDM header of the frame: type, command, instance ID and request bit. -/
structure MessageHeader (cmdType cmd id reqresp : UInt8) (f : Frame) : Prop where
  request : f.byte 9 = id % 32 + reqresp % 2 * 128
  cmdType : f.byte 10 = cmdType
  cmdCode : f.byte 11 = cmd

/-- The PLDM header of a request. -/
abbrev RequestHeader (cmdType cmd id : UInt8) (f : Frame) : Prop :=
  MessageHeader cmdType cmd id pldmRequest f

/-- A header survives steps that keep the headers. -/
theorem MessageHeader.of_keeps {cmdType cmd id reqresp : UInt8} {s t : Pldm}
    (h : MessageHeader cmdType cmd id reqresp s.mI2cPldmWrite) (hst : KeepsHeader s t) :
    MessageHeader cmdType cmd id reqresp t.mI2cPldmWrite where
  request := (hst 9 (by decide)).trans h.request
  cmdType := (hst 10 (by decide)).trans h.cmdType
  cmdCode := (hst 11 (by decide)).trans h.cmdCode

/-- A header survives writes behind it. -/
theorem MessageHeader.overlay {cmdType cmd id reqresp : UInt8} {f : Frame} {i : Nat} {bs : Bytes}
    (h : MessageHeader cmdType cmd id reqresp f) :
    MessageHeader cmdType cmd id reqresp (f.overlay (payloadStart + i) bs) := by
  have hbyte (j : Nat) (hj : j < payloadStart) :
      (f.overlay (payloadStart + i) bs).byte j = f.byte j :=
    Buf.byte_overlay_of_lt (Nat.lt_of_lt_of_le hj (Nat.le_add_right _ _))
  exact ⟨(hbyte 9 (by decide)).trans h.request, (hbyte 10 (by decide)).trans h.cmdType,
    (hbyte 11 (by decide)).trans h.cmdCode⟩

/-- The payload of a message on the wire is the payload of its frame. -/
theorem wirePayload_slice (f : Frame) (n : Nat) :
    wirePayload (f.slice 1 (11 + n)) = f.slice payloadStart n := by
  rw [wirePayload, Buf.slice_add, List.drop_left' (Buf.length_slice _ _ _)]

/-- The request bit as it stands on the wire, when the message is long enough to carry it. -/
theorem MessageHeader.wireRequest {cmdType cmd id reqresp : UInt8} {f : Frame} {len : Nat}
    (h : MessageHeader cmdType cmd id reqresp f) (hlen : 8 < len) :
    wireRequest (f.slice 1 len) = reqresp % 2 := by
  rw [XpuManager.wireRequest, Buf.getD_slice, if_pos hlen, h.request]
  apply UInt8.toNat_inj.mp
  simp only [UInt8.toNat_div, UInt8.toNat_add, UInt8.toNat_mul, UInt8.toNat_mod,
    UInt8.reduceToNat]
  omega

/-- A response does not carry the request bit, however little of it is written. -/
theorem MessageHeader.wireRequest_response {cmdType cmd id : UInt8} {f : Frame} {len : Nat}
    (h : MessageHeader cmdType cmd id pldmResponse f) :
    XpuManager.wireRequest (f.slice 1 len) = pldmResponse := by
  by_cases hlen : 8 < len
  · rw [h.wireRequest hlen]
    decide
  · rw [XpuManager.wireRequest, Buf.getD_slice, if_neg hlen]
    decide

/-- Without the request bit there is no request. -/
theorem isRequest_of_wireRequest {ty c : UInt8} {bs : Bytes}
    (h : XpuManager.wireRequest bs = pldmResponse) : isRequest ty c bs = false := by
  simp [isRequest, h]

/-- A write that carries a request bit carries the instance ID of the header. -/
theorem MessageHeader.wireInstanceID {cmdType cmd id : UInt8} {f : Frame} {len : Nat}
    (h : RequestHeader cmdType cmd id f) (hr : XpuManager.wireRequest (f.slice 1 len) = pldmRequest) :
    wireInstanceID (f.slice 1 len) = id % 32 := by
  by_cases hlen : 8 < len
  · rw [XpuManager.wireInstanceID, Buf.getD_slice, if_pos hlen, h.request]
    apply UInt8.toNat_inj.mp
    simp only [UInt8.toNat_add, UInt8.toNat_mul, UInt8.toNat_mod, UInt8.reduceToNat]
    omega
  · rw [XpuManager.wireRequest, Buf.getD_slice, if_neg hlen] at hr
    exact absurd hr (by decide)

/-- A whole request is recognised by its type and command. -/
theorem MessageHeader.isRequest {cmdType cmd id : UInt8} {f : Frame} {len : Nat}
    (h : RequestHeader cmdType cmd id f) (htype : cmdType < pldmTypesMax) (hlen : 10 < len) :
    isRequest cmdType cmd (f.slice 1 len) = true := by
  have htype' : cmdType % 64 = cmdType := by
    apply UInt8.toNat_inj.mp
    exact Nat.mod_eq_of_lt (UInt8.lt_iff_toNat_lt.mp htype)
  have hreq : XpuManager.wireRequest (f.slice 1 len) = pldmRequest := h.wireRequest (by omega)
  have hlen' : 9 < len := by omega
  simp [XpuManager.isRequest, hreq, wireCmdType, wireCmdCode, hlen, hlen',
    h.cmdType, h.cmdCode, htype']

/-- A request is not taken for another one: its command is the one in the header. -/
theorem MessageHeader.eq_of_isRequest {cmdType cmd id c : UInt8} {f : Frame} {len : Nat}
    (h : RequestHeader cmdType cmd id f) (hc : c ≠ 0)
    (hr : XpuManager.isRequest cmdType c (f.slice 1 len) = true) : c = cmd := by
  simp only [XpuManager.isRequest, Bool.and_eq_true, beq_iff_eq, wireCmdCode, Buf.getD_slice] at hr
  by_cases hlen : 10 < len
  · rw [if_pos hlen, h.cmdCode] at hr
    exact hr.2.symm
  · rw [if_neg hlen] at hr
    exact absurd hr.2.symm hc

/-- **Message headers.** For an instance ID within the limit the header construction succeeds and
leaves that ID, the request bit, the type and the command in the frame. -/
theorem messageHeaders_returns (cmdType cmd size id reqresp : UInt8) (s : Pldm)
    (hid : id ≤ pldmInstanceIdMax) (htype : cmdType < pldmTypesMax) :
    ∃ t, messageHeaders cmdType cmd size id reqresp s = (.ret pldmSuccess, t) ∧
      MessageHeader cmdType cmd id reqresp t.mI2cPldmWrite := by
  have hid' : ¬id > pldmInstanceIdMax := UInt8.not_lt.mpr hid
  have htypeNat : cmdType.toNat < 64 := UInt8.lt_iff_toNat_lt.mp htype
  have htype' : ¬cmdType > pldmTypesMax - 1 := by
    intro h
    have h' : 63 < cmdType.toNat := UInt8.lt_iff_toNat_lt.mp h
    omega
  have hmod : cmdType % 64 + pldmHeaderVersion * 64 = cmdType := by
    apply UInt8.toNat_inj.mp
    simp only [pldmHeaderVersion, UInt8.toNat_add, UInt8.toNat_mod, UInt8.toNat_mul,
      UInt8.reduceToNat]
    omega
  refine ⟨(messageHeaders cmdType cmd size id reqresp s).2, ?_, ?_⟩ <;>
    simp only [messageHeaders, commandConstruction, setMsgType, modifyWrite, pldmHdrConstruction,
      if_neg hid', if_neg htype', get_bind_apply, modify_bind_apply, Prog.bind_assoc,
      Prog.pure_bind, pure_apply]
  constructor
  · rw [Buf.byte_overlay_of_mem (by decide) (by decide) (by simp)]
    simp [pldmReserved]
  · rw [Buf.byte_overlay_of_mem (by decide) (by decide) (by simp)]
    exact hmod
  · rw [Buf.byte_overlay_of_mem (by decide) (by decide) (by simp)]
    rfl

/-- Headers are only built for an instance ID within the limit. -/
theorem id_le_of_messageHeaders {cmdType cmd size id reqresp : UInt8} {s t : Pldm}
    (h : messageHeaders cmdType cmd size id reqresp s = (.ret pldmSuccess, t)) :
    id ≤ pldmInstanceIdMax := by
  by_contra hid
  have hgt : id > pldmInstanceIdMax := UInt8.not_le.mp hid
  simp only [messageHeaders, commandConstruction, setMsgType, modifyWrite, pldmHdrConstruction,
    if_pos hgt, get_bind_apply, modify_bind_apply, Prog.bind_assoc, Prog.pure_bind,
    pure_apply] at h
  exact absurd (Outcome.ret.inj (Prod.mk.inj h).1) (by decide)

/-! ## What the bus steps do -/

/-- The state after `len` bytes of the write frame went to the bus. -/
def Pldm.afterWrite (s : Pldm) (len : Nat) : Pldm :=
  { s with writes := s.writes.tail
           trace := s.trace ++ [.write (s.mI2cPldmWrite.slice 1 len) s.writes.head] }

/-- The read frame once `bs` has been delivered into it. -/
def Pldm.received (s : Pldm) (bs : Bytes) : Frame :=
  s.mI2cPldmRead.overlay 1 (bs.take pldmMaxResponseSize)

/-- The state after a read into the read frame that delivered `bs`. -/
def Pldm.afterRead (s : Pldm) (bs : Bytes) : Pldm :=
  { s with reads := s.reads.tail
           trace := s.trace ++ [.read (some (s.received bs))]
           mI2cPldmRead := s.received bs }

/-- The state after a read that failed. -/
def Pldm.afterFailedRead (s : Pldm) : Pldm :=
  { s with reads := s.reads.tail, trace := s.trace ++ [.read none] }

/-- A failed read of the bus. -/
theorem readAmc_of_none {s : Pldm} (h : s.reads.head = none) :
    readAmc s = (.ret false, s.afterFailedRead) := by
  simp only [readAmc, readInto, emit, Prog.bind_assoc, Prog.get_bind_apply,
    Prog.modify_bind_apply, Prog.pure_bind, h, Option.map_none]
  rfl

/-- A read of the bus that brings a packet. -/
theorem readAmc_of_some {s : Pldm} {bs : Bytes} (h : s.reads.head = some bs) :
    readAmc s = (.ret true, s.afterRead bs) := by
  simp only [readAmc, readInto, emit, Prog.bind_assoc, Prog.get_bind_apply,
    Prog.modify_bind_apply, Prog.pure_bind, h, Option.map_some]
  rfl

end XpuManager
