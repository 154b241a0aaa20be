import XpuManager.Amc.Exchange

/-! # The FRU record table

The FRU family of a `pldm` object: the metadata of the record table and the table itself, part by
part. -/

namespace XpuManager

open Prog

abbrev pldmGetFruRecordTableMetadata : UInt8 := 0x01
abbrev pldmGetFruRecordTable : UInt8 := 0x02

abbrev pldmGetFruTableMetadataSize : UInt8 := 12
abbrev pldmGetFruTableSize : UInt8 := 17

/-- Update the FRU part of the object. -/
def modifyFru (g : FruState → FruState) : Prog Pldm Unit :=
  Prog.modify fun s => { s with fru := g s.fru }

/-! ## Requests -/

/-- `pldmFruFillPayload`. -/
def pldmFruFillPayload (cmd pldmCmdLen : UInt8) : Prog Pldm UInt8 :=
  if cmd = pldmGetFruRecordTableMetadata then do
    payloadZero pldmCmdLen.toNat
    payloadSetCrc 0 (pldmCmdLen.toNat - 1)
    pure pldmSuccess
  else if cmd = pldmGetFruRecordTable then do
    let s ← Prog.get
    payloadCopy 0 (leBytes 4 s.fru.dataXferHandle.toNat ++ [s.fru.xferOpFlag])
    payloadSetCrc 5 (pldmCmdLen.toNat - 1)
    pure pldmSuccess
  else pure pldmError

/-! ## Responses -/

/-- `pldmFruResponsePayload`; both parameters are unused. -/
def pldmFruResponsePayload (_cmd _id : UInt8) : Prog Pldm UInt8 := responsePayload

/-- The metadata of a response. -/
def fruMetadata (f : Frame) : FruTableMetadata where
  fruDataMajorVersion := f.respPayload 1
  fruDataMinorVersion := f.respPayload 2
  fruTableMaxSize := UInt32.ofNat (f.field 3 4)
  fruTableLen := UInt32.ofNat (f.field 7 4)
  totalRecordSetIdentifiers := UInt16.ofNat (f.field 11 2)
  totalNumRecords := UInt16.ofNat (f.field 13 2)
  checksum := UInt32.ofNat (f.field 15 4)

/-- `headerSize` of a table response: both headers, completion code, handle and flag. -/
abbrev fruTableHeaderSize : UInt32 := 18

/-- `mFruCurrentDataLength`: the difference is 32 bits wide and cut to 16. -/
def fruDataLength (f : Frame) : UInt16 :=
  (f.byteCount.toUInt32 + 3 - fruTableHeaderSize).toUInt16

/-- The table data of a response, from `respPayload[6]` on. Its length is only that of the frame's
byte count: data past the frame is undefined behaviour. -/
def copyFruData (f : Frame) : Prog Pldm Unit :=
  if 6 + (fruDataLength f).toNat ≤ payloadSize then
    modifyFru fun fru => { fru with mFruTableResponse := { fru.mFruTableResponse with
      fruTableData := fru.mFruTableResponse.fruTableData.overlay 0
        (f.slice (payloadStart + 6) (fruDataLength f).toNat) } }
  else Prog.fault

/-- `pldmFruResponse`. -/
def pldmFruResponse (cmd id : UInt8) : Prog Pldm UInt8 :=
  if cmd = pldmGetFruRecordTableMetadata then
    andThen (pldmFruResponsePayload cmd id) do
      let s ← Prog.get
      modifyFru fun fru => { fru with mFruMetadata := fruMetadata s.mI2cPldmRead }
      pure pldmSuccess
  else if cmd = pldmGetFruRecordTable then
    andThen (pldmFruResponsePayload cmd id) do
      let s ← Prog.get
      let f := s.mI2cPldmRead
      modifyFru fun fru => { fru with
        mFruTableResponse := { fru.mFruTableResponse with
          completionCode := f.respPayload 0
          nextDataXferHandle := UInt32.ofNat (f.field 1 4)
          xferFlag := f.respPayload 5 }
        mFruCurrentDataLength := fruDataLength f }
      copyFruData f
      pure pldmSuccess
  else pure pldmError

/-! ## Commands -/

/-- `pldmFruCommand`. The status of the header construction is not looked at. -/
def pldmFruCommand (cmd size : UInt8) : Prog Pldm UInt8 :=
  exchange pldmFru cmd
    (fun id => headersThen pldmFru cmd size id (orError (pldmFruFillPayload cmd size)))
    (fun _ => size) fun id => receiveThen (pldmFruResponse cmd id)

/-- `getFruRecordTableMetadata`. -/
def getFruRecordTableMetadata : Prog Pldm UInt8 :=
  orError (pldmFruCommand pldmGetFruRecordTableMetadata pldmGetFruTableMetadataSize)

/-- `getFruRecordTable`. -/
def getFruRecordTable (dataXferHandle : UInt32) (xferOpFlag : UInt8) : Prog Pldm UInt8 := do
  modifyFru fun fru => { fru with dataXferHandle, xferOpFlag }
  orError (pldmFruCommand pldmGetFruRecordTable pldmGetFruTableSize)

/-! ## What the steps do -/

theorem onlyPayload_pldmFruFillPayload (cmd pldmCmdLen : UInt8) :
    Within OnlyPayload (pldmFruFillPayload cmd pldmCmdLen) := by
  unfold pldmFruFillPayload
  refine Within.ite ?_ (Within.ite ?_ (Within.pure _))
  · exact Within.bind (onlyPayload_payloadCopy _ _) fun _ => onlyPayload_setCrc_success _ _
  · exact Within.bind Within.get fun _ =>
      Within.bind (onlyPayload_payloadCopy _ _) fun _ => onlyPayload_setCrc_success _ _

theorem quiet_pldmFruResponse (cmd id : UInt8) : Within Quiet (pldmFruResponse cmd id) := by
  have hpay : Within Quiet (pldmFruResponsePayload cmd id) := quiet_responsePayload
  have hfru (g : FruState → FruState) : Within Quiet (modifyFru g) := fun _ => ⟨rfl, rfl, rfl⟩
  unfold pldmFruResponse
  refine Within.ite ?_ (Within.ite ?_ (Within.pure _))
  · exact Within.bind hpay fun _ => Within.ite (Within.bind Within.get fun _ =>
      Within.bind (hfru _) fun _ => Within.pure _) (Within.pure _)
  · refine Within.bind hpay fun _ => Within.ite (Within.bind Within.get fun s =>
      Within.bind (hfru _) fun _ => Within.bind ?_ fun _ => Within.pure _) (Within.pure _)
    exact Within.ite (hfru _) Within.fault

/-- A FRU response is only accepted with the completion code zero. -/
theorem pldmFruResponse_success {cmd id : UInt8} {s t : Pldm}
    (h : pldmFruResponse cmd id s = (.ret pldmSuccess, t)) :
    s.mI2cPldmRead.respPayload 0 = pldmSuccess := by
  unfold pldmFruResponse at h
  split at h
  case isTrue => exact andThen_responsePayload_success h
  case isFalse =>
  split at h
  case isTrue => exact andThen_responsePayload_success h
  case isFalse => simp at h

/-- **The run lemma of `pldmFruCommand`.** -/
theorem pldmFruCommand_run (cmd size : UInt8) {s : Pldm} (hid : s.instanceID ≤ pldmInstanceIdMax) :
    wp (pldmFruCommand cmd size)
      (ExchangeRun pldmFru cmd False (RequestOf pldmFru cmd (wrapId s.instanceID) size) s) s :=
  headersThen_run hid (by decide) (within_orError (onlyPayload_pldmFruFillPayload cmd size))
    fun id => receives_receiveThen (quiet_pldmFruResponse cmd id)

end XpuManager
