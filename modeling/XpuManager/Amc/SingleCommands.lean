import XpuManager.Amc.Exchange

/-! # Commands of a single exchange

The VRSync commands, which are OEM specific, and the reset of the GPU, which sets the state of an
effecter. Neither has a family of its own. -/

namespace XpuManager

open Prog

/-! ## VRSync -/

abbrev pldmOemVrSyncPause : UInt8 := 0x01
abbrev pldmOemVrSyncResume : UInt8 := 0x02

abbrev oemCommandBaseSize : UInt8 := 12

/-- The payload of a VRSync request: zeros, the first of them overwritten by the CRC of the rest. -/
def oemVrsyncPayload : Prog Pldm UInt8 := do
  payloadZero oemCommandBaseSize.toNat
  payloadSetCrc 0 (oemCommandBaseSize.toNat - 1)
  pure pldmSuccess

/-- `oemVrsyncRespPayload`; both parameters are unused. -/
def oemVrsyncRespPayload (_cmd _id : UInt8) : Prog Pldm UInt8 := responsePayload

/-- `oemVrsyncResp`. The command is looked at only here, when its request has been sent. -/
def oemVrsyncResp (cmd id : UInt8) : Prog Pldm UInt8 :=
  if cmd = pldmOemVrSyncPause ∨ cmd = pldmOemVrSyncResume then oemVrsyncRespPayload cmd id
  else pure pldmError

/-- `oemVrsyncCmd`. The status of the header construction is not looked at. -/
def oemVrsyncCmd (cmd : UInt8) : Prog Pldm UInt8 :=
  exchange pldmOemSpecific cmd
    (fun id => headersThen pldmOemSpecific cmd oemCommandBaseSize id oemVrsyncPayload)
    (fun _ => oemCommandBaseSize) fun id => receiveThen (oemVrsyncResp cmd id)

/-! ## GPU reset -/

abbrev pldmSetStateEffecterStates : UInt8 := 0x39
abbrev pldmStateEffecterAicReset : UInt16 := 402
abbrev setRequestSet : UInt8 := 0x01
abbrev effecterStateRequestRestart : UInt8 := 0x02

/-- `MCTP_HEADER_SIZE + PLDM_HEADER_SIZE + sizeof(setStateEffecterStatesReq)`. -/
abbrev amcGpuResetSize : UInt8 := 17

/-- The bytes of the `setStateEffecterStatesReq` that is sent. -/
def setStateEffecterStatesReq : Bytes :=
  leBytes 2 pldmStateEffecterAicReset.toNat ++ [1, setRequestSet, effecterStateRequestRestart]

/-- The request: the payload first, without a CRC, then the headers. -/
def amcGpuResetRequest (id : UInt8) : Prog Pldm UInt8 := do
  payloadCopy 0 setStateEffecterStatesReq
  let _ ← requestHeaders pldmPlatformMonitoring pldmSetStateEffecterStates amcGpuResetSize id
  pure pldmSuccess

/-- The checks on the response: request bit, instance ID and completion code. -/
def amcGpuResetResp (id : UInt8) : Prog Pldm UInt8 := do
  let s ← Prog.get
  let f := s.mI2cPldmRead
  if f.request ≠ 0 then pure pldmError
  else if f.instanceID ≠ id then pure pldmError
  else if f.respPayload 0 ≠ pldmSuccess then pure pldmError
  else pure pldmSuccess

/-- `pldm::amcGpuReset`. -/
def amcGpuReset : Prog Pldm UInt8 :=
  exchange pldmPlatformMonitoring pldmSetStateEffecterStates amcGpuResetRequest
    (fun _ => amcGpuResetSize) fun id => receiveThen (amcGpuResetResp id)

/-! ## What the steps do -/

theorem onlyPayload_oemVrsyncPayload : Within OnlyPayload oemVrsyncPayload :=
  Within.bind (onlyPayload_payloadCopy _ _) fun _ => onlyPayload_setCrc_success _ _

theorem quiet_oemVrsyncResp (cmd id : UInt8) : Within Quiet (oemVrsyncResp cmd id) :=
  Within.ite quiet_responsePayload (Within.pure _)

/-- **The run lemma of `oemVrsyncCmd`.** -/
theorem oemVrsyncCmd_run (cmd : UInt8) {s : Pldm} (hid : s.instanceID ≤ pldmInstanceIdMax) :
    wp (oemVrsyncCmd cmd) (ExchangeRun pldmOemSpecific cmd False
      (RequestOf pldmOemSpecific cmd (wrapId s.instanceID) oemCommandBaseSize) s) s :=
  headersThen_run hid (by decide) onlyPayload_oemVrsyncPayload
    fun id => receives_receiveThen (quiet_oemVrsyncResp cmd id)

theorem onlyFrame_amcGpuResetRequest (id : UInt8) : Within OnlyFrame (amcGpuResetRequest id) :=
  Within.bind (onlyFrame_payloadCopy _ _) fun _ =>
    Within.bind (onlyFrame_messageHeaders _ _ _ _ _) fun _ => Within.pure _

theorem quiet_amcGpuResetResp (id : UInt8) : Within Quiet (amcGpuResetResp id) :=
  Within.bind Within.get fun _ => Within.ite (Within.pure _) (Within.ite (Within.pure _)
    (Within.ite (Within.pure _) (Within.pure _)))

/-- The request that was built for an instance ID. -/
theorem amcGpuResetRequest_header {id : UInt8} (hid : id ≤ pldmInstanceIdMax) {s t : Pldm}
    (h : amcGpuResetRequest id s = (.ret pldmSuccess, t)) :
    RequestHeader pldmPlatformMonitoring pldmSetStateEffecterStates id t.mI2cPldmWrite := by
  obtain ⟨⟨⟩, u, -, hrest⟩ := bind_eq_ret_iff.mp h
  obtain ⟨v, hheaders, hdr⟩ := messageHeaders_returns pldmPlatformMonitoring
    pldmSetStateEffecterStates amcGpuResetSize id pldmRequest u hid (by decide)
  rw [bind_of_ret hheaders] at hrest
  obtain rfl : v = t := (Prod.mk.inj hrest).2
  exact hdr

/-- **The run lemma of `amcGpuReset`.** -/
theorem amcGpuReset_run {s : Pldm} (hid : s.instanceID ≤ pldmInstanceIdMax) :
    wp amcGpuReset (ExchangeRun pldmPlatformMonitoring pldmSetStateEffecterStates False
      (RequestOf pldmPlatformMonitoring pldmSetStateEffecterStates (wrapId s.instanceID)
        amcGpuResetSize) s) s :=
  exchange_run (fun id => fills_of_onlyFrame (onlyFrame_amcGpuResetRequest id))
    (fun t ht => ⟨t.mI2cPldmWrite, rfl, amcGpuResetRequest_header (wrapId_le hid) ht⟩)
    False.elim fun id => receives_receiveThen (quiet_amcGpuResetResp id)

end XpuManager
