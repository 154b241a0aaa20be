import XpuManager.Amc.Exchange

/-! # PLDM discovery

The discovery family of a `pldm` object: terminus ID, supported types, their versions and
commands. -/

namespace XpuManager

open Prog

/-! ## Command codes -/

abbrev pldmSetTid : UInt8 := 0x01
abbrev pldmGetTid : UInt8 := 0x02
abbrev pldmGetVersion : UInt8 := 0x03
abbrev pldmGetTypes : UInt8 := 0x04
abbrev pldmGetCommands : UInt8 := 0x05

abbrev pldmDiscoveryTid : UInt8 := 0x03

abbrev pldmGetTidSize : UInt8 := 12
abbrev pldmGetTypesSize : UInt8 := 12
abbrev pldmSetTidSize : UInt8 := 13
abbrev pldmGetVersionSize : UInt8 := 18
abbrev pldmGetCommandsSize : UInt8 := 17

/-- Update the discovery part of the object. -/
def modifyDisc (g : DiscoveryState → DiscoveryState) : Prog Pldm Unit :=
  Prog.modify fun s => { s with disc := g s.disc }

/-- The entries of `versionInfo` in use. -/
def DiscoveryState.entries (d : DiscoveryState) : List (Fin 8) :=
  (List.finRange 8).take d.mPldmRespInfo.totalSupportedTypes.toNat

/-- The first entry of a PLDM type. -/
def DiscoveryState.entryOf (d : DiscoveryState) (type : UInt8) : Option (Fin 8) :=
  d.entries.find? fun i => (d.versionInfo i).type == type

/-! ## Requests -/

/-- `pldmDiscoveryGetVersionPayload`. -/
def pldmDiscoveryGetVersionPayload (msgType pldmCmdLen : UInt8) : Prog Pldm UInt8 := do
  payloadZero pldmCmdLen.toNat
  payloadCopy 0 [0, 0, 0, 0, 1, msgType]
  payloadSetCrc 6 (pldmCmdLen.toNat - 1)
  pure pldmSuccess

/-- `pldmDiscoveryGetCmdPayload`. -/
def pldmDiscoveryGetCmdPayload (type pldmCmdLen : UInt8) : Prog Pldm UInt8 := do
  payloadZero pldmCmdLen.toNat
  payloadSet 0 type
  let s ← Prog.get
  match s.disc.entryOf type with
  | some i =>
    let v := s.disc.versionInfo i
    payloadCopy 1 [v.alpha, v.update, v.minor, v.major]
  | none => pure ()
  payloadSetCrc 5 (pldmCmdLen.toNat - 1)
  pure pldmSuccess

/-- `pldmDiscoveryFillPayload`. -/
def pldmDiscoveryFillPayload (cmd pldmCmdLen : UInt8) : Prog Pldm UInt8 := do
  let s ← Prog.get
  if cmd = pldmSetTid then do
    payloadSet 0 (if s.disc.mPldmRespInfo.tid = 0 then pldmDiscoveryTid
      else s.disc.mPldmRespInfo.tid)
    payloadSetCrc 1 (pldmCmdLen.toNat - 1)
    pure pldmSuccess
  else if cmd = pldmGetTid ∨ cmd = pldmGetTypes then do
    payloadZero pldmCmdLen.toNat
    payloadSetCrc 0 (pldmCmdLen.toNat - 1)
    pure pldmSuccess
  else pure pldmError

/-- The payload of a discovery request. -/
def discoveryPayload (cmd size pldmVersionType : UInt8) : Prog Pldm UInt8 :=
  if cmd = pldmGetVersion then pldmDiscoveryGetVersionPayload pldmVersionType size
  else if cmd = pldmGetCommands then pldmDiscoveryGetCmdPayload pldmVersionType size
  else orError (pldmDiscoveryFillPayload cmd size)

/-! ## Responses -/

/-- `discoveryResponsePayload`; both parameters are unused. -/
def discoveryResponsePayload (_cmd _id : UInt8) : Prog Pldm UInt8 := responsePayload

/-- One step of the loop of `getbitposition`: a set bit takes the next entry. -/
def noteBit (num : UInt8) (acc : (Fin 8 → PldmVersionInfo) × Nat) (i : Nat) :
    (Fin 8 → PldmVersionInfo) × Nat :=
  if num.toNat / 2 ^ i % 2 = 1 then
    (fun j => if j.val = acc.2 then { acc.1 j with type := UInt8.ofNat i } else acc.1 j, acc.2 + 1)
  else acc

/-- `getbitposition`: the set bits of `num` are the supported types. -/
def getbitposition (num : UInt8) : Prog Pldm UInt8 := do
  modifyDisc fun d =>
    let acc := (List.range 8).foldl (noteBit num) (d.versionInfo, 0)
    { d with versionInfo := acc.1
             mPldmRespInfo :=
               { d.mPldmRespInfo with totalSupportedTypes := UInt8.ofNat acc.2 } }
  pure pldmSuccess

/-- The entry with the four version bytes of a GetVersion response. -/
def PldmVersionInfo.withVersion (v : PldmVersionInfo) (f : Frame) : PldmVersionInfo :=
  { v with major := f.respPayload 9, minor := f.respPayload 8, update := f.respPayload 7
           alpha := f.respPayload 6 }

/-- `discoveryResponse`. A version response is only accepted for a type in `versionInfo`. -/
def discoveryResponse (cmd id pldmVersionType : UInt8) : Prog Pldm UInt8 :=
  if cmd = pldmSetTid ∨ cmd = pldmGetCommands then discoveryResponsePayload cmd id
  else if cmd = pldmGetTid then
    andThen (discoveryResponsePayload cmd id) do
      let s ← Prog.get
      let tid := s.mI2cPldmRead.respPayload 1
      if tid = 0 then pure pldmSuccess
      else do
        modifyDisc fun d => { d with mPldmRespInfo := { d.mPldmRespInfo with tid } }
        pure pldmSuccess
  else if cmd = pldmGetTypes then
    andThen (discoveryResponsePayload cmd id) do
      let s ← Prog.get
      let types := s.mI2cPldmRead.respPayload 1
      modifyDisc fun d => { d with mPldmRespInfo := { d.mPldmRespInfo with supportedTypes := types } }
      getbitposition types
  else if cmd = pldmGetVersion then
    andThen (discoveryResponsePayload cmd id) do
      let s ← Prog.get
      match s.disc.entryOf pldmVersionType with
      | none => pure pldmError
      | some i => do
          modifyDisc fun d => { d with versionInfo := fun j =>
            if j = i then (d.versionInfo j).withVersion s.mI2cPldmRead else d.versionInfo j }
          pure pldmSuccess
  else pure pldmError

/-! ## Commands -/

/-- `discoveryCmd`. The status of the header construction is not looked at. -/
def discoveryCmd (cmd size pldmVersionType : UInt8) : Prog Pldm UInt8 :=
  exchange pldmMessageDiscovery cmd
    (fun id => headersThen pldmMessageDiscovery cmd size id
      (discoveryPayload cmd size pldmVersionType))
    (fun _ => size) fun id => receiveThen (discoveryResponse cmd id pldmVersionType)

/-- A command for each entry in use but those of the types to skip; a failure ends the loop. -/
def forEachType (skip : List UInt8) (cmd size : UInt8) : Prog Pldm UInt8 := do
  let s ← Prog.get
  let ret ← Prog.forEach (fun (i : Fin 8) (_ : Unit) => do
    let s ← Prog.get
    let type := (s.disc.versionInfo i).type
    if type ∈ skip then pure (.inr ())
    else do
      let ret ← discoveryCmd cmd size type
      pure (if ret = pldmSuccess then .inr () else .inl pldmError)) s.disc.entries ()
  match ret with
  | .inl ret => pure ret
  | .inr () => pure pldmSuccess

/-- `pldmDiscInitialize`. The commands of the file-transfer type 7 are not asked for. -/
def pldmDiscInitialize : Prog Pldm UInt8 :=
  andThen (orError (discoveryCmd pldmGetTypes pldmGetTypesSize 0)) <|
    andThen (forEachType [] pldmGetVersion pldmGetVersionSize) <|
      andThen (forEachType [pldmFileTransfer] pldmGetCommands pldmGetCommandsSize) <|
        andThen (orError (discoveryCmd pldmGetTid pldmGetTidSize 0)) <|
          orError (discoveryCmd pldmSetTid pldmSetTidSize 0)

/-! ## What the steps do -/

theorem onlyPayload_discoveryPayload (cmd size pldmVersionType : UInt8) :
    Within OnlyPayload (discoveryPayload cmd size pldmVersionType) := by
  unfold discoveryPayload
  refine Within.ite ?_ (Within.ite ?_ (within_orError ?_))
  · exact Within.bind (onlyPayload_payloadCopy _ _) fun _ =>
      Within.bind (onlyPayload_payloadCopy _ _) fun _ => onlyPayload_setCrc_success _ _
  · refine Within.bind (onlyPayload_payloadCopy _ _) fun _ =>
      Within.bind (onlyPayload_payloadCopy _ _) fun _ => Within.bind Within.get fun s => ?_
    split
    · exact Within.bind (onlyPayload_payloadCopy _ _) fun _ => onlyPayload_setCrc_success _ _
    · exact onlyPayload_setCrc_success _ _
  · refine Within.bind Within.get fun s => Within.ite ?_ (Within.ite ?_ (Within.pure _))
    · exact Within.bind (onlyPayload_payloadCopy _ _) fun _ => onlyPayload_setCrc_success _ _
    · exact Within.bind (onlyPayload_payloadCopy _ _) fun _ => onlyPayload_setCrc_success _ _

/-- A response changes the discovery state and writes nothing. -/
theorem quiet_discoveryResponse (cmd id pldmVersionType : UInt8) :
    Within Quiet (discoveryResponse cmd id pldmVersionType) := by
  have hpay : Within Quiet (discoveryResponsePayload cmd id) := quiet_responsePayload
  have hdisc (g : DiscoveryState → DiscoveryState) : Within Quiet (modifyDisc g) :=
    fun _ => ⟨rfl, rfl, rfl⟩
  have hchain {k : Prog Pldm UInt8} (hk : Within Quiet k) :
      Within Quiet (andThen (discoveryResponsePayload cmd id) k) :=
    Within.bind hpay fun _ => Within.ite hk (Within.pure _)
  unfold discoveryResponse
  refine Within.ite hpay (Within.ite (hchain ?_) (Within.ite (hchain ?_)
    (Within.ite (hchain ?_) (Within.pure _))))
  · exact Within.bind Within.get fun _ => Within.ite (Within.pure _)
      (Within.bind (hdisc _) fun _ => Within.pure _)
  · exact Within.bind Within.get fun _ => Within.bind (hdisc _) fun _ =>
      Within.bind (hdisc _) fun _ => Within.pure _
  · refine Within.bind Within.get fun s => ?_
    split
    · exact Within.pure _
    · exact Within.bind (hdisc _) fun _ => Within.pure _

/-- **The run lemma of `discoveryCmd`.** -/
theorem discoveryCmd_run (cmd size pldmVersionType : UInt8) {s : Pldm}
    (hid : s.instanceID ≤ pldmInstanceIdMax) :
    wp (discoveryCmd cmd size pldmVersionType) (ExchangeRun pldmMessageDiscovery cmd False
      (RequestOf pldmMessageDiscovery cmd (wrapId s.instanceID) size) s) s :=
  headersThen_run hid (by decide) (onlyPayload_discoveryPayload cmd size pldmVersionType)
    fun id => receives_receiveThen (quiet_discoveryResponse cmd id pldmVersionType)

end XpuManager
