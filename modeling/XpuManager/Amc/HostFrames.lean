import XpuManager.Amc.Discovery
import XpuManager.Amc.FrameCrc
import XpuManager.Amc.Fru
import XpuManager.Amc.SingleCommands

/-! # The frames the host sends

Every request and response of the object, and whether its last byte is the CRC of the payload. -/

namespace XpuManager

open Prog

/-! ## What a run sends -/

/-- Everything that a run from `s` to `t` hands to the bus has the property `P`. -/
def Sends (P : Bytes → Prop) (s t : Pldm) : Prop :=
  ∃ evs, t.trace = s.trace ++ evs ∧ ∀ bs ok, .write bs ok ∈ evs → P bs

section Sends

variable {P : Bytes → Prop} {s t : Pldm}

instance : Std.Refl (Sends P) := ⟨fun _ => ⟨[], (List.append_nil _).symm, by simp⟩⟩

instance : IsTrans Pldm (Sends P) where
  trans _ _ _ h h' := by
    obtain ⟨evs, htrace, hevs⟩ := h
    obtain ⟨evs', htrace', hevs'⟩ := h'
    refine ⟨evs ++ evs', by rw [htrace', htrace, List.append_assoc], fun bs ok hmem => ?_⟩
    rcases List.mem_append.mp hmem with hmem | hmem
    · exact hevs bs ok hmem
    · exact hevs' bs ok hmem

/-- A step that adds no event sends nothing. -/
theorem Sends.of_trace (h : t.trace = s.trace) : Sends P s t :=
  ⟨[], by rw [h, List.append_nil], by simp⟩

/-- Building a message sends nothing. -/
theorem sends_of_onlyFrame {α : Type} {m : Prog Pldm α} (h : Within OnlyFrame m) :
    Within (Sends P) m := h.mono fun _ _ hframe => .of_trace hframe.fills.trace

/-- The request in the write frame. -/
theorem sends_sendRequest {len : Pldm → UInt8}
    (h : P (s.mI2cPldmWrite.slice 1 (len s).toNat)) : Sends P s (sendRequest len s).2 := by
  rw [sendRequest_apply]
  split
  · refine ⟨_, rfl, fun bs ok hmem => ?_⟩
    obtain ⟨rfl, -⟩ := Event.write.inj (List.mem_singleton.mp hmem)
    exact h
  · exact .of_trace rfl

/-- Building a message and sending it. -/
theorem sends_then_sendRequest {m : Prog Pldm Unit} {len : UInt8} (hm : Within OnlyFrame m)
    (h : ∀ t, m s = (.ret (), t) → P (t.mI2cPldmWrite.slice 1 len.toNat)) :
    Sends P s ((m >>= fun _ => sendRequest fun _ => len) s).2 := by
  have hbuilt : Sends P s (m s).2 := sends_of_onlyFrame hm s
  rcases hrun : m s with ⟨⟨⟩ | _ | _, t⟩
  · rw [hrun] at hbuilt
    rw [bind_of_ret hrun]
    exact IsTrans.trans _ _ _ hbuilt (sends_sendRequest (h t hrun))
  · rw [hrun] at hbuilt
    rw [bind_of_fault hrun]
    exact hbuilt
  · rw [hrun] at hbuilt
    rw [bind_of_cut hrun]
    exact hbuilt

/-- The event that closes an exchange is no write. -/
theorem write_notMem_closing {cmdType cmd id : UInt8} {bs : Bytes} {ok : Bool} (o : Outcome UInt8) :
    Event.write bs ok ∉ closing cmdType cmd o id := by
  rcases o with r | _ | _
  · simp [closing]
  · simp [closing]
  · simp [closing]

/-- **What an exchange sends** is the request it built. -/
theorem sends_exchange {cmdType cmd : UInt8} {prep recv : UInt8 → Prog Pldm UInt8}
    {len : Pldm → UInt8} (hprep : ∀ id, Within Fills (prep id))
    (hrecv : ∀ id, Within Receives (recv id))
    (hsent : ∀ u, prep s.wrapped.instanceID s.wrapped = (.ret pldmSuccess, u) →
      P (u.mI2cPldmWrite.slice 1 (len u).toNat)) :
    Sends P s (exchange cmdType cmd prep len recv s).2 := by
  have hrun : wp (exchange cmdType cmd prep len recv) (ExchangeRun cmdType cmd False P s) s :=
    exchange_run hprep hsent False.elim hrecv
  obtain ⟨-, bus, hbus, htrace⟩ := hrun
  rw [List.append_assoc] at htrace
  refine ⟨_, htrace, fun bs ok hmem => ?_⟩
  rcases List.mem_append.mp hmem with hmem | hmem
  · cases hbus with
    | unbuilt => cases hmem
    | sent hP _ hreads =>
      rcases List.mem_cons.mp hmem with heq | hmem
      · obtain ⟨rfl, -⟩ := Event.write.inj heq
        exact hP
      · cases hreads _ hmem
  · exact absurd hmem (write_notMem_closing _)

end Sends

/-! ## The frames -/

/-- The frames of the object, as the callers of the command functions send them. -/
inductive PldmFrame where
  | getTypes
  | getVersion (type : UInt8)
  | getCommands (type : UInt8)
  | getTid
  | setTid
  | getFruRecordTableMetadata
  | getFruRecordTable
  | getPdrRepositoryInfo
  | getPdr
  | getSensorReading
  | dfOpen
  | dfClose
  | multipartReceive
  | queryDeviceIdentifiers
  | getFirmwareParameters
  | requestUpdate
  | passComponentTable
  | updateComponent
  | getStatus
  | activateFirmware
  | cancelUpdate
  | vrsync (cmd : UInt8)
  | gpuReset
  /-- The response of `respondtoamc`. -/
  | acknowledge (completioncode : UInt8)
  /-- The response of `writeToAMCCompXfer`. -/
  | firmwareData (offset lenToSend : UInt32) (completioncode : UInt8)

/-- The component that is being installed. -/
def Pldm.currentComp (s : Pldm) : Option CompImageInfo :=
  s.fw.pkg.bind fun pkg => pkg.compImages[s.fw.mCurComp.toNat]?

/-- `mFwuCmdLen` of a request that carries a structure with a fixed part of `fixedSize` bytes and
the version string of the component. -/
def Pldm.structCmdLen (s : Pldm) (fixedSize : UInt8) : UInt8 :=
  fwuCommandBaseSize + fixedSize + (s.currentComp.map CompImageInfo.verStrLen).getD 0

namespace PldmFrame

/-- The function that sends the frame. -/
def send (fuel : Nat) : PldmFrame → Prog Pldm UInt8
  | getTypes => discoveryCmd pldmGetTypes pldmGetTypesSize 0
  | getVersion type => discoveryCmd pldmGetVersion pldmGetVersionSize type
  | getCommands type => discoveryCmd pldmGetCommands pldmGetCommandsSize type
  | getTid => discoveryCmd pldmGetTid pldmGetTidSize 0
  | setTid => discoveryCmd pldmSetTid pldmSetTidSize 0
  | getFruRecordTableMetadata =>
    pldmFruCommand pldmGetFruRecordTableMetadata pldmGetFruTableMetadataSize
  | getFruRecordTable => pldmFruCommand pldmGetFruRecordTable pldmGetFruTableSize
  | getPdrRepositoryInfo => pfExchange pldmGetPdrRepositoryInfo 12
  | getPdr => pfExchange pldmGetPdr getPdrSize
  | getSensorReading => pfExchange pldmGetSensorReading 15
  | dfOpen => pldmFileTransferCmd fuel XpuManager.dfOpen 16
  | dfClose => pldmFileTransferCmd fuel XpuManager.dfClose 16
  | multipartReceive => pldmFileTransferCmd fuel pldmMultipartReceive multipartReceiveSize
  | queryDeviceIdentifiers => fwUpdCmd fuel XpuManager.queryDeviceIdentifiers 12
  | getFirmwareParameters => fwUpdCmd fuel XpuManager.getFirmwareParameters 12
  | requestUpdate => fwUpdCmd fuel XpuManager.requestUpdate fwuCommandBaseSize
  | passComponentTable => fwUpdCmd fuel XpuManager.passComponentTable fwuCommandBaseSize
  | updateComponent => fwUpdCmd fuel XpuManager.updateComponent fwuCommandBaseSize
  | getStatus => fwUpdCmd fuel XpuManager.getStatus fwuCommandBaseSize
  | activateFirmware => fwUpdCmd fuel XpuManager.activateFirmware activateFirmwareSize
  | cancelUpdate => fwUpdCmd fuel XpuManager.cancelUpdate fwuCommandBaseSize
  | vrsync cmd => oemVrsyncCmd cmd
  | gpuReset => amcGpuReset
  | acknowledge completioncode => respondtoamc completioncode
  | firmwareData offset lenToSend completioncode =>
    writeToAMCCompXfer offset lenToSend completioncode

/-- The index of `respPayload` at which the source stores the CRC of the frame. It stores none in the
request that resets the GPU, whose last byte is at index 4. -/
def crcIndex (s : Pldm) : PldmFrame → Nat
  | getTypes | getTid | getFruRecordTableMetadata | getPdrRepositoryInfo => 0
  | queryDeviceIdentifiers | getFirmwareParameters | getStatus | cancelUpdate | vrsync _ => 0
  | setTid | activateFirmware | acknowledge _ => 1
  | getSensorReading => 3
  | dfOpen | dfClose | gpuReset => 4
  | getCommands _ | getFruRecordTable => 5
  | getVersion _ => 6
  | getPdr => 13
  | multipartReceive => 18
  | requestUpdate => (s.structCmdLen 11).toNat
  | passComponentTable => (s.structCmdLen 12).toNat
  | updateComponent => (s.structCmdLen 19).toNat
  | firmwareData _ lenToSend _ => (9 + 3 + 1 + lenToSend.toUInt8 : UInt8).toNat

end PldmFrame

/-! ## When a frame ends with its CRC -/

/-- The terminus ID that SetTID sends. -/
def Pldm.sentTid (s : Pldm) : UInt8 :=
  if s.disc.mPldmRespInfo.tid = 0 then pldmDiscoveryTid else s.disc.mPldmRespInfo.tid

/-- The fields of a GetPLDMCommands request. -/
def Pldm.getCommandsFields (s : Pldm) (type : UInt8) : Bytes :=
  type :: match s.disc.entryOf type with
    | some i => [(s.disc.versionInfo i).alpha, (s.disc.versionInfo i).update,
        (s.disc.versionInfo i).minor, (s.disc.versionInfo i).major]
    | none => [0, 0, 0, 0]

/-- The fields of a GetFRURecordTable request. -/
def Pldm.fruFields (s : Pldm) : Bytes :=
  leBytes 4 s.fru.dataXferHandle.toNat ++ [s.fru.xferOpFlag]

/-- The CRC of a message does not depend on the bytes that the payload holds behind it, though it is
computed over `m` of them. -/
def Pldm.IgnoresStale (s : Pldm) (message : Bytes) (m : Nat) : Prop :=
  crc8Smbus (message ++ s.stale message.length m) = crc8Smbus message

/-- The CRC of a message is one that zeros behind the message leave alone. -/
def IgnoresZeros (message : Bytes) : Prop :=
  crc8Smbus message = 0x00 ∨ crc8Smbus message = 0xFD

namespace PldmFrame

/-- The condition under which the frame ends with its CRC. A request without a payload always does;
one whose CRC is also computed over what lies behind the message only if that does not show; the CRC
of GetPDR and GetSensorReading leaves out a byte; the CRC of a request with a structure and of
firmware data is stored behind the bytes sent; a GPU reset has none. -/
def Closes (s : Pldm) : PldmFrame → Prop
  | getTypes | getTid | getFruRecordTableMetadata | getPdrRepositoryInfo => True
  | queryDeviceIdentifiers | getFirmwareParameters | getStatus | cancelUpdate => True
  | dfOpen | dfClose | multipartReceive | vrsync _ => True
  | getVersion type => type = 0x07 ∨ type = 0xFA
  | getCommands type => IgnoresZeros (s.getCommandsFields type)
  | setTid => s.IgnoresStale [s.sentTid] 11
  | getFruRecordTable => s.IgnoresStale s.fruFields 11
  | activateFirmware => s.IgnoresStale [0x01] 11
  | acknowledge completioncode => s.IgnoresStale [completioncode] 11
  | getPdr => crc8Smbus (s.pf.pfPdrReq.bytes.take 12) = crc8Smbus s.pf.pfPdrReq.bytes
  | getSensorReading => crc8Smbus (leBytes 2 s.pf.sensorId.toNat) =
      crc8Smbus (leBytes 2 s.pf.sensorId.toNat ++ [s.pf.rearmEventState])
  | requestUpdate | passComponentTable | updateComponent | firmwareData _ _ _ | gpuReset => False

end PldmFrame

/-! ## Closing a message -/

section Closing

variable {i k size m : Nat} {message content : Bytes} {s t u : Pldm} {C : Prop}

/-- A frame of the length that leads to the CRC. -/
theorem Stores.closes (h : Stores i k content t) (hsize : size = 12 + i)
    (hi : i ≤ content.length) (hk : k ≤ content.length) (hroom : i < payloadSize)
    (hC : crc8Smbus (content.take k) = crc8Smbus (content.take i) ↔ C) :
    ClosedByCrc i (t.mI2cPldmWrite.slice 1 size) ↔ C := by
  rw [h.closed_iff hi hk hroom, and_iff_right hsize, hC]

/-- A message whose CRC is computed over `m` more bytes. -/
theorem Stores.closes_tail {tail : Bytes} (h : Stores i k (message ++ tail) t)
    (hsize : size = 12 + i) (hi : i = message.length) (hk : k = message.length + tail.length)
    (hroom : i < payloadSize) (hC : crc8Smbus (message ++ tail) = crc8Smbus message ↔ C) :
    ClosedByCrc i (t.mI2cPldmWrite.slice 1 size) ↔ C := by
  have hlen : (message ++ tail).length = message.length + tail.length := List.length_append
  refine h.closes hsize (by omega) (by omega) hroom ?_
  rw [hi, hk, ← hlen, List.take_length, List.take_left, hC]

/-- A message without a payload. -/
theorem Stores.closes_zeros {z : Nat} (h : Stores 0 k (List.replicate z 0) t) (hk : k ≤ z) :
    ClosedByCrc 0 (t.mI2cPldmWrite.slice 1 12) ↔ True := by
  refine h.closes rfl (Nat.zero_le _) (by simpa using hk) (by decide) ?_
  rw [List.take_replicate, crc8Smbus_zeros]
  exact iff_of_true rfl trivial

/-- A message whose CRC covers the message. -/
theorem Stores.closes_message (h : Stores i i content t) (hsize : size = 12 + i)
    (hi : i ≤ content.length) (hroom : i < payloadSize) :
    ClosedByCrc i (t.mI2cPldmWrite.slice 1 size) ↔ True :=
  h.closes hsize hi hi hroom (iff_of_true rfl trivial)

theorem stale_of_keepsPayload (h : KeepsPayload s t) (j m : Nat) : t.stale j m = s.stale j m :=
  Buf.slice_congr fun l _ => by rw [Nat.add_assoc]; exact h.2 (j + l)

/-- A message that is put in front of what the payload held, the headers being built before or
after it. -/
theorem closes_stale {len : Int} {v : Pldm} (h : copyCrc message i len u = (.ret pldmSuccess, v))
    (hbefore : KeepsPayload s u) (hafter : KeepsPayload v t) (hi : i = message.length)
    (hlen : len.toNat = i + m) (hsize : size = 12 + i) (hroom : i < payloadSize) :
    ClosedByCrc i (t.mI2cPldmWrite.slice 1 size) ↔ s.IgnoresStale message m := by
  have hstores := (stores_copyCrc h m).keepsPayload hafter
  rw [stale_of_keepsPayload hbefore] at hstores
  refine hstores.closes_tail hsize hi ?_ hroom Iff.rfl
  rw [hlen, hi, Pldm.stale, Buf.length_slice]

/-- Building the headers first. -/
theorem headersThen_eq_success {cmdType cmd sz id : UInt8} {fill : Prog Pldm UInt8}
    (h : headersThen cmdType cmd sz id fill s = (.ret pldmSuccess, t)) :
    ∃ u, KeepsPayload s u ∧ fill u = (.ret pldmSuccess, t) := by
  obtain ⟨r, u, hheaders, hfill⟩ := bind_eq_ret_iff.mp h
  exact ⟨u, keepsPayload_of_headers hheaders, hfill⟩

end Closing

/-! ## The families -/

section Families

variable {P : Bytes → Prop} {s : Pldm}

theorem sends_discoveryCmd {cmd size type : UInt8}
    (h : ∀ u t, KeepsPayload s.wrapped u →
      discoveryPayload cmd size type u = (.ret pldmSuccess, t) →
        P (t.mI2cPldmWrite.slice 1 size.toNat)) :
    Sends P s (discoveryCmd cmd size type s).2 := by
  refine sends_exchange (fun id => fills_headersThen (onlyPayload_discoveryPayload cmd size type))
    (fun id => receives_receiveThen (quiet_discoveryResponse cmd id type)) fun t ht => ?_
  obtain ⟨u, hkeeps, hfill⟩ := headersThen_eq_success ht
  exact h u t hkeeps hfill

theorem sends_pldmFruCommand {cmd size : UInt8}
    (h : ∀ u t, KeepsPayload s.wrapped u → pldmFruFillPayload cmd size u = (.ret pldmSuccess, t) →
      P (t.mI2cPldmWrite.slice 1 size.toNat)) : Sends P s (pldmFruCommand cmd size s).2 := by
  refine sends_exchange
    (fun id => fills_headersThen (within_orError (onlyPayload_pldmFruFillPayload cmd size)))
    (fun id => receives_receiveThen (quiet_pldmFruResponse cmd id)) fun t ht => ?_
  obtain ⟨u, hkeeps, hfill⟩ := headersThen_eq_success ht
  exact h u t hkeeps (orError_eq_success_iff.mp hfill)

/-- Headers that were built, and then the payload. -/
theorem andThen_headers_eq_success {cmdType cmd size id : UInt8} {fill : Prog Pldm UInt8} {t : Pldm}
    (h : andThen (requestHeaders cmdType cmd size id) fill s = (.ret pldmSuccess, t)) :
    ∃ u, KeepsPayload s u ∧ fill u = (.ret pldmSuccess, t) := by
  obtain ⟨u, hheaders, hfill⟩ | ⟨hne, -⟩ := chain_eq_ret_iff.mp h
  case inr => exact absurd rfl hne
  exact ⟨u, keepsPayload_of_headers hheaders, hfill⟩

theorem sends_pfExchange {cmd size : UInt8}
    (h : ∀ u t, KeepsPayload s.wrapped u → pfFillPayload cmd size u = (.ret pldmSuccess, t) →
      P (t.mI2cPldmWrite.slice 1 size.toNat)) : Sends P s (pfExchange cmd size s).2 := by
  refine sends_exchange (fun id => fills_pfPrep cmd size id)
    (fun id => receives_receiveThen (quiet_processPlatformResponse cmd id)) fun t ht => ?_
  obtain ⟨u, hkeeps, hfill⟩ := andThen_headers_eq_success (orError_eq_success_iff.mp ht)
  exact h u t hkeeps hfill

/-- The frame of a file command is what its payload filler left. -/
theorem sends_pldmFileTransferCmd {fuel : Nat} {cmd size : UInt8}
    (h : ∀ u t, KeepsPayload s.wrapped u →
      pldmFillFileTxPayload cmd size u = (.ret pldmSuccess, t) →
        P (t.mI2cPldmWrite.slice 1 size.toNat)) :
    Sends P s (pldmFileTransferCmd fuel cmd size s).2 := by
  rw [pldmFileTransferCmd]
  split
  · exact .of_trace rfl
  refine sends_exchange (fun id => ?_) (fun _ => ?_) fun t ht => ?_
  · exact Within.bind (fills_of_onlyFrame (onlyFrame_messageHeaders _ _ _ _ _)) fun _ =>
      Within.ite (fills_of_onlyFrame ((onlyPayload_pldmFillFileTxPayload cmd size).mono
        fun _ _ => And.left)) (Within.pure _)
  · exact Within.bind (receives_rxMultiPartData fuel) fun _ =>
      Within.ite (receives_pldmFileTransferResp cmd) (Within.pure _)
  · obtain ⟨u, hkeeps, hfill⟩ := andThen_headers_eq_success ht
    exact h u t hkeeps hfill

/-- The same for an update command, whose length the filler sets. -/
theorem sends_fwUpdCmd {fuel : Nat} {cmd size : UInt8}
    (h : ∀ u t, pldmFwUpdFillPayload cmd size (s.fwUpdStart size).wrapped = (.ret pldmSuccess, u) →
      KeepsPayload u t → P (t.mI2cPldmWrite.slice 1 u.fw.mFwuCmdLen.toNat)) :
    Sends P s (fwUpdCmd fuel cmd size s).2 := by
  have hrun : Sends P (s.fwUpdStart size) (exchange pldmFirmwareUpdate cmd (fwUpdPrep cmd size)
      (fun s => s.fw.mFwuCmdLen) (fwUpdRead fuel cmd) (s.fwUpdStart size)).2 := by
    refine sends_exchange (fills_fwUpdPrep cmd size) (receives_fwUpdRead fuel cmd) fun t ht => ?_
    obtain ⟨u, hfill, hheaders⟩ | ⟨hne, -⟩ := chain_eq_ret_iff.mp ht
    case inr => exact absurd rfl hne
    rw [get_bind_apply] at hheaders
    obtain ⟨r, v, hv, hpure⟩ := bind_eq_ret_iff.mp hheaders
    obtain rfl : v = t := (Prod.mk.inj hpure).2
    have hkeeps : KeepsPayload u v := keepsPayload_of_headers hv
    obtain ⟨f, rfl⟩ := hkeeps.1
    exact h u _ (orError_eq_success_iff.mp hfill) hkeeps
  exact hrun

end Families

end XpuManager
