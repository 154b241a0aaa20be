import XpuManager.Amc.HostFrames

/-! # Which frames end with their CRC

The frames of the object one by one. -/

namespace XpuManager

open Prog

/-! ## Requests without a payload -/

section Frames

variable {s : Pldm}

/-- A request that consists of its headers. -/
theorem sends_discovery_zeros {cmd : UInt8} (hcmd : cmd = pldmGetTypes ∨ cmd = pldmGetTid) :
    Sends (fun bs => ClosedByCrc 0 bs ↔ True) s (discoveryCmd cmd 12 0 s).2 := by
  refine sends_discoveryCmd fun u t _ hfill => ?_
  have hcopy : copyCrc (List.replicate 12 0) 0 11 u = (.ret pldmSuccess, t) := by
    rcases hcmd with rfl | rfl
    · exact orError_eq_success_iff.mp hfill
    · exact orError_eq_success_iff.mp hfill
  exact (stores_zeros hcopy).closes_zeros (by decide)

theorem sends_fru_zeros :
    Sends (fun bs => ClosedByCrc 0 bs ↔ True) s
      (pldmFruCommand pldmGetFruRecordTableMetadata 12 s).2 := by
  refine sends_pldmFruCommand fun u t _ hfill => ?_
  have hcopy : copyCrc (List.replicate 12 0) 0 11 u = (.ret pldmSuccess, t) := hfill
  exact (stores_zeros hcopy).closes_zeros (by decide)

theorem sends_platform_zeros :
    Sends (fun bs => ClosedByCrc 0 bs ↔ True) s (pfExchange pldmGetPdrRepositoryInfo 12 s).2 := by
  refine sends_pfExchange fun u t _ hfill => ?_
  have hcopy : copyCrc (List.replicate 12 0) 0 11 u = (.ret pldmSuccess, t) := hfill
  exact (stores_zeros hcopy).closes_zeros (by decide)

/-! ## Discovery -/

theorem sends_setTid : Sends (fun bs => ClosedByCrc 1 bs ↔ s.IgnoresStale [s.sentTid] 11) s
    (discoveryCmd pldmSetTid pldmSetTidSize 0 s).2 := by
  refine sends_discoveryCmd fun u t hkeeps hfill => ?_
  have hcopy : copyCrc [s.sentTid] 1 12 u = (.ret pldmSuccess, t) := by
    obtain ⟨f, rfl⟩ := hkeeps.1
    exact orError_eq_success_iff.mp hfill
  have hcloses := closes_stale hcopy hkeeps (Std.Refl.refl t) rfl (show _ = 1 + 11 from rfl) rfl (by decide)
  exact hcloses

/-- The types for which the CRC of a GetPLDMVersion request ignores zeros. -/
theorem ignoresZeros_getVersion (type : UInt8) :
    IgnoresZeros [0, 0, 0, 0, 1, type] ↔ type = 0x07 ∨ type = 0xFA := by
  have hcrc : crc8Smbus [0, 0, 0, 0, 1, type] = crc8Lut.getD (0x07 ^^^ type).toNat 0 :=
    crc8Smbus_append [0, 0, 0, 0, 1] [type]
  have hxor (v : UInt8) : 0x07 ^^^ type = v ↔ type = 0x07 ^^^ v := by
    constructor
    · rintro rfl
      rw [← UInt8.xor_assoc, UInt8.xor_self, UInt8.zero_xor]
    · rintro rfl
      rw [← UInt8.xor_assoc, UInt8.xor_self, UInt8.zero_xor]
  rw [IgnoresZeros, hcrc, (crc8Lut_eq_iff _).1, (crc8Lut_eq_iff _).2, hxor, hxor]
  rfl

theorem sends_getVersion (type : UInt8) :
    Sends (fun bs => ClosedByCrc 6 bs ↔ type = 0x07 ∨ type = 0xFA) s
      (discoveryCmd pldmGetVersion pldmGetVersionSize type s).2 := by
  refine sends_discoveryCmd fun u t _ hfill => ?_
  have hcopy : (payloadZero 18 >>= fun _ => copyCrc [0, 0, 0, 0, 1, type] 6 17) u =
      (.ret pldmSuccess, t) := hfill
  refine (stores_zero_copyCrc hcopy (show 6 + 11 ≤ 18 by decide)).closes_tail rfl rfl rfl
    (by decide) ?_
  rw [crc8Smbus_zeros_iff _ (by decide)]
  exact ignoresZeros_getVersion type

/-- The payload of a GetPLDMCommands request: its fields, with zeros behind them. -/
theorem stores_getCommands {type : UInt8} {u t : Pldm}
    (h : pldmDiscoveryGetCmdPayload type 17 u = (.ret pldmSuccess, t)) :
    Stores 5 16 (u.getCommandsFields type ++ List.replicate 11 0) t := by
  obtain ⟨⟨⟩, v, hzero, hrest⟩ := bind_eq_ret_iff.mp h
  obtain ⟨⟨⟩, w, hset, hrest⟩ := bind_eq_ret_iff.mp hrest
  have hbytes := slice_payloadCopy hset 15
  have hstale : v.stale [type].length 15 = List.replicate 15 0 :=
    stale_payloadZero hzero (show 1 + 15 ≤ 17 by decide)
  rw [hstale, show List.replicate 15 (0 : UInt8) = [0, 0, 0, 0] ++ List.replicate 11 0 from rfl,
    ← List.append_assoc] at hbytes
  have hdisc : w.disc = u.disc := by
    obtain ⟨-, rfl⟩ := payloadCopy_eq_ret hset
    obtain ⟨-, rfl⟩ := payloadCopy_eq_ret hzero
    rfl
  rw [get_bind_apply, hdisc] at hrest
  have hclose (fields : Bytes) (x : Pldm) (hx : x.mI2cPldmWrite.slice payloadStart
      (fields ++ List.replicate 11 0).length = fields ++ List.replicate 11 0)
      (hrun : (payloadSetCrc 5 16 >>= fun _ => pure pldmSuccess) x = (.ret pldmSuccess, t)) :
      Stores 5 16 (fields ++ List.replicate 11 0) t := by
    obtain ⟨⟨⟩, y, hcrc, hpure⟩ := bind_eq_ret_iff.mp hrun
    obtain rfl : y = t := (Prod.mk.inj hpure).2
    have hstores := stores_payloadSetCrc hcrc hx
    rwa [show (16 : Int).toNat = 16 from rfl] at hstores
  rw [Pldm.getCommandsFields]
  rcases hentry : u.disc.entryOf type with _ | i
  · rw [hentry] at hrest
    exact hclose ([type] ++ [0, 0, 0, 0]) w hbytes hrest
  · rw [hentry] at hrest
    obtain ⟨⟨⟩, x, hversion, hrest⟩ := bind_eq_ret_iff.mp hrest
    exact hclose _ x (@slice_payloadCopy_middle [type] [0, 0, 0, 0] _ _ w x hversion rfl hbytes)
      hrest

theorem sends_getCommands (type : UInt8) :
    Sends (fun bs => ClosedByCrc 5 bs ↔ IgnoresZeros (s.getCommandsFields type)) s
      (discoveryCmd pldmGetCommands pldmGetCommandsSize type s).2 := by
  refine sends_discoveryCmd fun u t hkeeps hfill => ?_
  have hstores : Stores 5 16 (s.getCommandsFields type ++ List.replicate 11 0) t := by
    have hu := stores_getCommands hfill
    obtain ⟨f, rfl⟩ := hkeeps.1
    exact hu
  have hlen : (s.getCommandsFields type).length = 5 := by
    rw [Pldm.getCommandsFields]
    split <;> rfl
  refine hstores.closes_tail rfl hlen.symm (by rw [hlen]; rfl) (by decide) ?_
  exact crc8Smbus_zeros_iff _ (by decide)

/-! ## The FRU record table -/

theorem sends_getFruRecordTable :
    Sends (fun bs => ClosedByCrc 5 bs ↔ s.IgnoresStale s.fruFields 11) s
      (pldmFruCommand pldmGetFruRecordTable pldmGetFruTableSize s).2 := by
  refine sends_pldmFruCommand fun u t hkeeps hfill => ?_
  have hcopy : copyCrc s.fruFields 5 16 u = (.ret pldmSuccess, t) := by
    obtain ⟨f, rfl⟩ := hkeeps.1
    exact hfill
  have hcloses := closes_stale hcopy hkeeps (Std.Refl.refl t) (by simp [Pldm.fruFields])
    (show _ = 5 + 11 from rfl) rfl (by decide)
  exact hcloses

/-! ## Platform monitoring -/

/-- Headers and a cleared payload leave the platform state alone. -/
theorem pf_of_payloadZero {z : Nat} {u v : Pldm} (hkeeps : KeepsPayload s.wrapped u)
    (hzero : payloadZero z u = (.ret (), v)) : v.pf = s.pf := by
  obtain ⟨-, rfl⟩ := payloadCopy_eq_ret hzero
  obtain ⟨f, rfl⟩ := hkeeps.1
  rfl

theorem sends_getPdr : Sends (fun bs => ClosedByCrc 13 bs ↔
    crc8Smbus (s.pf.pfPdrReq.bytes.take 12) = crc8Smbus s.pf.pfPdrReq.bytes) s
      (pfExchange pldmGetPdr getPdrSize s).2 := by
  refine sends_pfExchange fun u t hkeeps hfill => ?_
  obtain ⟨⟨⟩, v, hzero, hrest⟩ := bind_eq_ret_iff.mp hfill
  have hpf : v.pf = s.pf := pf_of_payloadZero hkeeps hzero
  rw [get_bind_apply, if_neg (by decide), if_pos rfl, hpf] at hrest
  have hcopy : copyCrc s.pf.pfPdrReq.bytes 13 12 v = (.ret pldmSuccess, t) := hrest
  have hlen : s.pf.pfPdrReq.bytes.length = 13 := by simp [PdrReqPayload.bytes]
  have hstores := stores_copyCrc hcopy 0
  rw [show v.stale s.pf.pfPdrReq.bytes.length 0 = [] from rfl, List.append_nil] at hstores
  refine hstores.closes rfl (by omega) (show 12 ≤ _ by omega) (by decide) ?_
  rw [List.take_of_length_le (show s.pf.pfPdrReq.bytes.length ≤ 13 by omega)]
  rfl

theorem sends_getSensorReading : Sends (fun bs => ClosedByCrc 3 bs ↔
    crc8Smbus (leBytes 2 s.pf.sensorId.toNat) =
      crc8Smbus (leBytes 2 s.pf.sensorId.toNat ++ [s.pf.rearmEventState])) s
      (pfExchange pldmGetSensorReading 15 s).2 := by
  refine sends_pfExchange fun u t hkeeps hfill => ?_
  obtain ⟨⟨⟩, v, hzero, hrest⟩ := bind_eq_ret_iff.mp hfill
  have hpf : v.pf = s.pf := pf_of_payloadZero hkeeps hzero
  rw [get_bind_apply, if_neg (by decide), if_neg (by decide), if_pos rfl, hpf] at hrest
  have hcopy : copyCrc (leBytes 2 s.pf.sensorId.toNat ++ [s.pf.rearmEventState]) 3 2 v =
      (.ret pldmSuccess, t) := hrest
  have hstores := stores_copyCrc hcopy 0
  exact hstores.closes rfl (show 3 ≤ 3 by decide) (show 2 ≤ 3 by decide) (by decide) Iff.rfl

/-! ## File transfer -/

/-- A request whose fields are copied and followed by their CRC. -/
theorem sends_fillFields {fuel : Nat} {cmd size : UInt8} (fields : FileTransferState → Bytes)
    {i : Nat} (hfields : ∀ ft, (fields ft).length = i) (hsize : size.toNat = 12 + i)
    (hroom : i < payloadSize)
    (h : pldmFillFileTxPayload cmd size =
      (payloadZero size.toNat >>= fun _ => Prog.get >>= fun v => fillFields (fields v.ft))) :
    Sends (fun bs => ClosedByCrc i bs ↔ True) s (pldmFileTransferCmd fuel cmd size s).2 := by
  refine sends_pldmFileTransferCmd fun u t _ hfill => ?_
  rw [h] at hfill
  obtain ⟨⟨⟩, v, -, hrest⟩ := bind_eq_ret_iff.mp hfill
  have hcopy : copyCrc (fields v.ft) (fields v.ft).length (fields v.ft).length v =
      (.ret pldmSuccess, t) := hrest
  have hstores := stores_copyCrc hcopy 0
  rw [hfields] at hstores
  exact hstores.closes_message hsize (by simp [hfields]) hroom

theorem sends_dfOpen (fuel : Nat) : Sends (fun bs => ClosedByCrc 4 bs ↔ True) s
    (pldmFileTransferCmd fuel dfOpen 16 s).2 := by
  refine sends_fillFields (fun ft => leBytes 2 ft.openFileIdentifier.toNat ++
    leBytes 2 ft.openFileAttribute.toNat) (fun _ => by simp) rfl (by decide) ?_
  rw [pldmFillFileTxPayload, if_neg (by decide)]
  rfl

theorem sends_dfClose (fuel : Nat) : Sends (fun bs => ClosedByCrc 4 bs ↔ True) s
    (pldmFileTransferCmd fuel dfClose 16 s).2 := by
  refine sends_fillFields (fun ft => leBytes 2 ft.closeFileDescriptor.toNat ++
    leBytes 2 ft.dfCloseOptions.toNat) (fun _ => by simp) rfl (by decide) ?_
  rw [pldmFillFileTxPayload, if_neg (by decide)]
  rfl

theorem sends_multipartReceive (fuel : Nat) : Sends (fun bs => ClosedByCrc 18 bs ↔ True) s
    (pldmFileTransferCmd fuel pldmMultipartReceive multipartReceiveSize s).2 := by
  refine sends_fillFields (fun ft => ft.mMultipartReceiveReq.bytes)
    (fun _ => MultipartReceiveReq.length_bytes _) rfl (by decide) ?_
  rw [pldmFillFileTxPayload, if_neg (by decide)]
  rfl

/-! ## Commands of a single exchange -/

theorem sends_vrsync (cmd : UInt8) :
    Sends (fun bs => ClosedByCrc 0 bs ↔ True) s (oemVrsyncCmd cmd s).2 := by
  refine sends_exchange (fun id => fills_headersThen onlyPayload_oemVrsyncPayload)
    (fun id => receives_receiveThen (quiet_oemVrsyncResp cmd id)) fun t ht => ?_
  obtain ⟨u, -, hfill⟩ := headersThen_eq_success ht
  have hcopy : copyCrc (List.replicate 12 0) 0 11 u = (.ret pldmSuccess, t) := hfill
  exact (stores_zeros hcopy).closes_zeros (by decide)

/-- The last byte of a GPU reset is not a CRC of what comes before it. -/
theorem crc_amcGpuReset : crc8Smbus (setStateEffecterStatesReq.take 4) ≠
    setStateEffecterStatesReq.getD 4 0 := by decide

/-- The fixed bytes of the reset are not closed by the CRC of those before. -/
theorem sends_gpuReset : Sends (fun bs => ClosedByCrc 4 bs ↔ False) s (amcGpuReset s).2 := by
  refine sends_exchange (fun id => fills_of_onlyFrame (onlyFrame_amcGpuResetRequest id))
    (fun id => receives_receiveThen (quiet_amcGpuResetResp id)) fun t ht => ?_
  obtain ⟨⟨⟩, u, hcopy, hrest⟩ := bind_eq_ret_iff.mp ht
  obtain ⟨r, v, hheaders, hpure⟩ := bind_eq_ret_iff.mp hrest
  obtain rfl : v = t := (Prod.mk.inj hpure).2
  have hkeeps : KeepsPayload u v := keepsPayload_of_headers hheaders
  have hslice : v.mI2cPldmWrite.slice payloadStart setStateEffecterStatesReq.length =
      setStateEffecterStatesReq := by
    obtain ⟨-, rfl⟩ := payloadCopy_eq_ret hcopy
    rw [Buf.slice_congr fun k _ => hkeeps.2 k]
    exact Buf.slice_overlay (by decide)
  have hbody : v.mI2cPldmWrite.slice (1 + 11) 4 = setStateEffecterStatesReq.take 4 := by
    conv_rhs => rw [← hslice]
    exact (Buf.take_drop_slice (i := 0) (by decide)).symm
  have hlast : v.mI2cPldmWrite.byte (1 + 11 + 4) = setStateEffecterStatesReq.getD 4 0 := by
    conv_rhs => rw [← hslice]
    rw [Buf.getD_slice]
    rfl
  rw [ClosedByCrc, closedBy_slice_iff, hbody, hlast]
  exact iff_of_false (fun h => crc_amcGpuReset h.2.symm) not_false

/-! ## Firmware update -/

theorem onlyFrame_copyCrc (bytes : Bytes) (i : Nat) (len : Int) :
    Within OnlyFrame (copyCrc bytes i len) :=
  Within.bind (onlyFrame_payloadCopy _ _) fun _ =>
    Within.bind (onlyFrame_payloadSetCrc _ _) fun _ => Within.pure _

/-- A request of fixed length. -/
theorem mFwuCmdLen_of_copyCrc {bytes : Bytes} {i : Nat} {len : Int} {size : UInt8} {u : Pldm}
    (h : copyCrc bytes i len (s.fwUpdStart size).wrapped = (.ret pldmSuccess, u)) :
    u.fw.mFwuCmdLen = size := by
  have honly := onlyFrame_copyCrc bytes i len (s.fwUpdStart size).wrapped
  rw [h] at honly
  obtain ⟨f, rfl⟩ := honly
  rfl

/-- A firmware-update request without a payload. -/
theorem sends_fwUpd_zeros {fuel : Nat} {cmd : UInt8} (hcmd : cmd = queryDeviceIdentifiers ∨
    cmd = getFirmwareParameters ∨ cmd = cancelUpdateComponent ∨ cmd = cancelUpdate ∨
      cmd = getStatus) :
    Sends (fun bs => ClosedByCrc 0 bs ↔ True) s (fwUpdCmd fuel cmd 12 s).2 := by
  refine sends_fwUpdCmd fun u t hfill hkeeps => ?_
  rw [pldmFwUpdFillPayload, if_pos hcmd] at hfill
  have hcopy : copyCrc (List.replicate 12 0) 0 11 (s.fwUpdStart 12).wrapped =
      (.ret pldmSuccess, u) := hfill
  rw [mFwuCmdLen_of_copyCrc hcopy]
  exact ((stores_zeros hcopy).keepsPayload hkeeps).closes_zeros (by decide)

theorem sends_activateFirmware (fuel : Nat) :
    Sends (fun bs => ClosedByCrc 1 bs ↔ s.IgnoresStale [0x01] 11) s
      (fwUpdCmd fuel activateFirmware activateFirmwareSize s).2 := by
  refine sends_fwUpdCmd fun u t hfill hkeeps => ?_
  rw [pldmFwUpdFillPayload, if_neg (by decide), if_pos rfl] at hfill
  have hcopy : copyCrc [0x01] 1 12 (s.fwUpdStart activateFirmwareSize).wrapped =
      (.ret pldmSuccess, u) := hfill
  rw [mFwuCmdLen_of_copyCrc hcopy]
  have hcloses := closes_stale hcopy (Std.Refl.refl _) hkeeps rfl (show _ = 1 + 11 from rfl)
    (show _ = 12 + 1 from rfl) (by decide)
  exact hcloses

/-! ## Requests with a structure -/

/-- `mFwuCmdLen` is set to the size of the structure, its string included. -/
theorem mFwuCmdLen_of_fillStruct {fixedSize verStrLen : UInt8} {bytes : Bytes} {u t : Pldm}
    (h : fillStruct fixedSize verStrLen bytes u = (.ret pldmSuccess, t)) :
    t.fw.mFwuCmdLen = fwuCommandBaseSize + fixedSize + verStrLen := by
  rw [fillStruct, modify_bind_apply] at h
  obtain ⟨⟨⟩, v, hcopy, hrest⟩ := bind_eq_ret_iff.mp h
  obtain ⟨⟨⟩, w, hcrc, hpure⟩ := bind_eq_ret_iff.mp hrest
  obtain rfl : w = t := (Prod.mk.inj hpure).2
  obtain ⟨-, -, rfl⟩ := payloadSetCrc_eq_ret hcrc
  obtain ⟨-, rfl⟩ := payloadCopy_eq_ret hcopy
  rfl

/-- The component that was looked up. -/
theorem curComp_eq_ret {comp : CompImageInfo} {u t : Pldm} (h : curComp u = (.ret comp, t)) :
    t = u ∧ u.currentComp = some comp := by
  unfold curComp getPkg at h
  rw [Pldm.currentComp]
  rcases hpkg : u.fw.pkg with _ | pkg
  · simp [hpkg] at h
  · rcases hcomp : pkg.compImages[u.fw.mCurComp.toNat]? with _ | comp'
    · simp [hpkg, hcomp] at h
    · obtain ⟨rfl, rfl⟩ : comp' = comp ∧ u = t := by simpa [hpkg, hcomp] using h
      exact ⟨rfl, hcomp⟩

/-- The size of a structure for the component that was looked up. -/
theorem structCmdLen_of_curComp {comp : CompImageInfo} {u t : Pldm} {fixedSize : UInt8}
    (h : curComp u = (.ret comp, t)) :
    u.structCmdLen fixedSize = fwuCommandBaseSize + fixedSize + comp.verStrLen := by
  rw [Pldm.structCmdLen, (curComp_eq_ret h).2]
  rfl

theorem mFwuCmdLen_of_fwReqUpdate {u t : Pldm} (h : fwReqUpdate u = (.ret pldmSuccess, t)) :
    t.fw.mFwuCmdLen = u.structCmdLen 11 := by
  obtain ⟨pkg, v, hpkg, hrest⟩ := bind_eq_ret_iff.mp h
  obtain ⟨comp, w, hcomp, hrest⟩ := bind_eq_ret_iff.mp hrest
  have hv : v = u := by
    unfold getPkg at hpkg
    rcases hpkg' : u.fw.pkg with _ | pkg'
    · simp [hpkg'] at hpkg
    · exact (show u = v by simpa [hpkg'] using congrArg Prod.snd hpkg).symm
  rw [get_bind_apply, modify_bind_apply] at hrest
  rw [mFwuCmdLen_of_fillStruct hrest, ← hv, structCmdLen_of_curComp hcomp]

theorem mFwuCmdLen_of_fwupdPassCompTable {u t : Pldm}
    (h : fwupdPassCompTable u = (.ret pldmSuccess, t)) : t.fw.mFwuCmdLen = u.structCmdLen 12 := by
  obtain ⟨comp, w, hcomp, hrest⟩ := bind_eq_ret_iff.mp h
  rw [get_bind_apply, modify_bind_apply] at hrest
  rw [mFwuCmdLen_of_fillStruct hrest, structCmdLen_of_curComp hcomp]

theorem mFwuCmdLen_of_fwUpdComp {u t : Pldm} (h : fwUpdComp u = (.ret pldmSuccess, t)) :
    t.fw.mFwuCmdLen = u.structCmdLen 19 := by
  obtain ⟨comp, w, hcomp, hrest⟩ := bind_eq_ret_iff.mp h
  rw [get_bind_apply, modify_bind_apply] at hrest
  rw [mFwuCmdLen_of_fillStruct hrest, structCmdLen_of_curComp hcomp]

/-- The CRC lies behind bytes that end at its index, counted from the start of the frame. -/
theorem not_closedByCrc_of_length {i : Nat} {bs : Bytes} (h : bs.length = i) :
    ClosedByCrc i bs ↔ False :=
  iff_of_false (not_closedBy_of_length (by omega)) not_false

/-- A request with a structure is as long as the index of its CRC. -/
theorem sends_struct {fuel : Nat} {cmd size fixedSize : UInt8}
    (h : ∀ u t, pldmFwUpdFillPayload cmd size u = (.ret pldmSuccess, t) →
      t.fw.mFwuCmdLen = u.structCmdLen fixedSize) :
    Sends (fun bs => ClosedByCrc (s.structCmdLen fixedSize).toNat bs ↔ False) s
      (fwUpdCmd fuel cmd size s).2 := by
  refine sends_fwUpdCmd fun u t hfill _ => not_closedByCrc_of_length ?_
  rw [h _ _ hfill, Buf.length_slice]
  rfl

/-- As for every request with a structure, the frame stops before the CRC. -/
theorem sends_requestUpdate (fuel : Nat) :
    Sends (fun bs => ClosedByCrc (s.structCmdLen 11).toNat bs ↔ False) s
      (fwUpdCmd fuel requestUpdate fwuCommandBaseSize s).2 := by
  refine sends_struct fun u t hfill => mFwuCmdLen_of_fwReqUpdate ?_
  rw [pldmFwUpdFillPayload, if_neg (by decide), if_neg (by decide), if_pos rfl] at hfill
  exact orError_eq_success_iff.mp hfill

theorem sends_passComponentTable (fuel : Nat) :
    Sends (fun bs => ClosedByCrc (s.structCmdLen 12).toNat bs ↔ False) s
      (fwUpdCmd fuel passComponentTable fwuCommandBaseSize s).2 := by
  refine sends_struct fun u t hfill => mFwuCmdLen_of_fwupdPassCompTable ?_
  rw [pldmFwUpdFillPayload, if_neg (by decide), if_neg (by decide), if_neg (by decide),
    if_pos rfl] at hfill
  exact orError_eq_success_iff.mp hfill

theorem sends_updateComponent (fuel : Nat) :
    Sends (fun bs => ClosedByCrc (s.structCmdLen 19).toNat bs ↔ False) s
      (fwUpdCmd fuel updateComponent fwuCommandBaseSize s).2 := by
  refine sends_struct fun u t hfill => mFwuCmdLen_of_fwUpdComp ?_
  rw [pldmFwUpdFillPayload, if_neg (by decide), if_neg (by decide), if_neg (by decide),
    if_neg (by decide), if_pos rfl] at hfill
  exact orError_eq_success_iff.mp hfill

/-! ## The data phase -/

theorem onlyFrame_responseHeaders (totalLen : UInt8) :
    Within OnlyFrame (responseHeaders totalLen) :=
  Within.bind Within.get fun _ => Within.bind (onlyFrame_messageHeaders _ _ _ _ _) fun _ =>
    Within.pure _

/-- An acknowledgement, whose CRC runs over a stale byte too. -/
theorem sends_acknowledge (completioncode : UInt8) :
    Sends (fun bs => ClosedByCrc 1 bs ↔ s.IgnoresStale [completioncode] 11) s
      (respondtoamc completioncode s).2 := by
  let build : Prog Pldm Unit := responseHeaders 13 >>= fun _ =>
    payloadSet 0 completioncode >>= fun _ => payloadSetCrc 1 12
  have hbuild : Within OnlyFrame build := Within.bind (onlyFrame_responseHeaders _) fun _ =>
    Within.bind (onlyFrame_payloadCopy _ _) fun _ => onlyFrame_payloadSetCrc _ _
  have hrun : respondtoamc completioncode = build >>= fun _ => sendRequest fun _ => 13 := by
    simp only [build, Prog.bind_assoc]
    rfl
  rw [hrun]
  refine sends_then_sendRequest hbuild fun t ht => ?_
  obtain ⟨⟨⟩, u, hheaders, hrest⟩ := bind_eq_ret_iff.mp ht
  have hkeeps : KeepsPayload s u := by
    rw [responseHeaders, get_bind_apply] at hheaders
    obtain ⟨r, v, hv, hpure⟩ := bind_eq_ret_iff.mp hheaders
    obtain rfl : v = u := (Prod.mk.inj hpure).2
    exact keepsPayload_of_headers hv
  have hcopy : copyCrc [completioncode] 1 12 u = (.ret pldmSuccess, t) := by
    obtain ⟨⟨⟩, v, hset, hcrc⟩ := bind_eq_ret_iff.mp hrest
    exact (bind_of_ret hset).trans (bind_of_ret hcrc)
  have hcloses := closes_stale hcopy hkeeps (Std.Refl.refl t) rfl (show _ = 1 + 11 from rfl)
    (show _ = 12 + 1 from rfl) (by decide)
  exact hcloses

end Frames

/-- Reading the component sends nothing. -/
theorem sends_copyCompData {P : Bytes → Prop} (comp : CompImageInfo) (offset lenToSend : UInt32) :
    Within (Sends P) (copyCompData comp offset lenToSend) := by
  have hread (pos n : Nat) : Within (Sends P) (freadComp pos n) := by
    refine Within.bind Within.get fun _ => Within.ite (Within.bind (fun _ => ?_) fun _ =>
      Within.pure _) Within.fault
    exact ⟨[_], rfl, by simp⟩
  have hcopy (i : Nat) (bs : Bytes) : Within (Sends P) (payloadCopy i bs) :=
    sends_of_onlyFrame (onlyFrame_payloadCopy i bs)
  exact Within.ite (Within.bind (hread _ _) fun _ => hcopy _ _) (Within.bind (hcopy _ _) fun _ =>
    Within.bind (hread _ _) fun _ => hcopy _ _)

/-- Firmware data is as long as the index of its CRC. -/
theorem sends_firmwareData (offset lenToSend : UInt32) (completioncode : UInt8) (s : Pldm) :
    Sends (fun bs => ClosedByCrc (9 + 3 + 1 + lenToSend.toUInt8 : UInt8).toNat bs ↔ False) s
      (writeToAMCCompXfer offset lenToSend completioncode s).2 := by
  have hcomp : Within OnlyFrame curComp := Within.of_state_eq fun s => by
    rcases curComp_cases s with ⟨comp, hcomp⟩ | hfault
    · rw [hcomp]
    · rw [hfault]
  refine Within.bind (sends_of_onlyFrame hcomp) (fun comp => Within.bind (sends_of_onlyFrame
    (onlyFrame_responseHeaders _)) fun _ => Within.bind (sends_copyCompData comp offset lenToSend)
      fun _ => Within.bind (sends_of_onlyFrame (onlyFrame_payloadCopy _ _)) fun _ => Within.bind
        (sends_of_onlyFrame (onlyFrame_payloadSetCrc _ _)) fun _ u => sends_sendRequest ?_) s
  exact not_closedByCrc_of_length (Buf.length_slice _ _ _)

/-! ## All of them -/

/-- **Every frame of the object** ends with its CRC exactly when its condition holds. -/
theorem PldmFrame.sends (fuel : Nat) (s : Pldm) (frame : PldmFrame) :
    Sends (fun bs => ClosedByCrc (frame.crcIndex s) bs ↔ frame.Closes s) s
      (frame.send fuel s).2 := by
  cases frame with
  | getTypes => exact sends_discovery_zeros (.inl rfl)
  | getVersion type => exact sends_getVersion type
  | getCommands type => exact sends_getCommands type
  | getTid => exact sends_discovery_zeros (.inr rfl)
  | setTid => exact sends_setTid
  | getFruRecordTableMetadata => exact sends_fru_zeros
  | getFruRecordTable => exact sends_getFruRecordTable
  | getPdrRepositoryInfo => exact sends_platform_zeros
  | getPdr => exact sends_getPdr
  | getSensorReading => exact sends_getSensorReading
  | dfOpen => exact sends_dfOpen fuel
  | dfClose => exact sends_dfClose fuel
  | multipartReceive => exact sends_multipartReceive fuel
  | queryDeviceIdentifiers => exact sends_fwUpd_zeros (by decide)
  | getFirmwareParameters => exact sends_fwUpd_zeros (by decide)
  | requestUpdate => exact sends_requestUpdate fuel
  | passComponentTable => exact sends_passComponentTable fuel
  | updateComponent => exact sends_updateComponent fuel
  | getStatus => exact sends_fwUpd_zeros (by decide)
  | activateFirmware => exact sends_activateFirmware fuel
  | cancelUpdate => exact sends_fwUpd_zeros (by decide)
  | vrsync cmd => exact sends_vrsync cmd
  | gpuReset => exact sends_gpuReset
  | acknowledge completioncode => exact sends_acknowledge completioncode
  | firmwareData offset lenToSend completioncode =>
    exact sends_firmwareData offset lenToSend completioncode s

end XpuManager
