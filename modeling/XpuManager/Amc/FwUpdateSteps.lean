import XpuManager.Amc.FwUpdate

/-! # What the firmware-update steps do

One lemma for each step of the firmware-update family, in the form the results about whole updates
use: what a step leaves alone, when it succeeds, and which milestones it adds to the trace. -/

namespace XpuManager

open Prog

/-! ## Building requests -/

theorem fills_getPkg : Within Fills getPkg := by
  refine Within.bind Within.get fun s => ?_
  split
  · exact Within.pure _
  · exact Within.fault

theorem fills_curComp : Within Fills curComp := by
  refine Within.bind fills_getPkg fun pkg => Within.bind Within.get fun s => ?_
  split
  · exact Within.pure _
  · exact Within.fault

theorem fills_fillStruct (fixedSize verStrLen : UInt8) (bytes : Bytes) :
    Within Fills (fillStruct fixedSize verStrLen bytes) :=
  Within.bind (fun _ => ⟨rfl, rfl, rfl, rfl, rfl, rfl, rfl, rfl, rfl, rfl⟩) fun _ =>
    Within.bind (fills_of_onlyFrame (onlyFrame_payloadCopy _ _)) fun _ =>
      Within.bind (fills_of_onlyFrame (onlyFrame_payloadSetCrc _ _)) fun _ => Within.pure _

theorem fills_fwReqUpdate : Within Fills fwReqUpdate :=
  Within.bind fills_getPkg fun _ => Within.bind fills_curComp fun _ =>
    Within.bind Within.get fun _ =>
      Within.bind (fun _ => ⟨rfl, rfl, rfl, rfl, rfl, rfl, rfl, rfl, rfl, rfl⟩) fun _ =>
        fills_fillStruct _ _ _

theorem fills_fwupdPassCompTable : Within Fills fwupdPassCompTable :=
  Within.bind fills_curComp fun _ => Within.bind Within.get fun _ =>
    Within.bind (fun _ => ⟨rfl, rfl, rfl, rfl, rfl, rfl, rfl, rfl, rfl, rfl⟩) fun _ =>
      fills_fillStruct _ _ _

theorem fills_fwUpdComp : Within Fills fwUpdComp :=
  Within.bind fills_curComp fun _ => Within.bind Within.get fun _ =>
    Within.bind (fun _ => ⟨rfl, rfl, rfl, rfl, rfl, rfl, rfl, rfl, rfl, rfl⟩) fun _ =>
      fills_fillStruct _ _ _

theorem fills_pldmFwUpdFillPayload (cmd size : UInt8) :
    Within Fills (pldmFwUpdFillPayload cmd size) := by
  unfold pldmFwUpdFillPayload
  refine Within.ite ?_ (Within.ite ?_ (Within.ite ?_ (Within.ite ?_
    (Within.ite ?_ (Within.pure _)))))
  · exact Within.bind (fills_of_onlyFrame (onlyFrame_payloadCopy _ _)) fun _ =>
      Within.bind (fills_of_onlyFrame (onlyFrame_payloadSetCrc _ _)) fun _ => Within.pure _
  · exact Within.bind (fills_of_onlyFrame (onlyFrame_payloadCopy _ _)) fun _ =>
      Within.bind (fills_of_onlyFrame (onlyFrame_payloadSetCrc _ _)) fun _ => Within.pure _
  · exact within_orError fills_fwReqUpdate
  · exact within_orError fills_fwupdPassCompTable
  · exact within_orError fills_fwUpdComp

theorem fills_fwUpdPrep (cmd size id : UInt8) : Within Fills (fwUpdPrep cmd size id) :=
  Within.bind (within_orError (fills_pldmFwUpdFillPayload _ _)) fun _ =>
    Within.ite
      (Within.bind Within.get fun _ =>
        Within.bind (fills_of_onlyFrame (onlyFrame_messageHeaders _ _ _ _ _)) fun _ => Within.pure _)
      (Within.pure _)

/-- A request that was built carries its header. -/
theorem fwUpdPrep_header {cmd size id : UInt8} {s t : Pldm} (hid : id ≤ pldmInstanceIdMax)
    (h : fwUpdPrep cmd size id s = (.ret pldmSuccess, t)) :
    RequestHeader pldmFirmwareUpdate cmd id t.mI2cPldmWrite := by
  obtain ⟨t₁, -, h₁⟩ | ⟨hne, -⟩ := Prog.chain_eq_ret_iff.mp h
  case inr => exact absurd rfl hne
  obtain ⟨t₂, h₂, hdr⟩ := messageHeaders_returns pldmFirmwareUpdate cmd t₁.fw.mFwuCmdLen id
    pldmRequest t₁ hid (by decide)
  rw [Prog.get_bind_apply, Prog.bind_of_ret h₂] at h₁
  obtain rfl : t₂ = t := by simpa using h₁
  exact hdr

/-- The commands whose payload is only a CRC or a flag. -/
def PlainCmd (cmd : UInt8) : Prop :=
  cmd = queryDeviceIdentifiers ∨ cmd = getFirmwareParameters ∨ cmd = cancelUpdateComponent
    ∨ cmd = cancelUpdate ∨ cmd = getStatus ∨ cmd = activateFirmware

/-- A plain command of a size that carries its headers and fits the payload. -/
structure PlainRequest (cmd size : UInt8) : Prop where
  plain : PlainCmd cmd
  headers : payloadStart ≤ size.toNat
  fits : size.toNat ≤ payloadSize

/-- The payload of a plain command can always be filled. -/
theorem pldmFwUpdFillPayload_plain {cmd size : UInt8} (h : PlainRequest cmd size) (s : Pldm) :
    ∃ t, pldmFwUpdFillPayload cmd size s = (.ret pldmSuccess, t) ∧ OnlyFrame s t := by
  obtain ⟨hcmd, h₁, h₂⟩ := h
  have hpos : 1 ≤ size.toNat := Nat.le_trans (by decide) h₁
  have hcopy (bs : Bytes) (hbs : bs.length ≤ payloadSize) :
      ∃ t, payloadCopy 0 bs s = (.ret (), t) ∧ OnlyFrame s t :=
    ⟨_, payloadCopy_returns (by simpa using hbs) s, _, rfl⟩
  have hcrc (i : Nat) (hi : i < payloadSize) (u : Pldm) :
      ∃ t, payloadSetCrc i (size.toNat - 1) u = (.ret (), t) ∧ OnlyFrame u t :=
    ⟨_, payloadSetCrc_returns hi (by omega) (by omega) u, _, rfl⟩
  by_cases hact : cmd = activateFirmware
  · subst hact
    obtain ⟨t₁, ht₁, hframe₁⟩ := hcopy [0x01] (by decide)
    obtain ⟨t₂, ht₂, hframe₂⟩ := hcrc 1 (by decide) t₁
    refine ⟨t₂, ?_, IsTrans.trans _ _ _ hframe₁ hframe₂⟩
    rw [pldmFwUpdFillPayload, if_neg (by decide), if_pos rfl, payloadSet, bind_of_ret ht₁,
      bind_of_ret ht₂, pure_apply]
  · have hplain : cmd = queryDeviceIdentifiers ∨ cmd = getFirmwareParameters
        ∨ cmd = cancelUpdateComponent ∨ cmd = cancelUpdate ∨ cmd = getStatus := by
      rcases hcmd with h | h | h | h | h | h
      all_goals first | exact absurd h hact | simp [h]
    obtain ⟨t₁, ht₁, hframe₁⟩ := hcopy (List.replicate size.toNat 0) (by simpa using h₂)
    obtain ⟨t₂, ht₂, hframe₂⟩ := hcrc 0 (by decide) t₁
    refine ⟨t₂, ?_, IsTrans.trans _ _ _ hframe₁ hframe₂⟩
    rw [pldmFwUpdFillPayload, if_pos hplain, payloadZero, bind_of_ret ht₁, bind_of_ret ht₂,
      pure_apply]

/-- The request of a plain command can always be built. -/
theorem fwUpdPrep_plain {cmd size id : UInt8} (h : PlainRequest cmd size)
    (hid : id ≤ pldmInstanceIdMax) (s : Pldm) :
    ∃ t, fwUpdPrep cmd size id s = (.ret pldmSuccess, t) ∧ OnlyFrame s t := by
  obtain ⟨t₁, hfill, hframe₁⟩ := pldmFwUpdFillPayload_plain h s
  obtain ⟨t₂, hhdr, -⟩ := messageHeaders_returns pldmFirmwareUpdate cmd t₁.fw.mFwuCmdLen id
    pldmRequest t₁ hid (by decide)
  have hframe₂ := onlyFrame_messageHeaders pldmFirmwareUpdate cmd t₁.fw.mFwuCmdLen id
    pldmRequest t₁
  rw [hhdr] at hframe₂
  refine ⟨t₂, ?_, IsTrans.trans _ _ _ hframe₁ hframe₂⟩
  have hfill' : orError (pldmFwUpdFillPayload cmd size) s = (.ret pldmSuccess, t₁) := by
    rw [orError, bind_of_ret hfill, if_pos rfl, pure_apply]
  rw [fwUpdPrep, andThen, chain, bind_of_ret hfill', if_pos rfl, get_bind_apply, bind_of_ret hhdr,
    pure_apply]

/-! ## Taking responses -/

theorem receives_pldmFwUpdateRespPayload (cmd : UInt8) :
    Within Receives (pldmFwUpdateRespPayload cmd) := by
  refine Within.bind (fun _ => .of_eq rfl rfl rfl) fun _ => Within.bind Within.get fun s => ?_
  refine Within.ite (Within.pure _) (Within.ite ?_ Within.fault)
  exact Within.bind (fun _ => .of_eq rfl rfl rfl) fun _ =>
    Within.ite (Within.pure _) Within.fault

theorem receives_pldmFwGetParamPayload (cmd id : UInt8) :
    Within Receives (pldmFwGetParamPayload cmd id) := by
  refine Within.bind (fun _ => .of_eq rfl rfl rfl) fun _ => Within.bind Within.get fun s => ?_
  exact Within.ite (Within.pure _)
    (Within.bind (fun _ => .of_eq rfl rfl rfl) fun _ => Within.pure _)

/-- Reading the response to an update command does what receiving a frame does and the two ways of
taking a response out of it. -/
theorem within_fwUpdRead {R : Pldm → Pldm → Prop} [Std.Refl R] [IsTrans Pldm R] {cmd id : UInt8}
    (hreceive : Within R receive) (hresp : Within R (pldmFwUpdateRespPayload cmd))
    (hparam : Within R (pldmFwGetParamPayload cmd id)) (fuel : Nat) :
    Within R (fwUpdRead fuel cmd id) := by
  have hstatus : Within R (fwUpdateResp cmd id) := by
    refine Within.ite hresp (Within.ite hparam (Within.ite ?_ (Within.ite ?_
      (Within.ite hresp (Within.pure _)))))
    · exact Within.bind hresp fun _ => Within.bind Within.get fun _ =>
        Within.ite (Within.pure _) (Within.pure _)
    · exact Within.bind hresp fun _ => Within.bind Within.get fun _ =>
        Within.ite (Within.pure _) (Within.pure _)
  refine Within.ite (Within.loop (fun _ => ?_) fuel ()) (Within.pure _)
  refine Within.bind (Within.bind hreceive fun _ => Within.ite hstatus (Within.pure _)) fun _ =>
    Within.bind Within.get fun _ => ?_
  exact Within.ite (Within.pure _) (Within.ite (Within.pure _) (Within.pure _))

theorem receives_fwUpdRead (fuel : Nat) (cmd id : UInt8) :
    Within Receives (fwUpdRead fuel cmd id) :=
  within_fwUpdRead receives_receive (receives_pldmFwUpdateRespPayload cmd)
    (receives_pldmFwGetParamPayload cmd id) fuel

/-! ## The package during a run -/

/-- The package being installed stays as it is. -/
structure SamePackage (s t : Pldm) : Prop where
  mCurComp : t.fw.mCurComp = s.fw.mCurComp
  pkg : t.fw.pkg = s.fw.pkg
  compFile : t.fw.compFile = s.fw.compFile

instance : Std.Refl SamePackage := ⟨fun _ => ⟨rfl, rfl, rfl⟩⟩

instance : IsTrans Pldm SamePackage where
  trans _ _ _ h h' := ⟨h'.mCurComp.trans h.mCurComp, h'.pkg.trans h.pkg,
    h'.compFile.trans h.compFile⟩

theorem Fills.samePackage {s t : Pldm} (h : Fills s t) : SamePackage s t :=
  ⟨h.mCurComp, h.pkg, h.compFile⟩

theorem samePackage_fwUpdRead (fuel : Nat) (cmd id : UInt8) :
    Within SamePackage (fwUpdRead fuel cmd id) := by
  have hframe : Within SamePackage setDestSlaveAddr := fun _ => ⟨rfl, rfl, rfl⟩
  have hresp : Within SamePackage (pldmFwUpdateRespPayload cmd) :=
    Within.bind hframe fun _ => Within.bind Within.get fun _ =>
      Within.ite (Within.pure _) <| Within.ite
        (Within.bind (fun _ => ⟨rfl, rfl, rfl⟩) fun _ => Within.ite (Within.pure _) Within.fault)
        Within.fault
  have hparam : Within SamePackage (pldmFwGetParamPayload cmd id) :=
    Within.bind hframe fun _ => Within.bind Within.get fun _ =>
      Within.ite (Within.pure _) (Within.bind (fun _ => ⟨rfl, rfl, rfl⟩) fun _ => Within.pure _)
  exact within_fwUpdRead (within_receive fun _ _ _ _ => ⟨rfl, rfl, rfl⟩) hresp hparam fuel

theorem samePackage_fwUpdCmd (fuel : Nat) (cmd size : UInt8) :
    Within SamePackage (fwUpdCmd fuel cmd size) := by
  refine Within.bind (fun _ => ⟨rfl, rfl, rfl⟩) fun _ => within_exchange
    (fun _ _ _ _ => ⟨rfl, rfl, rfl⟩) (fun id => ?_) fun id => samePackage_fwUpdRead fuel cmd id
  exact (fills_fwUpdPrep cmd size id).mono fun _ _ => Fills.samePackage

/-! ## Whole commands -/

/-- A request of `fwUpdCmd` for the instance ID `id`; that of a plain command is whole. -/
def FwRequest (cmd size id : UInt8) (bs : Bytes) : Prop :=
  ∃ (f : Frame) (len : Nat), bs = f.slice 1 len ∧ RequestHeader pldmFirmwareUpdate cmd id f ∧
    (PlainRequest cmd size → len = size.toNat)

/-- **The run lemma of `fwUpdCmd`.** -/
theorem fwUpdCmd_run (fuel : Nat) (cmd size : UInt8) {s : Pldm}
    (hid : s.instanceID ≤ pldmInstanceIdMax) :
    wp (fwUpdCmd fuel cmd size)
      (ExchangeRun pldmFirmwareUpdate cmd (PlainRequest cmd size)
        (FwRequest cmd size (wrapId s.instanceID)) s) s := by
  have hprep (h : PlainRequest cmd size) := fwUpdPrep_plain h (wrapId_le hid)
    (s.fwUpdStart size).wrapped
  have hrun : wp (exchange pldmFirmwareUpdate cmd (fwUpdPrep cmd size) (fun s => s.fw.mFwuCmdLen)
      (fwUpdRead fuel cmd)) (ExchangeRun pldmFirmwareUpdate cmd (PlainRequest cmd size)
        (FwRequest cmd size (wrapId s.instanceID)) (s.fwUpdStart size)) (s.fwUpdStart size) := by
    refine exchange_run (fills_fwUpdPrep cmd size) ?_ ?_ (receives_fwUpdRead fuel cmd)
    · intro t h
      refine ⟨_, _, rfl, fwUpdPrep_header (wrapId_le hid) h, fun hplain => ?_⟩
      obtain ⟨t', ht', f, rfl⟩ := hprep hplain
      obtain ⟨-, rfl⟩ := Prod.mk.inj (ht'.symm.trans h)
      rfl
    · intro hplain
      obtain ⟨t, ht, f, rfl⟩ := hprep hplain
      exact ⟨_, ht, Nat.lt_of_le_of_lt hplain.fits (by decide)⟩
  exact wp_mono hrun fun o t h => ⟨h.instanceID, h.trace⟩

end XpuManager
