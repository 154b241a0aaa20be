import XpuManager.Amc.PdrManager
import XpuManager.Amc.FileTransferSteps

/-! # What the queries leave alone

The public queries of the PDR manager follow pointers to records and read fields of them. -/

namespace XpuManager

open Prog

/-! ## Commands that keep the records -/

/-- The stored records stay. -/
def KeepsPdrs (s t : Pldm) : Prop := t.pf.mPdrs = s.pf.mPdrs

instance : Std.Refl KeepsPdrs := ⟨fun _ => rfl⟩

instance : IsTrans Pldm KeepsPdrs := ⟨fun _ _ _ h h' => h'.trans h⟩

theorem OnlyFrame.keepsPdrs {s t : Pldm} (h : OnlyFrame s t) : KeepsPdrs s t := by
  obtain ⟨f, rfl⟩ := h
  exact rfl

theorem keepsPdrs_modifyFt (g : FileTransferState → FileTransferState) :
    Within KeepsPdrs (modifyFt g) := fun _ => rfl

/-- A response leaves the records where they are. -/
theorem keepsPdrs_processPlatformResponse (cmd id : UInt8) :
    Within KeepsPdrs (processPlatformResponse cmd id) := by
  refine Within.ite ?_ (Within.ite ?_ (Within.ite ?_ (Within.pure _)))
  · exact Within.bind Within.get fun _ => Within.ite (Within.pure _)
      (Within.bind (fun _ => rfl) fun _ => Within.ite (Within.pure _)
        (Within.ite (Within.pure _) (Within.pure _)))
  · refine Within.bind Within.get fun _ => Within.ite (Within.pure _)
      (Within.bind (fun _ => rfl) fun _ => Within.bind ?_ fun _ => Within.pure _)
    exact Within.ite (fun _ => rfl) Within.fault
  · refine Within.bind Within.get fun s => Within.ite (Within.pure _)
      (Within.bind (fun _ => rfl) fun _ => ?_)
    split
    · exact Within.pure _
    · exact Within.bind (fun _ => rfl) fun _ => Within.pure _

/-- An exchange leaves the records where they are. -/
theorem keepsPdrs_pfExchange (cmd size : UInt8) : Within KeepsPdrs (pfExchange cmd size) := by
  refine within_exchange (fun _ _ _ _ => rfl)
    (fun id => (onlyFrame_pfPrep cmd size id).mono fun _ _ => OnlyFrame.keepsPdrs) fun id => ?_
  exact Within.bind (within_receive fun _ _ _ _ => rfl) fun _ =>
    Within.ite (within_orError (keepsPdrs_processPlatformResponse cmd id)) (Within.pure _)

/-- Only GetPDR stores records. -/
theorem keepsPdrs_pfMonCtrlCmd (fuel : Nat) {cmd : UInt8} (hcmd : cmd ≠ pldmGetPdr) (size : UInt8) :
    Within KeepsPdrs (pfMonCtrlCmd fuel cmd size) := by
  refine Within.loop (fun _ => ?_) fuel ()
  refine Within.bind (keepsPdrs_pfExchange cmd size) fun ret => Within.ite (Within.pure _) ?_
  rw [if_pos hcmd]
  exact Within.pure _

theorem keepsPdrs_pfGetPdrRepositoryInfo (fuel : Nat) :
    Within KeepsPdrs (pfGetPdrRepositoryInfo fuel) :=
  within_orError (keepsPdrs_pfMonCtrlCmd fuel (by decide) 12)

theorem keepsPdrs_pldmFileTransferCmd (fuel : Nat) (cmd size : UInt8) :
    Within KeepsPdrs (pldmFileTransferCmd fuel cmd size) := by
  have hprep (id : UInt8) : Within OnlyFrame (ftPrep cmd size id) :=
    Within.bind (onlyFrame_messageHeaders _ _ _ _ _) fun _ =>
      Within.ite ((onlyPayload_pldmFillFileTxPayload cmd size).mono fun _ _ => And.left)
        (Within.pure _)
  have hmessage : Within KeepsPdrs (rxMultiPartData fuel) := by
    intro s
    obtain ⟨reads, evs, read, frame, payload, -, ht, -⟩ := rxMultiPartData_run fuel s
    rw [ht]
    exact rfl
  refine Within.ite (Within.pure _) (within_exchange (fun _ _ _ _ => rfl)
    (fun id => (hprep id).mono fun _ _ => OnlyFrame.keepsPdrs) fun id => ?_)
  exact Within.bind hmessage fun _ =>
    Within.ite (within_pldmFileTransferResp keepsPdrs_modifyFt cmd) (Within.pure _)

theorem keepsPdrs_pldmDfOpenCommand (fuel : Nat) (fileIdentifier fileDescriptor : UInt16) :
    Within KeepsPdrs (pldmDfOpenCommand fuel fileIdentifier fileDescriptor) :=
  Within.bind (keepsPdrs_modifyFt _) fun _ => Within.bind (keepsPdrs_pldmFileTransferCmd _ _ _)
    fun _ => Within.bind Within.get fun _ => Within.pure _

theorem keepsPdrs_pldmDfCloseCommand (fuel : Nat) (fileDescriptor : UInt16) :
    Within KeepsPdrs (pldmDfCloseCommand fuel fileDescriptor) :=
  Within.bind (keepsPdrs_modifyFt _) fun _ => keepsPdrs_pldmFileTransferCmd _ _ _

theorem keepsPdrs_takePart (currentOffset : UInt32) : Within KeepsPdrs (takePart currentOffset) :=
  Within.bind Within.get fun _ => Within.ite (Within.pure _)
    (Within.bind (keepsPdrs_modifyFt _) fun _ => Within.ite (Within.pure _)
      (Within.ite (Within.pure _) (Within.bind (keepsPdrs_modifyFt _) fun _ => Within.pure _)))

theorem keepsPdrs_pldmMultipartReceiveCommand (fuel : Nat) (fileDescriptor : UInt16)
    (fileData : Bytes) : Within KeepsPdrs (pldmMultipartReceiveCommand fuel fileDescriptor fileData) := by
  have hturn (currentOffset : UInt32) : Within KeepsPdrs (multipartTurn fuel currentOffset) :=
    Within.bind (keepsPdrs_modifyFt _) fun _ => Within.bind (keepsPdrs_pldmFileTransferCmd _ _ _)
      fun _ => Within.ite (Within.pure _) (keepsPdrs_takePart _)
  exact Within.bind (keepsPdrs_modifyFt _) fun _ => Within.bind (Within.loop hturn _ _) fun _ =>
    Within.bind Within.get fun _ => Within.pure _

/-! ## Looking at records -/

variable {ρ : Type}

/-- A number is read out of a record that has it. -/
theorem readField_cases (record : Bytes) (off len : Nat) (s : PldmObject ρ) :
    off + len ≤ record.length ∧ readField record off len s = (.ret (pdrField record off len), s) ∨
      record.length < off + len ∧ readField record off len s = (.fault, s) := by
  rw [readField, Prog.ite_apply]
  split
  case isTrue h => exact .inl ⟨h, rfl⟩
  case isFalse h => exact .inr ⟨Nat.lt_of_not_le h, rfl⟩

theorem followPtr_apply (ptr : PdrPtr) (s : PldmObject ρ) : (followPtr ptr s).2 = s := by
  rw [followPtr, get_bind_apply]
  cases if ptr.storage = s.storage then s.pldm.pf.mPdrs[ptr.index]? else none <;> rfl

/-- An object whose `Pldm` part kept its records keeps its addresses. -/
theorem PldmObject.withPldm_of_keeps {p : Pldm} {s : PldmObject ρ} (h : KeepsPdrs s.pldm p) :
    s.withPldm p = { s with pldm := p } := by
  have hpdrs : p.pf.mPdrs = s.pldm.pf.mPdrs := h
  rw [PldmObject.withPldm, if_pos hpdrs]

/-! ## The value of a sensor -/

/-- Only the `Pldm` part changes, and it keeps its records. -/
def PldmOnly (s t : PldmObject ρ) : Prop := ∃ p, KeepsPdrs s.pldm p ∧ t = { s with pldm := p }

instance : Std.Refl (PldmOnly (ρ := ρ)) := ⟨fun s => ⟨s.pldm, rfl, rfl⟩⟩

instance : IsTrans (PldmObject ρ) PldmOnly where
  trans := by
    rintro s _ _ ⟨p, hp, rfl⟩ ⟨q, hq, rfl⟩
    exact ⟨q, IsTrans.trans _ _ _ hp hq, rfl⟩

theorem pldmOnly_onPldm {α : Type} {m : Prog Pldm α} (h : Within KeepsPdrs m) :
    Within (PldmOnly (ρ := ρ)) (onPldm m) :=
  h.zoom fun p _ hp => ⟨p, hp, PldmObject.withPldm_of_keeps hp⟩

theorem pldmOnly_readField (record : Bytes) (off len : Nat) :
    Within (PldmOnly (ρ := ρ)) (readField record off len) :=
  Within.ite (Within.pure _) Within.fault

theorem pldmOnly_convertReading (arith : DoubleArith ρ) (sensor : Bytes) (sensorDataSize : UInt8)
    (data : Buf 4) : Within PldmOnly (convertReading arith sensor sensorDataSize data) :=
  Within.bind (pldmOnly_readField _ _ _) fun _ => Within.bind (pldmOnly_readField _ _ _) fun _ =>
    Within.bind (pldmOnly_readField _ _ _) fun _ => Within.pure _

/-- What reading the value of a sensor leaves behind: on success one more reading, of that sensor. -/
def Took (sensor : Bytes) (s : PldmObject ρ) (o : Outcome UInt8) (t : PldmObject ρ) : Prop :=
  ∃ p infos, KeepsPdrs s.pldm p ∧
    t = { s with pldm := p, mSensorInfoList := s.mSensorInfoList ++ infos } ∧
    if o = .ret pldmSuccess then
      ∃ info : PldmSensorInfo ρ, infos = [info] ∧ info.sensorId = UInt16.ofNat (pdrField sensor 12 2)
    else infos = []

theorem PldmOnly.took {sensor : Bytes} {s t : PldmObject ρ} {o : Outcome UInt8}
    (h : PldmOnly s t) (ho : o ≠ .ret pldmSuccess) : Took sensor s o t := by
  obtain ⟨p, hp, rfl⟩ := h
  refine ⟨p, [], hp, by rw [List.append_nil], ?_⟩
  rw [if_neg ho]

/-- The reading goes to the end of the list, if the record has the fields. -/
theorem pushSensorInfo_took {sensor : Bytes} {reading : ρ} {s t : PldmObject ρ} (h : PldmOnly s t) :
    wp (pushSensorInfo sensor reading >>= fun _ => pure pldmSuccess) (Took sensor s) t := by
  have hfault : Took sensor s .fault t := h.took (by simp)
  unfold pushSensorInfo
  simp only [Prog.bind_assoc]
  rcases readField_cases sensor 12 2 t with ⟨-, hid⟩ | ⟨-, hid⟩
  case inr => rw [wp_of_eq (bind_of_fault hid)]; exact hfault
  rw [wp, bind_of_ret hid]
  rcases readField_cases sensor 14 2 t with ⟨-, htype⟩ | ⟨-, htype⟩
  case inr => rw [bind_of_fault htype]; exact hfault
  rw [bind_of_ret htype]
  rcases readField_cases sensor 16 2 t with ⟨-, hnum⟩ | ⟨-, hnum⟩
  case inr => rw [bind_of_fault hnum]; exact hfault
  rw [bind_of_ret hnum]
  rcases readField_cases sensor 18 2 t with ⟨-, hcont⟩ | ⟨-, hcont⟩
  case inr => rw [bind_of_fault hcont]; exact hfault
  rw [bind_of_ret hcont]
  obtain ⟨p, hp, rfl⟩ := h
  refine ⟨p, _, hp, rfl, ?_⟩
  exact ⟨_, rfl, rfl⟩

/-- **Reading the value of a sensor.** -/
theorem pfGetSensorValue_took (arith : DoubleArith ρ) (fuel : Nat) (sensor : Bytes)
    (s : PldmObject ρ) : wp (pfGetSensorValue arith fuel sensor) (Took sensor s) s := by
  have herror : Outcome.ret pldmError ≠ .ret pldmSuccess := by decide
  have hseq {α : Type} {m : Prog (PldmObject ρ) α} {f : α → Prog (PldmObject ρ) UInt8}
      {t : PldmObject ρ} (hm : Within PldmOnly m) (ht : PldmOnly s t)
      (hf : ∀ a u, PldmOnly s u → wp (f a) (Took sensor s) u) : wp (m >>= f) (Took sensor s) t :=
    wp_bind_of (P := fun _ u => PldmOnly s u) (IsTrans.trans _ _ _ ht (hm t)) hf
      (fun u h => h.took (by simp)) fun u h => h.took (by simp)
  refine hseq (pldmOnly_readField _ _ _) (Std.Refl.refl s) fun id t ht => ?_
  refine hseq (pldmOnly_onPldm fun _ => rfl) ht fun _ t ht => ?_
  refine hseq (pldmOnly_onPldm (keepsPdrs_pfMonCtrlCmd fuel (by decide) _)) ht fun ret t ht => ?_
  rw [wp_ite]
  split
  · exact ht.took herror
  · refine hseq Within.get ht fun u t ht =>
      hseq (pldmOnly_convertReading _ _ _ _) ht fun value t ht => ?_
    cases value with
    | none => exact ht.took herror
    | some value => exact pushSensorInfo_took ht

end XpuManager
