import XpuManager.Amc.FileTransfer

/-! # What the file-transfer steps do

One lemma for each step of the file-transfer family, in the form the results about whole transfers
use: what receiving a message leaves alone, what a request looks like on the wire, and what a
command that succeeded has received. -/

namespace XpuManager

open Prog

/-! ## Receiving a message -/

/-- Reading packets changes the read frame and the assembled frame. -/
def RxChange (s t : Pldm) : Prop :=
  ∃ reads evs read frame, (∀ e ∈ evs, ∃ answer, e = Event.read answer) ∧
    t = { s with reads, trace := s.trace ++ evs, mI2cPldmRead := read,
                 ft := { s.ft with mRxAssembledFrame := frame } }

instance : Std.Refl RxChange := ⟨fun s =>
  ⟨s.reads, [], s.mI2cPldmRead, s.ft.mRxAssembledFrame, by simp, by rw [List.append_nil]⟩⟩

instance : IsTrans Pldm RxChange where
  trans := by
    rintro s _ _ ⟨reads, evs, read, frame, hevs, rfl⟩ ⟨reads', evs', read', frame', hevs', rfl⟩
    refine ⟨reads', evs ++ evs', read', frame', fun e he => ?_, by simp⟩
    rcases List.mem_append.mp he with he | he
    · exact hevs e he
    · exact hevs' e he

theorem rxChange_of_frame {s t : Pldm} (h : ∃ frame,
    t = { s with ft := { s.ft with mRxAssembledFrame := frame } }) : RxChange s t := by
  obtain ⟨frame, rfl⟩ := h
  exact ⟨s.reads, [], s.mI2cPldmRead, frame, by simp, by simp⟩

theorem rxChange_tryPacket (retry : Nat) (b : Unit) : Within RxChange (tryPacket retry b) := by
  intro s
  rcases h : s.reads.head with _ | bs
  · rw [tryPacket_of_none h]
    exact ⟨s.reads.tail, [.read none], s.mI2cPldmRead, s.ft.mRxAssembledFrame, by simp, rfl⟩
  · rw [tryPacket_of_some h]
    exact ⟨s.reads.tail, [.read _], s.mI2cPldmRead, s.ft.mRxAssembledFrame, by simp, rfl⟩

theorem rxChange_fragmentBytes (frame : Frame) (off len : Nat) :
    Within RxChange (fragmentBytes frame off len) :=
  Within.ite (Within.pure _) Within.fault

theorem rxChange_assembledAssign (frame : Frame) (len : Nat) :
    Within RxChange (assembledAssign frame len) :=
  Within.bind (rxChange_fragmentBytes _ _ _) fun _ _ => rxChange_of_frame ⟨_, rfl⟩

theorem rxChange_assembledInsert (frame : Frame) (len : Nat) :
    Within RxChange (assembledInsert frame len) :=
  Within.bind (rxChange_fragmentBytes _ _ _) fun _ _ => rxChange_of_frame ⟨_, rfl⟩

theorem rxChange_rxPacket (frame : Frame) (b : RxLocals) : Within RxChange (rxPacket frame b) := by
  have hcont (next : RxLocals ⊕ UInt8) : Within RxChange (rxContinuation frame b next) := by
    unfold rxContinuation
    refine Within.ite (Within.pure _) (Within.ite (Within.pure _) (Within.ite (Within.pure _) ?_))
    exact Within.bind Within.get fun _ => Within.ite (Within.pure _)
      (Within.bind (rxChange_assembledInsert _ _) fun _ => Within.pure _)
  have hread : Within RxChange (Prog.modify fun s => { s with mI2cPldmRead := frame }) :=
    fun s => ⟨s.reads, [], frame, s.ft.mRxAssembledFrame, by simp, by simp⟩
  unfold rxPacket
  refine Within.ite (Within.pure _) (Within.ite ?_ (Within.ite ?_ (Within.ite (hcont _) (hcont _))))
  · exact Within.ite (Within.pure _) (Within.bind (rxChange_assembledAssign _ _) fun _ =>
      Within.bind hread fun _ => Within.pure _)
  · exact Within.ite (Within.pure _) (Within.bind (rxChange_assembledAssign _ _) fun _ =>
      Within.pure _)

theorem rxChange_rxTurn (b : RxLocals) : Within RxChange (rxTurn b) := by
  refine Within.bind (Within.forEach rxChange_tryPacket _ _) fun packet => ?_
  cases packet with
  | inl frame => exact rxChange_rxPacket frame b
  | inr u => exact Within.pure _

/-- What a run of `rxMultiPartData` leaves behind. On success it ends with the message, which has
a payload; the payload and the read frame are taken from it. -/
def RxRun (s : Pldm) (o : Outcome UInt8) (t : Pldm) : Prop :=
  ∃ reads evs read frame payload, (∀ e ∈ evs, ∃ answer, e = Event.read answer) ∧
    t = { s with reads, mI2cPldmRead := read,
                 trace := s.trace ++
                   (evs ++ if o = .ret pldmSuccess then [.message frame] else []),
                 ft := { s.ft with mRxAssembledFrame := frame, mRxAssembledPayload := payload } } ∧
    (o = .ret pldmSuccess → payloadStart < frame.length ∧ payload = frame.drop payloadStart ∧
      read = assembledRead frame)

/-- **The run lemma of `rxMultiPartData`.** -/
theorem rxMultiPartData_run (fuel : Nat) (s : Pldm) :
    wp (rxMultiPartData fuel) (RxRun s) s := by
  obtain ⟨reads, evs, read, frame, hevs, hu⟩ := Within.loop rxChange_rxTurn fuel ⟨0, false⟩ s.cleared
  have hfail {o : Outcome UInt8} {u : Pldm} (ho : o ≠ .ret pldmSuccess)
      (hu : u = { s.cleared with reads, trace := s.cleared.trace ++ evs, mI2cPldmRead := read, ft :=
        { s.cleared.ft with mRxAssembledFrame := frame } }) : RxRun s o u := by
    refine ⟨reads, evs, read, frame, [], hevs, ?_, fun h => absurd h ho⟩
    rw [hu, if_neg ho, List.append_nil]
    rfl
  rw [wp, rxMultiPartData_apply]
  rcases hl : Prog.loop rxTurn fuel ⟨0, false⟩ s.cleared with ⟨r | _ | _, u⟩
  · rw [hl] at hu
    rw [andThen, chain, bind_of_ret hl, Prog.ite_apply]
    split
    case isFalse hr => exact hfail (by simpa using hr) hu
    case isTrue =>
      rw [rxFinish_apply]
      split
      case isFalse => exact hfail (by simp) hu
      case isTrue hlong =>
        subst hu
        refine ⟨reads, evs, assembledRead frame, frame, frame.drop payloadStart, hevs, ?_,
          fun _ => ⟨hlong, rfl, rfl⟩⟩
        rw [if_pos rfl, ← List.append_assoc]
        rfl
  · rw [hl] at hu
    rw [andThen, chain, bind_of_fault hl]
    exact hfail (by simp) hu
  · rw [hl] at hu
    rw [andThen, chain, bind_of_cut hl]
    exact hfail (by simp) hu

theorem receives_rxMultiPartData (fuel : Nat) : Within Receives (rxMultiPartData fuel) := by
  intro s
  obtain ⟨reads, evs, read, frame, payload, hevs, ht, -⟩ := rxMultiPartData_run fuel s
  rw [ht]
  refine ⟨rfl, rfl, _, rfl, fun e he => ?_⟩
  rcases List.mem_append.mp he with he | he
  · obtain ⟨answer, rfl⟩ := hevs e he
    rfl
  · split at he
    · obtain rfl := List.mem_singleton.mp he
      rfl
    · cases he

/-! ## Requests -/

theorem onlyPayload_fillFields (bytes : Bytes) : Within OnlyPayload (fillFields bytes) :=
  Within.bind (onlyPayload_payloadCopy _ _) fun _ => onlyPayload_setCrc_success _ _

theorem onlyPayload_pldmFillFileTxPayload (cmd size : UInt8) :
    Within OnlyPayload (pldmFillFileTxPayload cmd size) := by
  have hfields (bytes : Bytes) := onlyPayload_fillFields bytes
  unfold pldmFillFileTxPayload
  refine Within.ite (Within.pure _) (Within.bind (onlyPayload_payloadCopy _ _) fun _ =>
    Within.bind Within.get fun s => ?_)
  refine Within.ite (hfields _) (Within.ite (hfields _) (Within.ite (hfields _) (Within.ite ?_
    (Within.ite (hfields _) (Within.ite (hfields _) (Within.pure _))))))
  exact onlyPayload_setCrc_success _ _

/-- **The fields of a request.** They go into the payload with their CRC behind them. -/
theorem fillFields_returns {bytes : Bytes} (h : bytes.length < payloadSize) (s : Pldm) :
    ∃ g, fillFields bytes s = (.ret pldmSuccess, { s with mI2cPldmWrite := g }) ∧
      g.slice payloadStart (bytes.length + 1) = bytes ++ [crc8Smbus bytes] := by
  have h' : bytes.length < 128 := h
  let f := s.mI2cPldmWrite.overlay (payloadStart + 0) bytes
  let g := f.setByte (payloadStart + bytes.length)
    (crc8Smbus (f.slice payloadStart (bytes.length : Int).toNat))
  have hbytes : f.slice payloadStart bytes.length = bytes :=
    Buf.slice_overlay (show 12 + bytes.length ≤ 140 by omega)
  have hcopy : payloadCopy 0 bytes s = (.ret (), { s with mI2cPldmWrite := f }) :=
    payloadCopy_returns (show 0 + bytes.length ≤ 128 by omega) s
  have hcrc : payloadSetCrc bytes.length bytes.length { s with mI2cPldmWrite := f } =
      (.ret (), { s with mI2cPldmWrite := g }) :=
    payloadSetCrc_returns h (Int.natCast_nonneg _) (show (bytes.length : Int) ≤ 128 by omega) _
  refine ⟨g, ?_, ?_⟩
  · rw [fillFields, bind_of_ret hcopy, bind_of_ret hcrc, pure_apply]
  · have hfields : g.slice payloadStart bytes.length = f.slice payloadStart bytes.length :=
      Buf.slice_congr fun k hk => Buf.byte_setByte_of_ne (by omega)
    have hbyte : g.slice (payloadStart + bytes.length) 1 = [crc8Smbus bytes] := by
      change [g.byte (payloadStart + bytes.length + 0)] = _
      rw [Nat.add_zero, Buf.byte_setByte_self (show 12 + bytes.length < 140 by omega),
        Int.toNat_natCast, hbytes]
    rw [Buf.slice_add, hfields, hbytes, hbyte]

theorem MultipartReceiveReq.length_bytes (r : MultipartReceiveReq) : r.bytes.length = 18 := by
  simp [MultipartReceiveReq.bytes]

/-- What a request for a part looks like on the bus. -/
structure PartRequest (r : MultipartReceiveReq) (bs : Bytes) : Prop where
  isRequest : isRequest pldmMessageDiscovery pldmMultipartReceive bs = true
  payload : wirePayload bs = r.bytes ++ [crc8Smbus r.bytes]

/-- **The request for a part**, as it stands in the write frame. -/
theorem ftPrep_multipart {id : UInt8} {s t : Pldm}
    (h : ftPrep pldmMultipartReceive multipartReceiveSize id s = (.ret pldmSuccess, t)) :
    OnlyFrame s t ∧ PartRequest s.ft.mMultipartReceiveReq (t.mI2cPldmWrite.slice 1 30) := by
  obtain ⟨u, hhdr, hfill⟩ | ⟨hne, -⟩ := chain_eq_ret_iff.mp h
  case inr => exact absurd rfl hne
  have hid := id_le_of_messageHeaders hhdr
  obtain ⟨u', hu', hdr⟩ := messageHeaders_returns pldmMessageDiscovery pldmMultipartReceive
    multipartReceiveSize id pldmRequest s hid (by decide)
  obtain rfl : u' = u := (Prod.mk.inj (hu'.symm.trans hhdr)).2
  have hframe := onlyFrame_messageHeaders pldmMessageDiscovery pldmMultipartReceive
    multipartReceiveSize id pldmRequest s
  rw [hu'] at hframe
  have hpayload := onlyPayload_pldmFillFileTxPayload pldmMultipartReceive multipartReceiveSize u'
  rw [hfill] at hpayload
  refine ⟨IsTrans.trans _ _ _ hframe hpayload.1,
    (hdr.of_keeps hpayload.2).isRequest (by decide) (by decide), ?_⟩
  -- the payload is that of the request structure
  obtain ⟨f, rfl⟩ := hframe
  let r := s.ft.mMultipartReceiveReq
  let u₀ : Pldm := { s with mI2cPldmWrite := f }
  let u₁ : Pldm := { s with mI2cPldmWrite := f.overlay (payloadStart + 0) (List.replicate 30 0) }
  have hzero : payloadZero multipartReceiveSize.toNat u₀ = (.ret (), u₁) :=
    payloadCopy_returns (by decide) _
  obtain ⟨g, hg, hslice⟩ := @fillFields_returns r.bytes (by rw [r.length_bytes]; decide) u₁
  have hfill' : pldmFillFileTxPayload pldmMultipartReceive multipartReceiveSize u₀ =
      (.ret pldmSuccess, { u₁ with mI2cPldmWrite := g }) := by
    rw [pldmFillFileTxPayload, if_neg (by decide), bind_of_ret hzero, get_bind_apply,
      if_neg (by decide), if_neg (by decide), if_neg (by decide), if_neg (by decide),
      if_neg (by decide), if_pos rfl]
    exact hg
  obtain rfl := (Prod.mk.inj (hfill'.symm.trans hfill)).2
  rw [r.length_bytes] at hslice
  exact (wirePayload_slice g 19).trans hslice

/-! ## Responses -/

/-- A payload that passes the checks belongs to the command, and its completion code is zero,
or 5 for MultipartReceive. -/
theorem pldmFileTransferRespPayload_success {resp : Bytes} {cmd : UInt8} {s t : Pldm}
    (h : pldmFileTransferRespPayload resp cmd s = (.ret pldmSuccess, t)) :
    t = s ∧ (s.ft.mRxAssembledFrame ≠ [] → s.ft.mRxAssembledFrame.getD 11 0 = cmd) ∧
      (completionCode resp = pldmSuccess ∨
        cmd = pldmMultipartReceive ∧ completionCode resp = pldmErrorUnsupportedPldmCmd) := by
  rw [pldmFileTransferRespPayload, get_bind_apply] at h
  split at h
  case isTrue => simp at h
  case isFalse =>
  split at h
  case isTrue => simp at h
  case isFalse hcmd =>
  have hcmd' (hne : s.ft.mRxAssembledFrame ≠ []) : s.ft.mRxAssembledFrame.getD 11 0 = cmd := by
    by_contra hc
    exact hcmd ⟨by simpa using hne, hc⟩
  split at h
  case isTrue => simp at h
  case isFalse =>
  split at h
  case isTrue hcode =>
    split at h
    case isTrue hmulti =>
      obtain rfl : s = t := (Prod.mk.inj h).2
      exact ⟨rfl, hcmd', .inr hmulti⟩
    case isFalse => simp at h
  case isFalse hcode =>
  split at h
  case isTrue => simp at h
  case isFalse =>
    obtain rfl : s = t := (Prod.mk.inj h).2
    exact ⟨rfl, hcmd', .inl (not_not.mp hcode)⟩

/-- The state after a part has been taken from the response payload `resp`. -/
def Pldm.withPart (s : Pldm) (resp : Bytes) : Pldm :=
  let r := multipartResp resp
  { s with ft := { s.ft with
      mMultipartReceiveResp := r
      readRespData := s.ft.readRespData.overlay 0 ((resp.drop 10).take r.dataLengthBytes.toNat)
      readRespDataLength := r.dataLengthBytes } }

/-- **A part that was taken.** It is whole and fits the read buffer. -/
theorem handleMultipartReceiveResp_success {resp : Bytes} {n : Nat} {s t : Pldm}
    (h : handleMultipartReceiveResp resp n s = (.ret pldmSuccess, t)) :
    t = s.withPart resp ∧ (multipartResp resp).completionCode ≠ pldmErrorUnsupportedPldmCmd ∧
      (multipartResp resp).dataLengthBytes.toNat ≤ dfReadDataSize ∧
      (multipartResp resp).dataLengthBytes.toNat ≤ resp.length - 10 := by
  rw [handleMultipartReceiveResp] at h
  split at h
  case isTrue => simp at h
  case isFalse =>
  simp only [modifyFt_bind_apply] at h
  split at h
  case isTrue =>
    rw [modifyFt_bind_apply, pure_apply] at h
    exact absurd (Outcome.ret.inj (Prod.mk.inj h).1) (by decide)
  case isFalse hcode =>
  split at h
  case isTrue => simp at h
  case isFalse hlen =>
    rw [not_or, Nat.not_lt, Nat.not_lt] at hlen
    exact ⟨(Prod.mk.inj h).2.symm, hcode, hlen.1, hlen.2⟩

/-- **The response to a request for a part.** -/
theorem pldmFileTransferResp_multipart {s t : Pldm} (hne : s.ft.mRxAssembledPayload ≠ [])
    (h : pldmFileTransferResp pldmMultipartReceive s = (.ret pldmSuccess, t)) :
    t = s.withPart s.ft.mRxAssembledPayload ∧
      (multipartResp s.ft.mRxAssembledPayload).completionCode = pldmSuccess ∧
      (multipartResp s.ft.mRxAssembledPayload).dataLengthBytes.toNat ≤ dfReadDataSize ∧
      (multipartResp s.ft.mRxAssembledPayload).dataLengthBytes.toNat ≤
        s.ft.mRxAssembledPayload.length - 10 := by
  have hresp : s.ftRespPayload = s.ft.mRxAssembledPayload := if_neg (by simpa using hne)
  rw [pldmFileTransferResp, get_bind_apply, hresp] at h
  obtain ⟨u, hcheck, hpart⟩ | ⟨hne', -⟩ := chain_eq_ret_iff.mp h
  case inr => exact absurd rfl hne'
  obtain ⟨rfl, -, hcode⟩ := pldmFileTransferRespPayload_success (orError_eq_success_iff.mp hcheck)
  rw [if_neg (by decide), if_neg (by decide), if_neg (by decide), if_neg (by decide),
    if_pos rfl] at hpart
  obtain ⟨ht, hunsupported, hlen⟩ := handleMultipartReceiveResp_success hpart
  exact ⟨ht, hcode.resolve_right fun hc => hunsupported hc.2, hlen⟩

/-- Taking the response out of a message changes the file-transfer part. -/
theorem within_pldmFileTransferResp {R : Pldm → Pldm → Prop} [Std.Refl R] [IsTrans Pldm R]
    (hft : ∀ g, Within R (modifyFt g)) (cmd : UInt8) : Within R (pldmFileTransferResp cmd) := by
  have hcheck (resp : Bytes) : Within R (pldmFileTransferRespPayload resp cmd) :=
    Within.bind Within.get fun _ => Within.ite (Within.pure _) (Within.ite (Within.pure _)
      (Within.ite (Within.pure _) (Within.ite (Within.pure _) (Within.ite (Within.pure _)
        (Within.pure _)))))
  have hopen (resp : Bytes) : Within R (handleDfOpenResp resp) :=
    Within.ite (Within.pure _) (Within.bind (hft _) fun _ => Within.pure _)
  have hclose (resp : Bytes) : Within R (handleDfCloseResp resp) :=
    Within.ite (Within.pure _) (Within.bind (hft _) fun _ => Within.pure _)
  have hbeat (resp : Bytes) : Within R (handleDfHeartbeatResp resp) :=
    Within.ite (Within.pure _) (Within.bind (hft _) fun _ => Within.pure _)
  have hread (resp : Bytes) (n : Nat) : Within R (handleDfReadResp resp n) :=
    Within.ite (Within.pure _) (Within.bind (hft _) fun _ => Within.ite (Within.pure _)
      (Within.ite (Within.pure _) (Within.bind (hft _) fun _ => Within.pure _)))
  have hpart (resp : Bytes) (n : Nat) : Within R (handleMultipartReceiveResp resp n) :=
    Within.ite (Within.pure _) (Within.bind (hft _) fun _ =>
      Within.ite (Within.bind (hft _) fun _ => Within.pure _) (Within.ite (Within.pure _)
        (Within.bind (hft _) fun _ => Within.pure _)))
  refine Within.bind Within.get fun s => Within.bind (within_orError (hcheck _)) fun _ =>
    Within.ite ?_ (Within.pure _)
  exact Within.ite (hopen _) (Within.ite (hclose _) (Within.ite (hbeat _) (Within.ite (hread _ _)
    (Within.ite (hpart _ _) (Within.ite (Within.pure _) (Within.pure _))))))

theorem receives_pldmFileTransferResp (cmd : UInt8) :
    Within Receives (pldmFileTransferResp cmd) :=
  within_pldmFileTransferResp (fun _ _ => .of_eq rfl rfl rfl) cmd

end XpuManager
