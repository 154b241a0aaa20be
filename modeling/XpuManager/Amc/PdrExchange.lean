import XpuManager.Amc.PdrRepository

/-! # One GetPDR exchange

What a single GetPDR request and its response do, for each answer of the bus. -/

namespace XpuManager

open Prog

/-- The size of a GetPDR request. -/
abbrev getPdrSize : UInt8 := 25

/-- The bytes of `pfPdrReq` are the payload of the frame. -/
theorem pfFillPayload_getPdr (s : Pldm) : ∃ f,
    pfFillPayload pldmGetPdr getPdrSize s = (.ret pldmSuccess, { s with mI2cPldmWrite := f }) ∧
      f.slice payloadStart 13 = s.pf.pfPdrReq.bytes := by
  have hlen : s.pf.pfPdrReq.bytes.length = 13 := by simp [PdrReqPayload.bytes]
  let f₁ := s.mI2cPldmWrite.overlay (payloadStart + 0) (List.replicate 25 0)
  let f₂ := f₁.overlay (payloadStart + 0) s.pf.pfPdrReq.bytes
  refine ⟨f₂.setByte (payloadStart + 13) (crc8Smbus (f₂.slice payloadStart 12)), ?_, ?_⟩
  · rw [pfFillPayload, payloadZero, bind_of_ret (payloadCopy_returns (by decide) s), get_bind_apply,
      if_neg (by decide), if_pos rfl]
    rw [bind_of_ret (payloadCopy_returns (by rw [hlen]; decide) _),
      bind_of_ret (payloadSetCrc_returns (by decide) (by decide) (by decide) _)]
    rfl
  · rw [Buf.slice_congr (c := f₂) fun k hk => Buf.byte_setByte_of_ne (by omega), ← hlen]
    exact Buf.slice_overlay (by rw [hlen]; decide)

/-- **The request.** Its payload on the bus is `pfPdrReq`. -/
theorem pfPrep_getPdr (s : Pldm) {id : UInt8} (hid : id ≤ pldmInstanceIdMax) : ∃ f : Frame,
    orError (andThen (requestHeaders pldmPlatformMonitoring pldmGetPdr getPdrSize id)
      (pfFillPayload pldmGetPdr getPdrSize)) s = (.ret pldmSuccess, { s with mI2cPldmWrite := f }) ∧
      pdrRequest (f.slice 1 getPdrSize.toNat) = s.pf.pfPdrReq := by
  obtain ⟨t, hheaders, -⟩ :=
    messageHeaders_returns pldmPlatformMonitoring pldmGetPdr getPdrSize id pldmRequest s hid (by decide)
  obtain ⟨g, rfl⟩ : OnlyFrame s t := by
    have honly := onlyFrame_messageHeaders pldmPlatformMonitoring pldmGetPdr getPdrSize id
      pldmRequest s
    rwa [hheaders] at honly
  obtain ⟨f, hfill, hslice⟩ := pfFillPayload_getPdr { s with mI2cPldmWrite := g }
  refine ⟨f, ?_, pdrRequest_of_bytes ?_⟩
  · rw [orError_eq_success_iff]
    exact (bind_of_ret hheaders).trans hfill
  · rw [← hslice, show getPdrSize.toNat = 11 + 14 from rfl, wirePayload_slice]
    exact Buf.take_drop_slice (i := 0) (by decide)

/-! ## Responses -/

/-- `pfPdrResp` and the record being received after a response that was accepted. -/
def PlatformState.afterPart (pf : PlatformState) (f : Frame) : PlatformState :=
  { pf with
    pfPdrResp := pdrRespPayload f
    mCurrentPdr := pf.mCurrentPdr ++
      f.slice (payloadStart + 12) (pdrRespPayload f).responseCount.toNat }

theorem processPlatformResponse_getPdr (id : UInt8) (s : Pldm) :
    processPlatformResponse pldmGetPdr id s =
      if s.mI2cPldmRead.respPayload 0 ≠ pldmSuccess then (.ret pldmError, s)
      else if 12 + (pdrRespPayload s.mI2cPldmRead).responseCount.toNat ≤ payloadSize then
        (.ret pldmSuccess, { s with pf := s.pf.afterPart s.mI2cPldmRead })
      else (.fault, { s with pf := { s.pf with pfPdrResp := pdrRespPayload s.mI2cPldmRead } }) := by
  rw [processPlatformResponse, if_neg (by decide), if_pos rfl, pfPdrRespPayload, get_bind_apply]
  split
  case isTrue => rfl
  case isFalse =>
    simp only [modifyPf, appendPdrData, modify_bind_apply]
    split <;> rfl

/-- The bytes of record data in the payload of a frame. -/
def Frame.recordData (f : Frame) : Bytes := (f.slice payloadStart payloadSize).drop 12

/-- A GetPDR response adds to the record being received as many bytes as its count says, none if it is
refused, and takes them from the record data in the payload. -/
def AppendsReceived (s : Pldm) : Prop :=
  let f := s.mI2cPldmRead
  let count := if f.respPayload 0 = pldmSuccess then (pdrRespPayload f).responseCount.toNat else 0
  ∃ ret t, pfPdrRespPayload s = (.ret ret, t) ∧
    t.pf.mCurrentPdr = s.pf.mCurrentPdr ++ f.recordData.take count

/-- **Which responses add only bytes of their payload.** -/
theorem pfPdrRespPayload_appends_iff (s : Pldm) : AppendsReceived s ↔
    s.mI2cPldmRead.respPayload 0 ≠ pldmSuccess ∨
      12 + (pdrRespPayload s.mI2cPldmRead).responseCount.toNat ≤ payloadSize := by
  have happly := processPlatformResponse_getPdr 0 s
  rw [processPlatformResponse, if_neg (by decide), if_pos rfl] at happly
  unfold AppendsReceived
  by_cases hcode : s.mI2cPldmRead.respPayload 0 = pldmSuccess
  case neg =>
    rw [if_pos hcode] at happly
    simp only [if_neg hcode, happly]
    exact iff_of_true ⟨_, _, rfl, (List.append_nil _).symm⟩ (.inl hcode)
  case pos =>
    rw [if_neg (not_not.mpr hcode)] at happly
    simp only [if_pos hcode]
    by_cases hroom : 12 + (pdrRespPayload s.mI2cPldmRead).responseCount.toNat ≤ payloadSize
    · rw [if_pos hroom] at happly
      refine iff_of_true ⟨_, _, happly, ?_⟩ (.inr hroom)
      exact congrArg (s.pf.mCurrentPdr ++ ·) (Buf.take_drop_slice hroom).symm
    · rw [if_neg hroom] at happly
      refine iff_of_false ?_ (not_or.mpr ⟨not_not.mpr hcode, hroom⟩)
      rintro ⟨ret, t, hret, -⟩
      rw [happly] at hret
      cases hret

/-- An accepted response that counts one byte more than the payload holds behind the count. -/
theorem pfPdrRespPayload_overruns : ¬AppendsReceived { (default : Pldm) with
    mI2cPldmRead := (Buf.zero frameSize).overlay (payloadStart + 10) [117, 0] } := by
  rintro ⟨ret, t, hret, -⟩
  have hfault : (pfPdrRespPayload { (default : Pldm) with
      mI2cPldmRead := (Buf.zero frameSize).overlay (payloadStart + 10) [117, 0] }).1 = .fault := by
    decide +kernel
  rw [hret] at hfault
  cases hfault

/-! ## The exchange -/

/-- The events of an exchange that returned. -/
def exchangeEvents (bs : Bytes) (ok : Bool) (reads : List Event) (ret idBefore idAfter : UInt8) :
    List Event :=
  .write bs ok :: (reads ++ [.exchange pldmPlatformMonitoring pldmGetPdr ret idBefore idAfter])

/-- The state after an exchange whose request `bs` went out from the write frame `w` and whose
response was accepted. -/
def Pldm.afterPart (s : Pldm) (w : Frame) (bs delivered : Bytes) : Pldm :=
  { s with
    reads := s.reads.tail
    writes := s.writes.tail
    mI2cPldmWrite := w
    mI2cPldmRead := s.received delivered
    instanceID := wrapId s.instanceID + 1
    pf := s.pf.afterPart (s.received delivered)
    trace := s.trace ++ exchangeEvents bs true [.read (some (s.received delivered))] pldmSuccess
      s.instanceID (wrapId s.instanceID + 1) }

/-- The bus takes the request and delivers a response with completion code 0 whose record data lies
in the frame. -/
def Accepts (s : Pldm) (delivered : Bytes) : Prop :=
  s.writes.head = true ∧ s.reads.head = some delivered ∧
    (s.received delivered).respPayload 0 = pldmSuccess ∧
    12 + (pdrRespPayload (s.received delivered)).responseCount.toNat ≤ payloadSize

/-- The state in which the request is sent from the write frame `w`. -/
def Pldm.prepared (s : Pldm) (w : Frame) : Pldm := { s.wrapped with mI2cPldmWrite := w }

/-- **An accepted response.** -/
theorem pfExchange_of_accepts {s : Pldm} (hid : s.instanceID ≤ pldmInstanceIdMax)
    {delivered : Bytes} (h : Accepts s delivered) : ∃ w bs, pdrRequest bs = s.pf.pfPdrReq ∧
      pfExchange pldmGetPdr getPdrSize s = (.ret pldmSuccess, s.afterPart w bs delivered) := by
  obtain ⟨hwrite, hread, hcode, hroom⟩ := h
  obtain ⟨w, hprep, hrequest⟩ := pfPrep_getPdr s.wrapped (wrapId_le hid)
  refine ⟨w, w.slice 1 getPdrSize.toNat, hrequest, ?_⟩
  rw [pfExchange, exchange_eq_ret_iff]
  let u := (s.prepared w).afterWrite getPdrSize.toNat
  have hreceive : receive u = (.ret pldmSuccess, u.afterRead delivered) := by
    rw [receive_apply, show u.reads.head = some delivered from hread]
  have hrecv : receiveThen (processPlatformResponse pldmGetPdr s.wrapped.instanceID) u =
      (.ret pldmSuccess, { u.afterRead delivered with
        pf := u.pf.afterPart (u.received delivered) }) := by
    rw [receiveThen, andThen, chain, bind_of_ret hreceive]
    refine orError_eq_success_iff.mpr ?_
    rw [processPlatformResponse_getPdr]
    exact (if_neg (not_not.mpr hcode)).trans (if_pos hroom)
  refine ⟨{ u.afterRead delivered with
    pf := u.pf.afterPart (u.received delivered), instanceID := wrapId s.instanceID + 1 }, ?_, ?_⟩
  · rw [exchangeBody_of_prep hprep, if_pos (by decide)]
    exact (if_pos hwrite).trans (bind_of_ret hrecv)
  · simp only [Pldm.afterPart, exchangeEvents, Pldm.afterRead, Pldm.received, Pldm.afterWrite,
      Pldm.prepared, Pldm.wrapped, u]
    rw [hwrite]
    simp

/-- Without an answer the exchange fails, having sent its request. -/
theorem pfExchange_unanswered {s : Pldm} (hid : s.instanceID ≤ pldmInstanceIdMax)
    (hwrite : s.writes.head = true) (hread : s.reads.head = none) :
    ∃ bs t, pdrRequest bs = s.pf.pfPdrReq ∧
      pfExchange pldmGetPdr getPdrSize s = (.ret pldmError, t) ∧
      t.trace = s.trace ++ exchangeEvents bs true [.read none] pldmError s.instanceID
        (wrapId s.instanceID) := by
  obtain ⟨w, hprep, hrequest⟩ := pfPrep_getPdr s.wrapped (wrapId_le hid)
  let u := (s.prepared w).afterWrite getPdrSize.toNat
  have hreceive : receive u = (.ret pldmError, u.afterFailedRead) := by
    rw [receive_apply, show u.reads.head = none from hread]
  have hrecv : receiveThen (processPlatformResponse pldmGetPdr s.wrapped.instanceID) u =
      (.ret pldmError, u.afterFailedRead) := by
    rw [receiveThen, andThen, chain, bind_of_ret hreceive]
    rfl
  refine ⟨w.slice 1 getPdrSize.toNat, { u.afterFailedRead with
    trace := u.afterFailedRead.trace ++ [.exchange pldmPlatformMonitoring pldmGetPdr pldmError
      s.instanceID u.afterFailedRead.instanceID] }, hrequest, ?_, ?_⟩
  · rw [pfExchange, exchange_eq_ret_iff]
    refine ⟨u.afterFailedRead, ?_, rfl⟩
    rw [exchangeBody_of_prep hprep, if_pos (by decide)]
    exact (if_pos hwrite).trans (bind_of_ret hrecv)
  · simp only [exchangeEvents, Pldm.afterFailedRead, Pldm.afterWrite, Pldm.prepared, Pldm.wrapped,
      u]
    rw [hwrite]
    simp

/-- A response that was not refused was accepted. -/
theorem accepts_of_pfExchange {s t : Pldm} (hid : s.instanceID ≤ pldmInstanceIdMax)
    (h : pfExchange pldmGetPdr getPdrSize s = (.ret pldmSuccess, t)) :
    ∃ delivered, Accepts s delivered := by
  obtain ⟨w, hprep, -⟩ := pfPrep_getPdr s.wrapped (wrapId_le hid)
  obtain ⟨t', hbody, -⟩ := exchange_eq_ret_iff.mp h
  obtain ⟨t₁, t₂, hprep', -, hwrite, hrecv, -⟩ := exchangeBody_success hbody
  obtain rfl : s.prepared w = t₁ := (Prod.mk.inj (hprep.symm.trans hprep')).2
  obtain ⟨delivered, hread, hresp⟩ := receiveThen_success hrecv
  refine ⟨delivered, hwrite, hread, ?_⟩
  rw [processPlatformResponse_getPdr] at hresp
  split at hresp
  case isTrue => simp at hresp
  case isFalse hcode =>
    split at hresp
    case isTrue hroom => exact ⟨not_not.mp hcode, hroom⟩
    case isFalse => simp at hresp

/-- **A refused exchange.** It has sent its request and nothing else. -/
theorem pfExchange_of_not_accepts {s : Pldm} (hid : s.instanceID ≤ pldmInstanceIdMax)
    (h : ∀ delivered, ¬Accepts s delivered) :
    wp (pfExchange pldmGetPdr getPdrSize) (fun o t => o ≠ .ret pldmSuccess ∧
      ∃ bs ok rest, pdrRequest bs = s.pf.pfPdrReq ∧ t.trace = s.trace ++ .write bs ok :: rest ∧
        ∀ e ∈ rest, e.isWrite = false) s := by
  obtain ⟨w, hprep, hrequest⟩ := pfPrep_getPdr s.wrapped (wrapId_le hid)
  have hrun : wp (pfExchange pldmGetPdr getPdrSize) (ExchangeRun pldmPlatformMonitoring pldmGetPdr
      True (fun bs => pdrRequest bs = s.pf.pfPdrReq) s) s := by
    refine exchange_run (fun id => fills_pfPrep _ _ id) ?_ ?_
      fun id => receives_receiveThen (quiet_processPlatformResponse _ id)
    · intro t ht
      obtain rfl : s.prepared w = t := (Prod.mk.inj (hprep.symm.trans ht)).2
      exact hrequest
    · exact fun _ => ⟨s.prepared w, hprep, by decide⟩
  refine wp_mono (Q := fun o t => o ≠ .ret pldmSuccess ∧ ExchangeRun pldmPlatformMonitoring
    pldmGetPdr True (fun bs => pdrRequest bs = s.pf.pfPdrReq) s o t) ⟨?_, hrun⟩ ?_
  · intro ho
    obtain ⟨delivered, hacc⟩ := accepts_of_pfExchange hid (Prod.ext ho rfl)
    exact h delivered hacc
  · rintro o t ⟨ho, -, bus, hbus, htrace⟩
    refine ⟨ho, ?_⟩
    cases hbus with
    | unbuilt _ hnot => exact absurd trivial hnot
    | @sent bs reads hbs _ hreads =>
      refine ⟨bs, s.writes.head, reads ++ closing pldmPlatformMonitoring pldmGetPdr o s.instanceID,
        hbs, ?_, ?_⟩
      · rw [htrace]
        simp
      · intro e he
        rcases List.mem_append.mp he with he | he
        · have hreceived := hreads e he
          cases e with
          | read answer => rfl
          | message frame => rfl
          | _ => cases hreceived
        · rcases o with r | _ | _
          · obtain rfl := List.mem_singleton.mp he
            rfl
          · cases he
          · cases he

end XpuManager
