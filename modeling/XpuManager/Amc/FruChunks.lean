import XpuManager.Amc.FruInitialize

/-! # The chunks of the FRU record table

A table response says by its byte count how much of the table it carries. `pldmFruResponse` takes the
headers off it without a check: a frame shorter than its headers counts tens of thousands of bytes,
and one longer than what the bus delivered counts bytes that were never received. -/

namespace XpuManager

open Prog

/-! ## The length of a chunk -/

/-- Behind its headers the length is what the byte count has left. -/
theorem fruDataLength_of_ge {f : Frame} (h : 15 ≤ f.byteCount.toNat) :
    (fruDataLength f).toNat = f.byteCount.toNat - 15 := by
  have hlt := f.byteCount.toNat_lt
  have hheader : fruTableHeaderSize.toNat = 18 := rfl
  rw [fruDataLength, UInt32.toNat_toUInt16, UInt32.toNat_sub, UInt32.toNat_add]
  simp only [UInt8.toNat_toUInt32, UInt32.reduceToNat]
  omega

/-- Before the end of the headers the difference wraps around. -/
theorem fruDataLength_of_lt {f : Frame} (h : f.byteCount.toNat < 15) :
    (fruDataLength f).toNat = 65521 + f.byteCount.toNat := by
  have hheader : fruTableHeaderSize.toNat = 18 := rfl
  rw [fruDataLength, UInt32.toNat_toUInt16, UInt32.toNat_sub, UInt32.toNat_add]
  simp only [UInt8.toNat_toUInt32, UInt32.reduceToNat]
  omega

/-! ## A response -/

/-- The FRU part after a table response that was accepted. -/
def FruState.afterTable (fru : FruState) (f : Frame) : FruState :=
  { fru with
    mFruTableResponse :=
      { completionCode := f.respPayload 0
        nextDataXferHandle := UInt32.ofNat (f.field 1 4)
        xferFlag := f.respPayload 5
        fruTableData := fru.mFruTableResponse.fruTableData.overlay 0
          (f.slice (payloadStart + 6) (fruDataLength f).toNat) }
    mFruCurrentDataLength := fruDataLength f }

/-- The address fields lie before everything else. -/
theorem byte_withDestSlaveAddr {f : Frame} {i : Nat} (h : 0 < i) :
    f.withDestSlaveAddr.byte i = f.byte i :=
  Buf.byte_setByte_of_ne (Nat.ne_of_lt h)

variable {s : Pldm}

/-- A response with another completion code is refused. -/
theorem pldmFruResponse_refused (id : UInt8) (hcode : s.mI2cPldmRead.respPayload 0 ≠ pldmSuccess) :
    ∃ t, pldmFruResponse pldmGetFruRecordTable id s = (.ret pldmError, t) := by
  have hpay := responsePayload_apply s
  rw [if_pos hcode] at hpay
  rw [pldmFruResponse, if_neg (by decide), if_pos rfl, andThen, chain, pldmFruResponsePayload,
    Prog.bind_of_ret hpay]
  exact ⟨_, rfl⟩

/-- Behind the check the chunk is stored, if it lies inside the payload. -/
theorem pldmFruResponse_accepted (id : UInt8) (hcode : s.mI2cPldmRead.respPayload 0 = pldmSuccess) :
    pldmFruResponse pldmGetFruRecordTable id s =
      if 6 + (fruDataLength s.mI2cPldmRead.withDestSlaveAddr).toNat ≤ payloadSize then
        (.ret pldmSuccess, { s with
          mI2cPldmRead := s.mI2cPldmRead.withDestSlaveAddr
          fru := s.fru.afterTable s.mI2cPldmRead.withDestSlaveAddr })
      else (.fault, { s with
        mI2cPldmRead := s.mI2cPldmRead.withDestSlaveAddr
        fru := { s.fru.afterTable s.mI2cPldmRead.withDestSlaveAddr with
          mFruTableResponse := { (s.fru.afterTable s.mI2cPldmRead.withDestSlaveAddr).mFruTableResponse with
            fruTableData := s.fru.mFruTableResponse.fruTableData } } }) := by
  have hpay := responsePayload_apply s
  rw [if_neg (not_not_intro hcode)] at hpay
  rw [pldmFruResponse, if_neg (by decide), if_pos rfl, andThen, chain, pldmFruResponsePayload,
    Prog.bind_of_ret hpay, if_pos rfl, Prog.get_bind_apply]
  simp only [modifyFru, copyFruData, Prog.modify_bind_apply]
  split <;> rfl

/-- The chunk that an accepted response has left. -/
theorem fruChunk_afterTable {t : Pldm} {fru : FruState} {f : Frame} (ht : t.fru = fru.afterTable f)
    (hroom : 6 + (fruDataLength f).toNat ≤ payloadSize) :
    fruChunk t = (.ret (f.slice (payloadStart + 6) (fruDataLength f).toNat), t) := by
  have hsize : payloadSize = 128 := rfl
  have hlen : t.fru.mFruCurrentDataLength = fruDataLength f := by rw [ht]; rfl
  have hdata : t.fru.mFruTableResponse.fruTableData = fru.mFruTableResponse.fruTableData.overlay 0
      (f.slice (payloadStart + 6) (fruDataLength f).toNat) := by rw [ht]; rfl
  have hslice : (fru.mFruTableResponse.fruTableData.overlay 0
      (f.slice (payloadStart + 6) (fruDataLength f).toNat)).slice 0
        (f.slice (payloadStart + 6) (fruDataLength f).toNat).length =
      f.slice (payloadStart + 6) (fruDataLength f).toNat :=
    Buf.slice_overlay (by rw [Buf.length_slice]; omega)
  rw [Buf.length_slice] at hslice
  rw [fruChunk, Prog.get_bind_apply, hlen, hdata, if_pos (by omega), hslice]
  rfl

/-! ## The table bytes of a frame -/

/-- The table bytes in the bytes that a read delivers: behind the headers, to the end that the byte
count gives. -/
def fruTableBytes (bs : Bytes) : Bytes :=
  ((bs.take pldmMaxResponseSize).take ((bs.getD 1 0).toNat + 2)).drop 17

/-- By its byte count the frame ends behind its headers, and not behind the bytes that were
delivered. -/
def CountsDelivered (byteCount : UInt8) (bs : Bytes) : Prop :=
  15 ≤ byteCount.toNat ∧
    (byteCount.toNat = 15 ∨ byteCount.toNat + 2 ≤ (bs.take pldmMaxResponseSize).length)

/-- A byte count that was delivered is that of the frame. -/
theorem byteCount_received {bs : Bytes} (h : 2 ≤ bs.length) (s : Pldm) :
    (s.received bs).byteCount = bs.getD 1 0 := by
  have hlen : 2 ≤ (bs.take pldmMaxResponseSize).length := by
    rw [List.length_take]
    exact Nat.le_min.mpr ⟨by decide, h⟩
  rw [Frame.byteCount, Pldm.received, Buf.byte_overlay_of_mem (by decide) (by omega) (by omega),
    List.getD_eq_getElem _ _ (show 2 - 1 < _ by omega), List.getElem_take,
    List.getD_eq_getElem _ _ (show 1 < _ by omega)]

theorem length_fruTableBytes (s : Pldm) (bs : Bytes) : (fruTableBytes bs).length =
    min ((s.received bs).byteCount.toNat + 2) (bs.take pldmMaxResponseSize).length - 17 := by
  rw [fruTableBytes, List.length_drop, List.length_take]
  by_cases h : 2 ≤ bs.length
  · rw [byteCount_received h]
  · have hle := List.length_take_le' pldmMaxResponseSize bs
    omega

/-- The bytes that were delivered into the frame. -/
theorem slice_received {bs : Bytes} {k : Nat} (s : Pldm)
    (h : 17 + k ≤ (bs.take pldmMaxResponseSize).length) :
    (s.received bs).slice (payloadStart + 6) k = ((bs.take pldmMaxResponseSize).drop 17).take k := by
  have hle := List.length_take_le pldmMaxResponseSize bs
  have hmax : pldmMaxResponseSize = 128 := rfl
  have hframe : frameSize = 140 := rfl
  have hdelivered : (s.received bs).slice 1 (bs.take pldmMaxResponseSize).length =
      bs.take pldmMaxResponseSize := Buf.slice_overlay (by omega)
  have hpart : ((((s.received bs).slice 1 (bs.take pldmMaxResponseSize).length).drop 17).take k) =
      (s.received bs).slice (1 + 17) k := Buf.take_drop_slice h
  rw [hdelivered] at hpart
  exact hpart.symm

/-- A frame of such a length carries as many table bytes as it counts, and they are what is copied. -/
theorem slice_of_countsDelivered {bs : Bytes} (h : CountsDelivered (s.received bs).byteCount bs) :
    (s.received bs).slice (payloadStart + 6) (fruDataLength (s.received bs)).toNat =
      fruTableBytes bs := by
  obtain ⟨hge, hend⟩ := h
  have hlen := length_fruTableBytes s bs
  rw [fruDataLength_of_ge hge]
  rcases hend with hend | hend
  · rw [List.eq_nil_of_length_eq_zero (l := fruTableBytes bs) (by omega), hend]
    rfl
  · have hdelivered : 2 ≤ bs.length := by
      have hle := List.length_take_le' pldmMaxResponseSize bs
      omega
    rw [slice_received s (by omega), fruTableBytes, ← byteCount_received hdelivered s,
      show (s.received bs).byteCount.toNat - 15 = (s.received bs).byteCount.toNat + 2 - 17 by omega]
    exact List.drop_take.symm

/-! ## Which chunks are the table bytes -/

/-- The response takes the frame `bs`: if it is accepted, the length it stores is the number of table
bytes in the frame, and the chunk is those bytes. -/
def StoresTableBytes (s : Pldm) (id : UInt8) (bs : Bytes) : Prop :=
  ∃ ret t, pldmFruResponse pldmGetFruRecordTable id (s.afterRead bs) = (.ret ret, t) ∧
    (ret = pldmSuccess →
      t.fru.mFruCurrentDataLength.toNat = (fruTableBytes bs).length ∧
      t.fru.mFruCurrentDataLength.toNat ≤ 122 ∧
      fruChunk t = (.ret (fruTableBytes bs), t))

theorem fruDataLength_withDestSlaveAddr (f : Frame) :
    fruDataLength f.withDestSlaveAddr = fruDataLength f := by
  rw [fruDataLength, Frame.byteCount, byte_withDestSlaveAddr Nat.two_pos]
  rfl

theorem slice_withDestSlaveAddr (f : Frame) (k : Nat) :
    f.withDestSlaveAddr.slice (payloadStart + 6) k = f.slice (payloadStart + 6) k :=
  Buf.slice_congr fun j _ => byte_withDestSlaveAddr (by omega)

/-- **Which responses store the table bytes they carry.** -/
theorem storesTableBytes_iff (s : Pldm) (id : UInt8) (bs : Bytes) : StoresTableBytes s id bs ↔
    (s.received bs).respPayload 0 ≠ pldmSuccess ∨ CountsDelivered (s.received bs).byteCount bs := by
  have hsize : payloadSize = 128 := rfl
  have hmax : pldmMaxResponseSize = 128 := rfl
  have hle := List.length_take_le pldmMaxResponseSize bs
  have hlen := length_fruTableBytes s bs
  by_cases hcode : (s.received bs).respPayload 0 = pldmSuccess
  case neg =>
    obtain ⟨t, ht⟩ := pldmFruResponse_refused id (s := s.afterRead bs) hcode
    exact iff_of_true ⟨_, _, ht, fun h => absurd h (by decide)⟩ (.inl hcode)
  case pos =>
    have hrun := pldmFruResponse_accepted id (s := s.afterRead bs) hcode
    rw [fruDataLength_withDestSlaveAddr, show (s.afterRead bs).mI2cPldmRead = s.received bs from rfl]
      at hrun
    constructor
    · rintro ⟨ret, t, hret, hstored⟩
      rw [hret] at hrun
      split at hrun
      case isFalse => cases hrun
      case isTrue hroom =>
        obtain ⟨hsuccess, rfl⟩ := Prod.mk.inj hrun
        obtain ⟨hcount, -⟩ := hstored (Outcome.ret.inj hsuccess)
        have hcount' : (fruDataLength (s.received bs).withDestSlaveAddr).toNat =
            (fruTableBytes bs).length := hcount
        rw [fruDataLength_withDestSlaveAddr] at hcount'
        have hge : 15 ≤ (s.received bs).byteCount.toNat := by
          by_contra hlt
          rw [fruDataLength_of_lt (Nat.not_le.mp hlt)] at hroom
          omega
        rw [fruDataLength_of_ge hge] at hcount'
        exact .inr ⟨hge, by omega⟩
    · rintro (hne | hcounts)
      · exact absurd hcode hne
      · have hslice := slice_of_countsDelivered hcounts
        obtain ⟨hge, hend⟩ := hcounts
        have hlength := fruDataLength_of_ge hge
        have hroom : 6 + (fruDataLength (s.received bs)).toNat ≤ payloadSize := by omega
        rw [if_pos hroom] at hrun
        refine ⟨_, _, hrun, fun _ => ?_⟩
        have hstored : (fruDataLength (s.received bs).withDestSlaveAddr).toNat =
            (fruDataLength (s.received bs)).toNat := by rw [fruDataLength_withDestSlaveAddr]
        refine ⟨hstored.trans (by omega), Nat.le_trans (Nat.le_of_eq hstored) (by omega), ?_⟩
        rw [fruChunk_afterTable rfl (by rwa [hstored]), slice_withDestSlaveAddr, hstored, hslice]

/-! ## The loop -/

/-- **A command that succeeded.** The next answer of the bus was a response that was accepted. -/
theorem pldmFruCommand_success {cmd size : UInt8} {t : Pldm}
    (h : pldmFruCommand cmd size s = (.ret pldmSuccess, t)) : ∃ u id bs v,
      u.reads = s.reads ∧ s.reads.head = some bs ∧
      pldmFruResponse cmd id (Pldm.afterRead u bs) = (.ret pldmSuccess, v) ∧
      t.fru = v.fru ∧ t.reads = v.reads := by
  obtain ⟨t', hbody, rfl⟩ := exchange_eq_ret_iff.mp h
  obtain ⟨t₁, t₂, hprep, -, -, hrecv, rfl⟩ := exchangeBody_success hbody
  obtain ⟨bs, hhead, hresp⟩ := receiveThen_success hrecv
  -- building the request takes nothing from the bus
  have hreads : t₁.reads = s.reads := by
    have hfills := @fills_headersThen pldmFru cmd size s.wrapped.instanceID _
      (within_orError (onlyPayload_pldmFruFillPayload cmd size)) s.wrapped
    rw [hprep] at hfills
    exact hfills.reads
  exact ⟨t₁.afterWrite size.toNat, _, bs, t₂, hreads, hreads ▸ hhead, hresp, rfl, rfl⟩

/-- The frame carries its byte count, and ends where that says. -/
def WholeFrame (bs : Bytes) : Prop := 2 ≤ bs.length ∧ CountsDelivered (bs.getD 1 0) bs

/-- **A turn of the loop** that goes on or leaves with data has taken an answer of the bus and appended
its chunk. -/
theorem fruFetchTurn_ret {b : FruLocals} {o : FruLocals ⊕ Option Bytes} {t : Pldm}
    (h : fruFetchTurn b s = (.ret o, t)) (hdata : o ≠ .inr none) :
    ∃ bs chunk, s.reads = Stream'.cons (some bs) t.reads ∧ (WholeFrame bs → chunk = fruTableBytes bs) ∧
      (o = .inr (some (b.completeFruData ++ chunk)) ∨
        ∃ handle, o = .inl ⟨handle, pldmGetNextPart, b.completeFruData ++ chunk⟩) := by
  obtain ⟨ret, t', hget, hrest⟩ := Prog.bind_eq_ret_iff.mp h
  by_cases hret : ret = pldmSuccess
  case neg =>
    rw [if_pos hret] at hrest
    obtain ⟨ho, -⟩ := Prod.mk.inj hrest
    exact absurd (Outcome.ret.inj ho).symm hdata
  case pos =>
    subst hret
    rw [if_neg (not_not_intro rfl)] at hrest
    rw [getFruRecordTable, modifyFru, Prog.modify_bind_apply, orError_eq_success_iff] at hget
    obtain ⟨u, id, bs, v, hreads, hhead, hresp, hfru, hleft⟩ := pldmFruCommand_success hget
    obtain ⟨chunk, t'', hchunk, hturn⟩ := Prog.bind_eq_ret_iff.mp hrest
    have hstored := pldmFruResponse_accepted id (pldmFruResponse_success hresp)
    rw [hresp] at hstored
    split at hstored
    case isFalse => cases hstored
    case isTrue hroom =>
      obtain ⟨-, rfl⟩ := Prod.mk.inj hstored
      rw [fruChunk_afterTable hfru hroom] at hchunk
      obtain ⟨hbytes, rfl⟩ := Prod.mk.inj hchunk
      obtain ⟨ho, rfl⟩ := Prod.mk.inj hturn
      refine ⟨bs, chunk, ?_, fun hwhole => ?_, ?_⟩
      · have hnext : s.reads.tail = t'.reads := (congrArg Stream'.tail hreads).symm.trans hleft.symm
        rw [← hnext, ← hhead]
        exact (Stream'.eta _).symm
      · have hslice := slice_of_countsDelivered (s := u)
          (by rw [byteCount_received hwhole.1]; exact hwhole.2)
        rw [← Outcome.ret.inj hbytes, fruDataLength_withDestSlaveAddr, slice_withDestSlaveAddr]
        exact hslice
      · rw [← Outcome.ret.inj ho]
        split
        · exact .inl rfl
        · exact .inr ⟨_, rfl⟩

/-- What the loop may leave with: one chunk more for each answer of the bus. -/
theorem loop_fruFetchTurn_ret {k : Nat} {b : FruLocals} {data : Bytes} {t : Pldm}
    (h : Prog.loop fruFetchTurn k b s = (.ret (some data), t)) : ∃ answers : List Bytes,
      s.reads = answers.map some ++ₛ t.reads ∧ ((∀ bs ∈ answers, WholeFrame bs) →
        data = b.completeFruData ++ answers.flatMap fruTableBytes) := by
  induction k generalizing b s with
  | zero => cases h
  | succ k ih =>
    obtain ⟨o, u, hturn, hrest⟩ := Prog.bind_eq_ret_iff.mp h
    have hdata : o ≠ .inr none := by
      rintro rfl
      cases hrest
    obtain ⟨bs, chunk, hreads, hchunk, ho⟩ := fruFetchTurn_ret hturn hdata
    rcases ho with rfl | ⟨handle, rfl⟩
    · obtain ⟨hleft, rfl⟩ := Prod.mk.inj hrest
      refine ⟨[bs], hreads, fun hwhole => ?_⟩
      have hleft' : b.completeFruData ++ chunk = data := Option.some.inj (Outcome.ret.inj hleft)
      rw [← hleft', hchunk (hwhole bs List.mem_cons_self), List.flatMap_singleton]
    · obtain ⟨answers, hanswers, happended⟩ := ih hrest
      refine ⟨bs :: answers, ?_, fun hwhole => ?_⟩
      · rw [hreads, hanswers]
        rfl
      · rw [happended fun bs' h => hwhole bs' (List.mem_cons_of_mem _ h),
          hchunk (hwhole bs List.mem_cons_self), List.flatMap_cons, List.append_assoc]

/-- **The chunks of the table.** A response stores the table bytes it carries if and only if it is
refused or ends, by its byte count, behind its headers and within the bytes that the bus delivered;
and what the loop has put together from such frames is their table bytes, one after the other. -/
theorem fruChunks_iff (s : Pldm) :
    (∀ (id : UInt8) (bs : Bytes), StoresTableBytes s id bs ↔
      (s.received bs).respPayload 0 ≠ pldmSuccess ∨
        CountsDelivered (s.received bs).byteCount bs) ∧
    ∀ (fuel : Nat) (t : Pldm) (data : Bytes),
      Prog.loop fruFetchTurn fuel ⟨0, pldmGetFirstPart, []⟩ s = (.ret (some data), t) →
        ∃ answers : List Bytes, s.reads = answers.map some ++ₛ t.reads ∧
          ((∀ bs ∈ answers, WholeFrame bs) → data = answers.flatMap fruTableBytes) :=
  ⟨storesTableBytes_iff s, fun _ _ _ => loop_fruFetchTurn_ret⟩

/-- A device whose whole table is the byte 7. -/
def oneByteTable : Pldm :=
  Pldm.init (Stream'.cons (some ([15, 16] ++ List.replicate 14 0 ++ [pldmStartAndEnd, 7]))
    (Stream'.const none)) (Stream'.const true)

theorem fruChunks_oneByteTable : ∃ answers : List Bytes,
    oneByteTable.reads = answers.map some ++ₛ
      (Prog.loop fruFetchTurn 1 ⟨0, pldmGetFirstPart, []⟩ oneByteTable).2.reads ∧
    ((∀ bs ∈ answers, WholeFrame bs) → [7] = answers.flatMap fruTableBytes) :=
  (fruChunks_iff oneByteTable).2 1 _ [7] (Prog.eq_of_fst_eq (by decide))

/-- A response of 14 bytes, one fewer than the headers have. -/
theorem pldmFruResponse_underflows :
    ¬StoresTableBytes default 0 (15 :: 14 :: List.replicate 126 0) := by
  rw [storesTableBytes_iff]
  rintro (hcode | ⟨hge, -⟩)
  · exact hcode (by decide +kernel)
  · exact absurd hge (by decide +kernel)

end XpuManager
