import XpuManager.Amc.FileTransferSteps

/-! # Reading a file in parts

What a successful `pldmMultipartReceiveCommand` has asked for and received, in terms of the
requests and messages in the trace. -/

namespace XpuManager

open Prog

/-! ## Parts -/

/-- A part of a file, as a MultipartReceive response carries it. -/
structure FilePart where
  transferFlag : UInt8
  nextDataTransferHandle : UInt32
  data : Bytes
  deriving DecidableEq

/-- The part a message carries. -/
def filePart (message : Bytes) : FilePart :=
  let resp := message.drop payloadStart
  let r := multipartResp resp
  ⟨r.transferFlag, r.nextDataTransferHandle, (resp.drop 10).take r.dataLengthBytes.toNat⟩

/-- The part an event delivers. -/
def Event.part : Event → Option FilePart
  | .message frame => some (filePart frame)
  | _ => none

/-- The parts received, in order. -/
def partsIn (evs : List Event) : List FilePart := evs.filterMap Event.part

/-- The data of the parts, in order. -/
def partsData (parts : List FilePart) : Bytes := parts.flatMap FilePart.data

/-- The request that follows the parts received so far. -/
def nextRequest (fileDescriptor : UInt16) (parts : List FilePart) : MultipartReceiveReq where
  pldmType := pldmFileTransfer
  transferOperation := if parts.isEmpty then pldmXferFirstPart else pldmXferNextPart
  transferContext := fileDescriptor.toUInt32
  dataTransferHandle := match parts.getLast? with
    | none => 0
    | some last => last.nextDataTransferHandle
  requestedSectionOffset := UInt32.ofNat (partsData parts).length
  requestedSectionLengthBytes := maxReadChunk

/-- Every request asks for what follows the parts received before it. -/
def AsksInOrder (fileDescriptor : UInt16) (evs : List Event) : Prop :=
  ∀ pre bs ok post, evs = pre ++ .write bs ok :: post →
    PartRequest (nextRequest fileDescriptor (partsIn pre)) bs

@[simp] theorem partsIn_append (evs evs' : List Event) :
    partsIn (evs ++ evs') = partsIn evs ++ partsIn evs' := List.filterMap_append

/-- Reads deliver no parts. -/
theorem partsIn_reads {evs : List Event} (h : ∀ e ∈ evs, ∃ answer, e = Event.read answer) :
    partsIn evs = [] := by
  refine List.filterMap_eq_nil_iff.mpr fun e he => ?_
  obtain ⟨answer, rfl⟩ := h e he
  rfl

/-! ## One part -/

/-- The events of one part: the request, the reads, the message and the end of the exchange. -/
def partEvents (bs : Bytes) (reads : List Event) (message : Bytes) (done : Event) : List Event :=
  .write bs true :: (reads ++ [.message message, done])

theorem partsIn_partEvents {bs message : Bytes} {reads : List Event} {a b c d e : UInt8}
    (h : ∀ e ∈ reads, ∃ answer, e = Event.read answer) :
    partsIn (partEvents bs reads message (.exchange a b c d e)) = [filePart message] := by
  have hreads := partsIn_reads h
  rw [partEvents, ← List.singleton_append, partsIn_append, partsIn_append, hreads]
  rfl

theorem countP_partEvents {bs message : Bytes} {reads : List Event} {a b c d e : UInt8}
    (h : ∀ e ∈ reads, ∃ answer, e = Event.read answer) :
    (partEvents bs reads message (.exchange a b c d e)).countP Event.isWrite = 1 := by
  have hreads : reads.countP Event.isWrite = 0 := by
    refine List.countP_eq_zero.mpr fun e he => ?_
    obtain ⟨answer, rfl⟩ := h e he
    simp [Event.isWrite]
  rw [partEvents, List.countP_cons, List.countP_append, hreads]
  rfl

/-- Asking for the next part keeps the order. -/
theorem AsksInOrder.append_part {fileDescriptor : UInt16} {evs reads : List Event}
    {bs message : Bytes} {a b c d e : UInt8} (hasks : AsksInOrder fileDescriptor evs)
    (hrequest : PartRequest (nextRequest fileDescriptor (partsIn evs)) bs)
    (hreads : ∀ e ∈ reads, ∃ answer, e = Event.read answer) :
    AsksInOrder fileDescriptor (evs ++ partEvents bs reads message (.exchange a b c d e)) := by
  intro pre bs' ok post heq
  rcases List.append_eq_append_iff.mp heq with ⟨mid, rfl, hmid⟩ | ⟨mid, rfl, hmid⟩
  · -- the request lies in the new events, so it is their first one
    rcases mid with _ | ⟨e', mid⟩
    · obtain ⟨hwrite, -⟩ := List.cons.inj hmid
      obtain ⟨rfl, -⟩ := Event.write.inj hwrite
      rwa [List.append_nil]
    · obtain ⟨-, htail⟩ := List.cons.inj hmid
      have hmem : Event.write bs' ok ∈ reads ++ [.message message, .exchange a b c d e] := by
        rw [htail]
        simp
      rcases List.mem_append.mp hmem with hmem | hmem
      · obtain ⟨answer, hread⟩ := hreads _ hmem
        cases hread
      · simp at hmem
  · -- the request lies in the old events
    rcases mid with _ | ⟨e', mid⟩
    · rw [List.append_nil] at hrequest
      obtain ⟨hwrite, -⟩ := List.cons.inj hmid
      obtain ⟨rfl, -⟩ := Event.write.inj hwrite
      exact hrequest
    · obtain ⟨rfl, -⟩ := List.cons.inj hmid
      exact hasks pre bs' ok mid rfl

/-- **One part.** A successful exchange asked for the part that the request structure names, and
the message it received carries the part it keeps. -/
theorem multipartCmd_success {fuel : Nat} {s t : Pldm}
    (h : pldmFileTransferCmd fuel pldmMultipartReceive multipartReceiveSize s =
      (.ret pldmSuccess, t)) :
    ∃ bs reads message idBefore idAfter,
      t.trace = s.trace ++ partEvents bs reads message
        (.exchange pldmMessageDiscovery pldmMultipartReceive pldmSuccess idBefore idAfter) ∧
      (∀ e ∈ reads, ∃ answer, e = Event.read answer) ∧
      PartRequest s.ft.mMultipartReceiveReq bs ∧
      t.ft.mMultipartReceiveReq = s.ft.mMultipartReceiveReq ∧
      t.ft.mMultipartReceiveData = s.ft.mMultipartReceiveData ∧
      t.ft.mMultipartReceiveResp = multipartResp (message.drop payloadStart) ∧
      t.ft.mMultipartReceiveResp.completionCode = pldmSuccess ∧
      t.ft.mMultipartReceiveResp.dataLengthBytes ≤ maxReadChunk ∧
      t.ft.readRespData.slice 0 t.ft.mMultipartReceiveResp.dataLengthBytes.toNat =
        (filePart message).data := by
  rw [pldmFileTransferCmd, if_neg (by decide)] at h
  obtain ⟨t', hbody, rfl⟩ := exchange_eq_ret_iff.mp h
  obtain ⟨t₁, t₂, hprep, -, hwrite, hrecv, rfl⟩ := exchangeBody_success hbody
  obtain ⟨⟨f, rfl⟩, hrequest⟩ := ftPrep_multipart hprep
  obtain ⟨u, hrx, hresp⟩ | ⟨hne, -⟩ := chain_eq_ret_iff.mp hrecv
  case inr => exact absurd rfl hne
  have hrun := rxMultiPartData_run fuel
    (Pldm.afterWrite { s.wrapped with mI2cPldmWrite := f } multipartReceiveSize.toNat)
  rw [wp_of_eq hrx] at hrun
  obtain ⟨reads, evs, read, message, payload, hevs, rfl, hmsg⟩ := hrun
  obtain ⟨hlong, rfl, -⟩ := hmsg rfl
  have hne : message.drop payloadStart ≠ [] := by
    rw [Ne, List.drop_eq_nil_iff]
    exact Nat.not_le.mpr hlong
  obtain ⟨rfl, hcode, hmax, hlen⟩ := pldmFileTransferResp_multipart hne hresp
  refine ⟨f.slice 1 30, evs, message, s.instanceID, wrapId s.instanceID + 1, ?_, hevs, hrequest,
    rfl, rfl, rfl, hcode, UInt32.le_iff_toNat_le.mpr hmax, ?_⟩
  · rw [partEvents, if_pos rfl]
    have hok : s.writes.head = true := hwrite
    simp [Pldm.withPart, Pldm.afterWrite, Pldm.wrapped, hok]
    exact ⟨rfl, rfl⟩
  · -- the read buffer starts with the data of the part
    have hdata : ((message.drop payloadStart).drop 10).take
        (multipartResp (message.drop payloadStart)).dataLengthBytes.toNat =
          (filePart message).data := rfl
    have hsize : (filePart message).data.length =
        (multipartResp (message.drop payloadStart)).dataLengthBytes.toNat := by
      rw [← hdata, List.length_take, List.length_drop]
      exact Nat.min_eq_left hlen
    change (s.ft.readRespData.overlay 0 (filePart message).data).slice 0
      (multipartResp (message.drop payloadStart)).dataLengthBytes.toNat = _
    rw [← hsize]
    refine Buf.slice_overlay ?_
    rw [Nat.zero_add, hsize]
    exact hmax

/-! ## The loop -/

/-- What the events so far have asked for and received, as the loop's own data say it. -/
structure PartsReceived (fileDescriptor : UInt16) (s u : Pldm) (evs : List Event) : Prop where
  trace : u.trace = s.trace ++ evs
  asks : AsksInOrder fileDescriptor evs
  answered : evs.countP Event.isWrite = (partsIn evs).length
  data : u.ft.mMultipartReceiveData = partsData (partsIn evs)

/-- The invariant of the loop: the request structure, once offset and length are filled in, asks
for what follows the parts received. -/
def Receiving (fileDescriptor : UInt16) (s : Pldm) (currentOffset : UInt32) (u : Pldm) : Prop :=
  ∃ evs, PartsReceived fileDescriptor s u evs ∧
    { u.ft.mMultipartReceiveReq with
      requestedSectionOffset := currentOffset, requestedSectionLengthBytes := maxReadChunk } =
      nextRequest fileDescriptor (partsIn evs)

/-- The part ends the file: it says so, or it is shorter than what was asked for. -/
def FilePart.EndsFile (part : FilePart) : Prop :=
  part.transferFlag = pldmEnd ∨ part.transferFlag = pldmStartAndEnd ∨
    part.data.length < maxReadChunk.toNat

/-- A file has been received. -/
def FileReceived (fileDescriptor : UInt16) (s u : Pldm) : Prop :=
  ∃ evs, PartsReceived fileDescriptor s u evs ∧
    ∃ last, (partsIn evs).getLast? = some last ∧ last.EndsFile

/-- Adding a part to what has been received. -/
theorem PartsReceived.append_part {fileDescriptor : UInt16} {s u v : Pldm}
    {evs reads : List Event} {bs message : Bytes} {a b c d e : UInt8}
    (h : PartsReceived fileDescriptor s u evs)
    (hrequest : PartRequest (nextRequest fileDescriptor (partsIn evs)) bs)
    (hreads : ∀ e ∈ reads, ∃ answer, e = Event.read answer)
    (htrace : v.trace = u.trace ++ partEvents bs reads message (.exchange a b c d e))
    (hdata : v.ft.mMultipartReceiveData = u.ft.mMultipartReceiveData ++ (filePart message).data) :
    PartsReceived fileDescriptor s v
      (evs ++ partEvents bs reads message (.exchange a b c d e)) where
  trace := by rw [htrace, h.trace, List.append_assoc]
  asks := h.asks.append_part hrequest hreads
  answered := by
    rw [List.countP_append, h.answered, countP_partEvents hreads, partsIn_append,
      partsIn_partEvents hreads, List.length_append]
    rfl
  data := by
    rw [hdata, h.data, partsIn_append, partsIn_partEvents hreads, partsData, partsData,
      List.flatMap_append, List.flatMap_singleton]

/-- The request behind one more part. -/
theorem nextRequest_append (fileDescriptor : UInt16) (parts : List FilePart) (part : FilePart) :
    nextRequest fileDescriptor (parts ++ [part]) =
      { nextRequest fileDescriptor parts with
        transferOperation := pldmXferNextPart
        dataTransferHandle := part.nextDataTransferHandle
        requestedSectionOffset :=
          UInt32.ofNat (partsData parts).length + UInt32.ofNat part.data.length } := by
  have hdata : partsData (parts ++ [part]) = partsData parts ++ part.data := by
    rw [partsData, partsData, List.flatMap_append, List.flatMap_singleton]
  simp [nextRequest, hdata, UInt32.ofNat_add]

/-- What `takePart` does with a part that is not longer than a chunk. -/
theorem takePart_apply {currentOffset : UInt32} {s : Pldm}
    (hlen : s.ft.mMultipartReceiveResp.dataLengthBytes ≤ maxReadChunk)
    (hcode : s.ft.mMultipartReceiveResp.completionCode = pldmSuccess) :
    let r := s.ft.mMultipartReceiveResp
    let ft : FileTransferState := { s.ft with mMultipartReceiveData :=
      s.ft.mMultipartReceiveData ++ s.ft.readRespData.slice 0 r.dataLengthBytes.toNat }
    takePart currentOffset s =
      if r.transferFlag = pldmEnd ∨ r.transferFlag = pldmStartAndEnd
          ∨ r.dataLengthBytes < maxReadChunk then
        (.ret (.inr pldmSuccess), { s with ft })
      else if r.transferFlag ≠ pldmStart ∧ r.transferFlag ≠ pldmMiddle then
        (.ret (.inr pldmError), { s with ft })
      else (.ret (.inl (currentOffset + r.dataLengthBytes)), { s with ft := { ft with
        mMultipartReceiveReq := { ft.mMultipartReceiveReq with
          transferOperation := pldmXferNextPart
          dataTransferHandle := r.nextDataTransferHandle } } }) := by
  intro r ft
  have hstop : (r.completionCode = pldmErrorUnsupportedPldmCmd ∨ r.dataLengthBytes = 0
      ∨ r.transferFlag = pldmEnd ∨ r.transferFlag = pldmStartAndEnd
      ∨ r.dataLengthBytes < maxReadChunk) ↔ (r.transferFlag = pldmEnd
      ∨ r.transferFlag = pldmStartAndEnd ∨ r.dataLengthBytes < maxReadChunk) := by
    have hne : r.completionCode ≠ pldmErrorUnsupportedPldmCmd := by
      rw [show r.completionCode = pldmSuccess from hcode]
      decide
    have hzero : r.dataLengthBytes = 0 → r.dataLengthBytes < maxReadChunk := by
      intro h
      rw [h]
      decide
    constructor
    · rintro (h | h | h)
      · exact absurd h hne
      · exact .inr (.inr (hzero h))
      · exact h
    · exact fun h => .inr (.inr h)
  rw [takePart, get_bind_apply]
  simp only [if_neg (UInt32.not_lt.mpr hlen), modifyFt_bind_apply]
  change (if r.completionCode = pldmErrorUnsupportedPldmCmd ∨ r.dataLengthBytes = 0
      ∨ r.transferFlag = pldmEnd ∨ r.transferFlag = pldmStartAndEnd
      ∨ r.dataLengthBytes < maxReadChunk then _ else _ : Prog Pldm (UInt32 ⊕ UInt8)) _ = _
  simp only [hstop, Prog.ite_apply, pure_apply, modifyFt_bind_apply]
  rfl

/-- **Turn lemma.** A turn that asks for more keeps the invariant; one that ends the loop with
success has received the file. -/
theorem multipartTurn_receives {fuel : Nat} {fileDescriptor : UInt16} {s u : Pldm}
    {currentOffset : UInt32} (h : Receiving fileDescriptor s currentOffset u) :
    wp (multipartTurn fuel currentOffset) (fun o v =>
      (∀ offset, o = .ret (.inl offset) → Receiving fileDescriptor s offset v) ∧
      (o = .ret (.inr pldmSuccess) → FileReceived fileDescriptor s v)) u := by
  obtain ⟨evs, hparts, hreq⟩ := h
  let u' : Pldm := { u with ft := { u.ft with mMultipartReceiveReq :=
    { u.ft.mMultipartReceiveReq with
      requestedSectionOffset := currentOffset, requestedSectionLengthBytes := maxReadChunk } } }
  have hturn : multipartTurn fuel currentOffset u =
      (pldmFileTransferCmd fuel pldmMultipartReceive multipartReceiveSize >>= fun ret =>
        if ret ≠ pldmSuccess then pure (.inr ret) else takePart currentOffset) u' := rfl
  rw [wp, hturn]
  rcases hcmd : pldmFileTransferCmd fuel pldmMultipartReceive multipartReceiveSize u' with
    ⟨r | _ | _, t⟩
  case fault => rw [bind_of_fault hcmd]; exact ⟨by simp, by simp⟩
  case cut => rw [bind_of_cut hcmd]; exact ⟨by simp, by simp⟩
  rw [bind_of_ret hcmd]
  by_cases hr : r = pldmSuccess
  case neg =>
    rw [if_pos hr]
    exact ⟨by simp, fun hc => absurd (Sum.inr.inj (Outcome.ret.inj hc)) hr⟩
  subst hr
  rw [if_neg (by simp)]
  obtain ⟨bs, reads, message, idBefore, idAfter, htrace, hreads, hrequest, hreq', hdata, hresp,
    hcode, hlen, hslice⟩ := multipartCmd_success hcmd
  rw [show u'.ft.mMultipartReceiveReq = nextRequest fileDescriptor (partsIn evs) from hreq]
    at hrequest hreq'
  have hsize : (filePart message).data.length =
      t.ft.mMultipartReceiveResp.dataLengthBytes.toNat := by
    rw [← hslice, Buf.length_slice]
  have hflag : (filePart message).transferFlag = t.ft.mMultipartReceiveResp.transferFlag := by
    rw [hresp]
    rfl
  -- whatever comes next, the part has been received
  have hnew (v : Pldm) (htr : v.trace = t.trace) (hd : v.ft.mMultipartReceiveData =
      t.ft.mMultipartReceiveData ++ t.ft.readRespData.slice 0
        t.ft.mMultipartReceiveResp.dataLengthBytes.toNat) :
      PartsReceived fileDescriptor s v (evs ++ partEvents bs reads message
        (.exchange pldmMessageDiscovery pldmMultipartReceive pldmSuccess idBefore idAfter)) := by
    refine hparts.append_part hrequest hreads (htr.trans htrace) ?_
    rw [hd, hdata, hslice]
  rw [takePart_apply hlen hcode]
  split
  case isTrue hstop =>
    refine ⟨by simp, fun _ => ⟨_, hnew _ rfl rfl, filePart message, ?_, ?_⟩⟩
    · rw [partsIn_append, partsIn_partEvents hreads, List.getLast?_append]
      rfl
    · rw [FilePart.EndsFile, hflag, hsize]
      exact hstop.imp_right (Or.imp_right UInt32.lt_iff_toNat_lt.mp)
  case isFalse hgo =>
  split
  case isTrue => exact ⟨by simp, by simp⟩
  case isFalse =>
    refine ⟨?_, by simp⟩
    rintro offset ho
    obtain rfl : currentOffset + t.ft.mMultipartReceiveResp.dataLengthBytes = offset := by
      simpa using ho
    refine ⟨_, hnew _ rfl rfl, ?_⟩
    have hoff : currentOffset = UInt32.ofNat (partsData (partsIn evs)).length :=
      congrArg MultipartReceiveReq.requestedSectionOffset hreq
    have hhandle : (filePart message).nextDataTransferHandle =
        t.ft.mMultipartReceiveResp.nextDataTransferHandle := by
      rw [hresp]
      rfl
    have hcount : UInt32.ofNat (filePart message).data.length =
        t.ft.mMultipartReceiveResp.dataLengthBytes := by
      rw [hsize, UInt32.ofNat_toNat]
    rw [partsIn_append, partsIn_partEvents hreads, nextRequest_append, hhandle, hcount, ← hoff]
    simp only [hreq']
    rfl

/-- **A file that is reported is whole, as far as the device says.** When
`pldmMultipartReceiveCommand` returns `PLDM_SUCCESS`, every request asked for what follows the
parts received before it and was answered with one part, the file is the data of the parts in
order, and the last part ended the file or was shorter than what was asked for. -/
theorem pldmMultipartReceiveCommand_success {fuel : Nat} {fileDescriptor : UInt16}
    {fileData file : Bytes} {s t : Pldm}
    (h : pldmMultipartReceiveCommand fuel fileDescriptor fileData s =
      (.ret (pldmSuccess, file), t)) :
    ∃ evs, t.trace = s.trace ++ evs ∧ AsksInOrder fileDescriptor evs ∧
      evs.countP Event.isWrite = (partsIn evs).length ∧ file = partsData (partsIn evs) ∧
      ∃ last, (partsIn evs).getLast? = some last ∧ last.EndsFile := by
  rw [pldmMultipartReceiveCommand, modifyFt_bind_apply, bind_eq_ret_iff] at h
  obtain ⟨ret, u, hloop, hend⟩ := h
  have hinv : wp (Prog.loop (multipartTurn fuel) fuel 0)
      (fun o v => o = .ret pldmSuccess → FileReceived fileDescriptor s v) { s with ft :=
        { s.ft with
          mMultipartReceiveReq := ⟨pldmFileTransfer, pldmXferFirstPart, fileDescriptor.toUInt32,
            0, 0, 0⟩
          mMultipartReceiveResp := ⟨0, 0, 0, 0⟩
          mMultipartReceiveData := [] } } := by
    refine loop_induct (I := Receiving fileDescriptor s) ?_ ?_ ?_ ?_ ?_ ?_
    · exact fun _ _ _ hcut => absurd hcut (by simp)
    · intro b v b' v' hv hb
      have := @multipartTurn_receives fuel _ _ _ _ hv
      rw [wp_of_eq hb] at this
      exact this.1 b' rfl
    · intro b v a v' hv hb ha
      have := @multipartTurn_receives fuel _ _ _ _ hv
      rw [wp_of_eq hb] at this
      exact this.2 (by rw [Outcome.ret.inj ha])
    · exact fun _ _ _ _ _ hfault => absurd hfault (by simp)
    · exact fun _ _ _ _ _ hcut => absurd hcut (by simp)
    · refine ⟨[], ⟨(List.append_nil _).symm, ?_, rfl, rfl⟩, rfl⟩
      intro pre bs ok post heq
      simp at heq
  rw [wp_of_eq hloop] at hinv
  rw [get_bind_apply, pure_apply] at hend
  obtain ⟨hret, rfl⟩ := Prod.mk.inj hend
  split at hret
  case isTrue hne =>
    exact absurd (Prod.mk.inj (Outcome.ret.inj hret)).1 hne
  case isFalse hok =>
    obtain ⟨hsucc, rfl⟩ := Prod.mk.inj (Outcome.ret.inj hret)
    obtain ⟨evs, hparts, hlast⟩ := hinv (by rw [hsucc])
    exact ⟨evs, hparts.trace, hparts.asks, hparts.answered, hparts.data, hlast⟩

/-- A packet that carries a part of two bytes. -/
def partPacket (transferFlag : UInt8) : Bytes :=
  [0x0F, 21, 0x41, 0x01, 0x07, 0x00, 0xC8, 0x01, 0x00, 0x00, 0x09, 0x00, transferFlag,
   0, 0, 0, 0, 2, 0, 0, 0, 0xAB, 0xCD]

/-- The reading of a file from a device that answers with such packets. -/
def partRun (transferFlag : UInt8) : Outcome (UInt8 × Bytes) × Pldm :=
  pldmMultipartReceiveCommand 1 5 []
    (Pldm.init (Stream'.const (some (partPacket transferFlag))) (Stream'.const true))

/-- What the answers of a device are made of: the bodies of a message, the first `n` sent already, each
behind the header of a packet. -/
def packetsFrom : Nat → List Bytes → List (Option Bytes)
  | _, [] => []
  | n, body :: bodies =>
    let flags := 8 + 16 * UInt8.ofNat (n % 4) + (if bodies = [] then 64 else 0) +
      if n = 0 then 128 else 0
    let packet := [0x0F, UInt8.ofNat (5 + body.length), 0x41, 0x01, 0x07, 0x00, flags] ++ body
    some packet :: packetsFrom (n + 1) bodies

/-- A part in packets with bodies of 121 bytes. -/
def FilePart.packets (part : FilePart) : List (Option Bytes) :=
  let header := [0x01, 0, 0, 0x09, 0, part.transferFlag]
  let handle := leBytes 4 part.nextDataTransferHandle.toNat
  packetsFrom 0 ((header ++ handle ++ leBytes 4 part.data.length ++ part.data).toChunks 121)

/-- A file in two whole chunks and a rest. -/
def threeParts : List FilePart :=
  [⟨pldmStart, 7, List.replicate 512 0xA1⟩, ⟨pldmMiddle, 9, List.replicate 512 0xB2⟩,
    ⟨pldmEnd, 0, [0xC3, 0xD4]⟩]

/-- A device that sends the three parts, each in its packets. -/
def threePartDevice : Pldm :=
  Pldm.init (threeParts.flatMap FilePart.packets ++ₛ Stream'.const none) (Stream'.const true)

def threePartRun : Outcome (UInt8 × Bytes) × Pldm :=
  pldmMultipartReceiveCommand 8 5 [] threePartDevice

/-- The code that a reading returns. -/
def returnedCode : Outcome (UInt8 × Bytes) → Option UInt8
  | .ret result => some result.1
  | _ => none

theorem exists_of_returnedCode {o : Outcome (UInt8 × Bytes)} {code : UInt8}
    (h : returnedCode o = some code) : ∃ file, o = .ret (code, file) := by
  cases o with
  | ret result =>
    obtain rfl := Option.some.inj h
    exact ⟨result.2, rfl⟩
  | fault => cases h
  | cut => cases h

/-- The file of three parts, of which the second is asked for by the handle 7 and the third by the
handle 9. -/
theorem pldmMultipartReceiveCommand_success_sample :
    threePartRun.1 = .ret (pldmSuccess, partsData threeParts) ∧
      ∃ evs, threePartRun.2.trace = [] ++ evs ∧ AsksInOrder 5 evs ∧
        evs.countP Event.isWrite = (partsIn evs).length ∧ partsIn evs = threeParts ∧
        ∃ last, (partsIn evs).getLast? = some last ∧ last.EndsFile := by
  have hparts : partsIn threePartRun.2.trace = threeParts := by decide +kernel
  have hcode : returnedCode threePartRun.1 = some pldmSuccess := by decide +kernel
  obtain ⟨file, hrun⟩ := exists_of_returnedCode hcode
  have hresult : threePartRun = (.ret (pldmSuccess, file), threePartRun.2) := by rw [← hrun]
  obtain ⟨evs, htrace, hasks, hcount, rfl, hlast⟩ :=
    @pldmMultipartReceiveCommand_success 8 5 [] file threePartDevice threePartRun.2 hresult
  have hevs : partsIn evs = threeParts := by
    rw [← hparts, htrace]
    rfl
  exact ⟨hevs ▸ hrun, evs, htrace, hasks, hcount, hevs, hlast⟩

/-- **A file cut short.** A part that starts a file and announces more is reported as the whole
file when it is shorter than what was asked for. -/
theorem pldmMultipartReceiveCommand_stops_on_start :
    (partRun pldmStart).1 = .ret (pldmSuccess, [0xAB, 0xCD]) ∧
      (partsIn (partRun pldmStart).2.trace).map FilePart.transferFlag = [pldmStart] := by
  constructor
  · decide
  · decide

end XpuManager
