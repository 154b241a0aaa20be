import XpuManager.Amc.FwUpdateSteps

/-! # The answers of the data phase

What `respondtoamc` and `writeToAMCCompXfer` put on the bus, byte for byte, whatever earlier
messages left in the write frame. -/

namespace XpuManager

open Prog

/-! ## Responses -/

/-- The state after a response `f` of `len` bytes went out, `evs` having happened before it. -/
def Pldm.afterResponse (s : Pldm) (f : Frame) (len : Nat) (evs : List Event) : Pldm :=
  { s with mI2cPldmWrite := f
           writes := s.writes.tail
           trace := s.trace ++ (evs ++ [.write (f.slice 1 len) s.writes.head]) }

/-- `f` is a response to the message in the read frame of `s`. -/
abbrev ResponseTo (s : Pldm) (f : Frame) : Prop :=
  MessageHeader pldmFirmwareUpdate s.mI2cPldmRead.cmdCode s.mI2cPldmRead.instanceID pldmResponse f

theorem Frame.instanceID_le (f : Frame) : f.instanceID ≤ pldmInstanceIdMax := by
  rw [UInt8.le_iff_toNat_le, Frame.instanceID, UInt8.toNat_mod]
  exact Nat.le_of_lt (Nat.mod_lt _ (by decide))

theorem responseHeaders_returns (totalLen : UInt8) (s : Pldm) :
    ∃ f, responseHeaders totalLen s = (.ret (), { s with mI2cPldmWrite := f }) ∧
      ResponseTo s f := by
  obtain ⟨t, ht, hdr⟩ := messageHeaders_returns pldmFirmwareUpdate s.mI2cPldmRead.cmdCode totalLen
    s.mI2cPldmRead.instanceID pldmResponse s s.mI2cPldmRead.instanceID_le (by decide)
  obtain ⟨f, hf⟩ := onlyFrame_messageHeaders pldmFirmwareUpdate s.mI2cPldmRead.cmdCode totalLen
    s.mI2cPldmRead.instanceID pldmResponse s
  rw [ht] at hf
  subst hf
  refine ⟨f, ?_, hdr⟩
  rw [responseHeaders, get_bind_apply, bind_of_ret ht, pure_apply]

/-- Sending the response that stands in the write frame. -/
theorem sendRequest_response {s : Pldm} {f : Frame} {totalLen : UInt8} {evs : List Event}
    (hlen : totalLen.toNat < frameSize) :
    sendRequest (fun _ => totalLen) { s with mI2cPldmWrite := f, trace := s.trace ++ evs } =
      (.ret (if s.writes.head then pldmSuccess else pldmError),
        s.afterResponse f totalLen.toNat evs) := by
  rw [sendRequest_apply, if_pos hlen]
  simp [Pldm.afterWrite, Pldm.afterResponse]

/-- **An acknowledgement.** One write: the completion code and the CRC after the header of the
message being answered. -/
theorem respondtoamc_spec (code : UInt8) (s : Pldm) :
    ∃ f crc, respondtoamc code s =
        (.ret (if s.writes.head then pldmSuccess else pldmError), s.afterResponse f 13 []) ∧
      ResponseTo s f ∧ wirePayload (f.slice 1 13) = [code, crc] := by
  obtain ⟨f₀, hhdr, hdr⟩ := responseHeaders_returns (fwuCommandBaseSize + 1) s
  let f₁ := f₀.overlay (payloadStart + 0) [code]
  let crc := crc8Smbus (f₁.slice payloadStart 12)
  let f₂ := f₁.overlay (payloadStart + 1) [crc]
  have hset : payloadSet 0 code { s with mI2cPldmWrite := f₀ } =
      (.ret (), { s with mI2cPldmWrite := f₁ }) :=
    payloadCopy_returns (Nat.le_of_lt (show 1 < payloadSize by decide)) _
  have hcrc : payloadSetCrc 1 ((fwuCommandBaseSize + 1).toNat - 1) { s with mI2cPldmWrite := f₁ } =
      (.ret (), { s with mI2cPldmWrite := f₂ }) :=
    payloadSetCrc_returns (by decide) (by decide) (by decide) _
  have hsend := @sendRequest_response s f₂ (fwuCommandBaseSize + 1) [] (by decide)
  rw [List.append_nil] at hsend
  refine ⟨f₂, crc, ?_, hdr.overlay.overlay, ?_⟩
  · rw [respondtoamc, bind_of_ret hhdr, bind_of_ret hset, bind_of_ret hcrc]
    exact hsend
  · rw [wirePayload_slice f₂ 2]
    have h₀ : f₂.byte 12 = code := by
      rw [Buf.byte_overlay_of_lt (by decide), Buf.byte_overlay_of_mem (by decide) (by decide)
        (by simp)]
      rfl
    have h₁ : f₂.byte 13 = crc := by
      rw [Buf.byte_overlay_of_mem (by decide) (by decide) (by simp)]
      rfl
    change [f₂.byte 12, f₂.byte 13] = _
    rw [h₀, h₁]

/-! ## Firmware data -/

/-- The number of bytes `writeToAMCCompXfer` reads for a request. -/
def xferCount (comp : CompImageInfo) (offset len : UInt32) : Nat :=
  if offset + len ≤ comp.compSize then len.toNat else (comp.compSize - offset).toNat

/-- The file position it reads from; the sum is 32 bits wide. -/
def xferPos (comp : CompImageInfo) (offset : UInt32) : Nat := (comp.compLocOffset + offset).toNat

/-- The bytes the read delivers. -/
def xferGot (file : Bytes) (comp : CompImageInfo) (offset len : UInt32) : Bytes :=
  (file.drop (xferPos comp offset)).take (xferCount comp offset len)

/-- The data sent: the bytes read, padded with zeros to the length asked for. -/
def xferData (file : Bytes) (comp : CompImageInfo) (offset len : UInt32) : Bytes :=
  xferGot file comp offset len ++
    List.replicate (len.toNat - (xferGot file comp offset len).length) 0

/-- A request inside the component is never read past its own length. -/
theorem xferCount_le {comp : CompImageInfo} {offset len : UInt32} (hoff : offset < comp.compSize)
    (hlen : len ≤ pldmMctpMaxTransferSize) : xferCount comp offset len ≤ len.toNat := by
  unfold xferCount
  split
  case isTrue => exact Nat.le_refl _
  case isFalse h =>
    have hlen' : len.toNat ≤ 32 := UInt32.le_iff_toNat_le.mp hlen
    have hoff' : offset.toNat < comp.compSize.toNat := UInt32.lt_iff_toNat_lt.mp hoff
    have hsum : comp.compSize.toNat < (offset.toNat + len.toNat) % 2 ^ 32 := by
      have := UInt32.lt_iff_toNat_lt.mp (UInt32.not_le.mp h)
      rwa [UInt32.toNat_add] at this
    rw [UInt32.toNat_sub_of_le _ _ (UInt32.le_iff_toNat_le.mpr (Nat.le_of_lt hoff'))]
    have := comp.compSize.toNat_lt
    omega

theorem length_xferGot_le (file : Bytes) (comp : CompImageInfo) (offset len : UInt32) :
    (xferGot file comp offset len).length ≤ xferCount comp offset len :=
  List.length_take_le _ _

theorem length_xferData {file : Bytes} {comp : CompImageInfo} {offset len : UInt32}
    (hoff : offset < comp.compSize) (hlen : len ≤ pldmMctpMaxTransferSize) :
    (xferData file comp offset len).length = len.toNat := by
  have h₁ := length_xferGot_le file comp offset len
  have h₂ := xferCount_le hoff hlen
  rw [xferData, List.length_append, List.length_replicate]
  omega

/-- `fread` into the zeroed buffer, cut to the count asked for. -/
theorem freadComp_returns {pos n : Nat} (hn : n ≤ pldmFwupdateMaxPayloadSize) (s : Pldm) :
    freadComp pos n s = (.ret ((s.fw.compFile.drop pos).take n ++
        List.replicate (pldmFwupdateMaxPayloadSize - ((s.fw.compFile.drop pos).take n).length) 0),
      { s with trace := s.trace ++ [.fread pos n ((s.fw.compFile.drop pos).take n)] }) := by
  rw [freadComp, get_bind_apply, if_pos hn]
  rfl

/-- Cutting the zero-padded buffer to `n` bytes pads the bytes read to `n`. -/
theorem take_padded {got : Bytes} {n m : Nat} (hgot : got.length ≤ n) (hn : n ≤ m) :
    (got ++ List.replicate (m - got.length) 0).take n = got ++ List.replicate (n - got.length) 0 := by
  rw [List.take_append, List.take_of_length_le hgot, List.take_replicate]
  congr 2
  omega

/-- Zero padding does not change the bytes read with a default of zero. -/
theorem getD_padded (got : Bytes) (m k : Nat) :
    (got ++ List.replicate m 0).getD k 0 = got.getD k 0 := by
  by_cases hk : k < got.length
  · rw [List.getD_append _ _ _ _ hk]
  · rw [List.getD_append_right _ _ _ _ (Nat.not_lt.mp hk),
      List.getD_eq_default _ _ (Nat.not_lt.mp hk)]
    simp

/-- What `writeToAMCCompXfer` copies behind the completion code: the bytes read, padded with zeros
to the count read for. -/
def xferChunk (file : Bytes) (comp : CompImageInfo) (offset len : UInt32) : Bytes :=
  xferGot file comp offset len ++
    List.replicate (xferCount comp offset len - (xferGot file comp offset len).length) 0

theorem length_xferChunk (file : Bytes) (comp : CompImageInfo) (offset len : UInt32) :
    (xferChunk file comp offset len).length = xferCount comp offset len := by
  rw [xferChunk, List.length_append, List.length_replicate]
  exact Nat.add_sub_of_le (length_xferGot_le file comp offset len)

/-- The chunk and the data agree: behind both stand zeros. -/
theorem getD_xferChunk (file : Bytes) (comp : CompImageInfo) (offset len : UInt32) (k : Nat) :
    (xferChunk file comp offset len).getD k 0 = (xferData file comp offset len).getD k 0 := by
  rw [xferChunk, xferData, getD_padded, getD_padded]

/-- The event of the read for a request. -/
def xferRead (file : Bytes) (comp : CompImageInfo) (offset len : UInt32) : Event :=
  .fread (xferPos comp offset) (xferCount comp offset len) (xferGot file comp offset len)

/-- The read for a request, cut to its count. -/
theorem freadComp_chunk {comp : CompImageInfo} {offset len : UInt32} (hoff : offset < comp.compSize)
    (hlen : len ≤ pldmMctpMaxTransferSize) (s : Pldm) :
    ∃ buf, freadComp (xferPos comp offset) (xferCount comp offset len) s =
        (.ret buf, { s with trace := s.trace ++ [xferRead s.fw.compFile comp offset len] }) ∧
      buf.take (xferCount comp offset len) = xferChunk s.fw.compFile comp offset len := by
  have hlen' : len.toNat ≤ 32 := UInt32.le_iff_toNat_le.mp hlen
  have hn : xferCount comp offset len ≤ pldmFwupdateMaxPayloadSize :=
    Nat.le_trans (Nat.le_trans (xferCount_le hoff hlen) hlen') (by decide)
  exact ⟨_, freadComp_returns hn s, take_padded (length_xferGot_le _ _ _ _) hn⟩

/-- The copy of a chunk behind the completion code. -/
theorem payloadCopy_chunk {comp : CompImageInfo} {offset len : UInt32}
    (hoff : offset < comp.compSize) (hlen : len ≤ pldmMctpMaxTransferSize) (file : Bytes) (s : Pldm) :
    payloadCopy 1 (xferChunk file comp offset len) s =
      (.ret (), { s with mI2cPldmWrite :=
        s.mI2cPldmWrite.overlay (payloadStart + 1) (xferChunk file comp offset len) }) := by
  have hlen' : len.toNat ≤ 32 := UInt32.le_iff_toNat_le.mp hlen
  refine payloadCopy_returns ?_ s
  rw [length_xferChunk]
  exact Nat.le_trans (Nat.add_le_add_left (Nat.le_trans (xferCount_le hoff hlen) hlen') 1) (by decide)

/-- **The copy of firmware data.** Whatever the write frame held, the bytes behind the completion
code become the data. -/
theorem copyCompData_returns {comp : CompImageInfo} {offset len : UInt32} (s : Pldm) (f₀ : Frame)
    (hoff : offset < comp.compSize) (hlen : len ≤ pldmMctpMaxTransferSize) :
    ∃ f, copyCompData comp offset len { s with mI2cPldmWrite := f₀ } =
        (.ret (), { s with mI2cPldmWrite := f
                           trace := s.trace ++ [xferRead s.fw.compFile comp offset len] }) ∧
      (∀ i < payloadStart, f.byte i = f₀.byte i) ∧
      ∀ k < len.toNat, f.byte (13 + k) = (xferData s.fw.compFile comp offset len).getD k 0 := by
  have hlen' : len.toNat ≤ 32 := UInt32.le_iff_toNat_le.mp hlen
  have hcount := xferCount_le hoff hlen
  have hchunk := length_xferChunk s.fw.compFile comp offset len
  -- the chunk covers the first `xferCount` bytes behind the completion code
  have hin (g : Frame) {k : Nat} (hk : k < xferCount comp offset len) :
      (g.overlay (payloadStart + 1) (xferChunk s.fw.compFile comp offset len)).byte (13 + k) =
        (xferData s.fw.compFile comp offset len).getD k 0 := by
    rw [Buf.byte_overlay_of_mem (show 13 + k < 140 by omega) (show 13 ≤ 13 + k by omega)
      (show 13 + k < 13 + _ by omega), ← getD_xferChunk]
    exact congrArg (List.getD _ · 0) (Nat.add_sub_cancel_left 13 k)
  by_cases h : offset + len ≤ comp.compSize
  · have hn : xferCount comp offset len = len.toNat := if_pos h
    obtain ⟨buf, hread, hbuf⟩ := freadComp_chunk hoff hlen { s with mI2cPldmWrite := f₀ }
    refine ⟨f₀.overlay (payloadStart + 1) (xferChunk s.fw.compFile comp offset len), ?_,
      fun i hi => Buf.byte_overlay_of_lt (Nat.lt_succ_of_lt hi), fun k hk => hin f₀ (by omega)⟩
    rw [copyCompData, if_pos h, ← hn]
    refine (bind_of_ret hread).trans ?_
    rw [hbuf]
    exact payloadCopy_chunk hoff hlen _ _
  · have hn : xferCount comp offset len = (comp.compSize - offset).toNat := if_neg h
    let f₁ := f₀.overlay (payloadStart + 0) (List.replicate payloadSize 0)
    have hzero : payloadZero payloadSize { s with mI2cPldmWrite := f₀ } =
        (.ret (), { s with mI2cPldmWrite := f₁ }) := payloadCopy_returns (by simp) _
    obtain ⟨buf, hread, hbuf⟩ := freadComp_chunk hoff hlen { s with mI2cPldmWrite := f₁ }
    refine ⟨f₁.overlay (payloadStart + 1) (xferChunk s.fw.compFile comp offset len), ?_,
      fun i hi => ?_, fun k hk => ?_⟩
    · rw [copyCompData, if_neg h, bind_of_ret hzero, ← hn]
      refine (bind_of_ret hread).trans ?_
      rw [hbuf]
      exact payloadCopy_chunk hoff hlen _ _
    · rw [Buf.byte_overlay_of_lt (Nat.lt_succ_of_lt hi), Buf.byte_overlay_of_lt hi]
    · by_cases hkn : k < xferCount comp offset len
      · exact hin f₁ hkn
      · -- behind the bytes read the frame holds the zeros of the padding
        have hlong := Nat.le_trans (length_xferGot_le s.fw.compFile comp offset len)
          (Nat.not_lt.mp hkn)
        rw [Buf.byte_overlay_of_ge (show 13 + _ ≤ 13 + k by omega),
          Buf.byte_overlay_of_mem (show 13 + k < 140 by omega) (Nat.le_of_lt (show 12 < 13 + k by omega))
            (by rw [List.length_replicate]; exact show 13 + k < 12 + 0 + 128 by omega),
          xferData, getD_padded, List.getD_eq_default _ _ hlong]
        simp

/-- `totalLen` of a firmware-data response. -/
theorem toNat_xferLen {len : UInt32} (hlen : len ≤ pldmMctpMaxTransferSize) :
    (9 + 3 + 1 + len.toUInt8 : UInt8).toNat = 13 + len.toNat := by
  have hlen' : len.toNat ≤ 32 := UInt32.le_iff_toNat_le.mp hlen
  simp only [UInt8.toNat_add, UInt32.toNat_toUInt8, UInt8.reduceToNat]
  omega

/-- **A firmware-data response.** For a request inside the component one read from the file and one
write: the completion code, the data and the byte behind it, which the CRC does not reach. -/
theorem writeToAMCCompXfer_spec {comp : CompImageInfo} {offset len : UInt32} {s : Pldm}
    (code : UInt8) (hcomp : curComp s = (.ret comp, s)) (hoff : offset < comp.compSize)
    (hlen : len ≤ pldmMctpMaxTransferSize) :
    ∃ f pec, writeToAMCCompXfer offset len code s =
        (.ret (if s.writes.head then pldmSuccess else pldmError),
          s.afterResponse f (13 + len.toNat) [xferRead s.fw.compFile comp offset len]) ∧
      ResponseTo s f ∧
      wirePayload (f.slice 1 (13 + len.toNat)) =
        code :: xferData s.fw.compFile comp offset len ++ [pec] := by
  have hlen' : len.toNat ≤ 32 := UInt32.le_iff_toNat_le.mp hlen
  have htotal := toNat_xferLen hlen
  obtain ⟨f₀, hhdr, hdr⟩ := responseHeaders_returns (9 + 3 + 1 + len.toUInt8) s
  obtain ⟨f₁, hcopy, hkeep, hdata⟩ := copyCompData_returns s f₀ hoff hlen
  let evs := [xferRead s.fw.compFile comp offset len]
  let f₂ := f₁.overlay (payloadStart + 0) [code]
  let crc := crc8Smbus (f₂.slice payloadStart (12 + len.toNat))
  let f₃ := f₂.overlay (payloadStart + (13 + len.toNat)) [crc]
  have hset : payloadSet 0 code { s with mI2cPldmWrite := f₁, trace := s.trace ++ evs } =
      (.ret (), { s with mI2cPldmWrite := f₂, trace := s.trace ++ evs }) :=
    payloadCopy_returns (Nat.le_of_lt (show 1 < payloadSize by decide)) _
  have hcrc : payloadSetCrc (9 + 3 + 1 + len.toUInt8 : UInt8).toNat
      ((9 + 3 + 1 + len.toUInt8 : UInt8).toNat - 1)
      { s with mI2cPldmWrite := f₂, trace := s.trace ++ evs } =
      (.ret (), { s with mI2cPldmWrite := f₃, trace := s.trace ++ evs }) := by
    rw [htotal, payloadSetCrc_returns (show 13 + len.toNat < 128 by omega) (by omega)
      (show ((13 + len.toNat : Nat) : Int) - 1 ≤ (128 : Nat) by omega),
      show (((13 + len.toNat : Nat) : Int) - 1).toNat = 12 + len.toNat by omega]
    rfl
  have hsend := @sendRequest_response s f₃ (9 + 3 + 1 + len.toUInt8) evs
    (by rw [htotal]; exact show 13 + len.toNat < 140 by omega)
  rw [htotal] at hsend
  refine ⟨f₃, f₃.byte (13 + len.toNat), ?_, ?_, ?_⟩
  · rw [writeToAMCCompXfer, bind_of_ret hcomp]
    refine (bind_of_ret hhdr).trans ?_
    rw [bind_of_ret hcopy, bind_of_ret hset, bind_of_ret hcrc]
    exact hsend
  · have hkeeps : MessageHeader pldmFirmwareUpdate s.mI2cPldmRead.cmdCode
        s.mI2cPldmRead.instanceID pldmResponse f₁ :=
      ⟨(hkeep 9 (by decide)).trans hdr.request, (hkeep 10 (by decide)).trans hdr.cmdType,
        (hkeep 11 (by decide)).trans hdr.cmdCode⟩
    exact hkeeps.overlay.overlay
  · -- the payload sent: one byte of status, the data, one byte behind the data
    have hstatus : f₃.slice 12 1 = [code] := by
      change [f₃.byte 12] = _
      rw [Buf.byte_overlay_of_lt (show 12 < 12 + (13 + len.toNat) by omega),
        Buf.byte_overlay_of_mem (by decide) (by decide) (by simp)]
      rfl
    have hbody : f₃.slice 13 len.toNat = xferData s.fw.compFile comp offset len := by
      refine List.ext_getElem (by simp [length_xferData hoff hlen]) fun k hk hk' => ?_
      have hk'' : k < len.toNat := by simpa using hk
      rw [Buf.getElem_slice, Buf.byte_overlay_of_lt (show 13 + k < 12 + (13 + len.toNat) by omega),
        Buf.byte_overlay_of_ge (show 12 + 0 + 1 ≤ 13 + k by omega), hdata k hk'']
      exact List.getD_eq_getElem _ _ hk'
    have hwire : wirePayload (f₃.slice 1 (13 + len.toNat)) =
        f₃.slice payloadStart (1 + (len.toNat + 1)) := by
      rw [← wirePayload_slice, show 11 + (1 + (len.toNat + 1)) = 13 + len.toNat by omega]
    rw [hwire, Buf.slice_add, Buf.slice_add, hstatus, hbody]
    rfl

/-! ## Whole turns -/

/-- What answering a message does: reads of the file, and responses. -/
def Event.IsReply : Event → Prop
  | .fread _ _ _ => True
  | .write bs _ => wireRequest bs = pldmResponse
  | .read _ => False
  | .message _ => False
  | .exchange _ _ _ _ _ => False
  | .transfer _ _ _ => False

/-- An event of the data phase: taking a message, or answering it. -/
def Event.IsAnswer (e : Event) : Prop := e.isReceived = true ∨ e.IsReply

/-- A step that leaves package and instance ID alone and adds events of the kind `P`. -/
structure Adds (P : Event → Prop) (s t : Pldm) : Prop extends SamePackage s t where
  instanceID : t.instanceID = s.instanceID
  events : ∃ evs, t.trace = s.trace ++ evs ∧ ∀ e ∈ evs, P e

section Adds

variable {P Q : Event → Prop} {s t : Pldm}

/-- A step that leaves package, instance ID and trace alone. -/
theorem Adds.of_eq (h : SamePackage s t) (hid : t.instanceID = s.instanceID)
    (htrace : t.trace = s.trace) : Adds P s t :=
  ⟨h, hid, [], by rw [htrace, List.append_nil], by simp⟩

theorem Adds.mono (h : Adds P s t) (hPQ : ∀ e, P e → Q e) : Adds Q s t := by
  obtain ⟨evs, htrace, hevs⟩ := h.events
  exact ⟨h.toSamePackage, h.instanceID, evs, htrace, fun e he => hPQ e (hevs e he)⟩

instance : Std.Refl (Adds P) := ⟨fun s => .of_eq (Std.Refl.refl s) rfl rfl⟩

instance : IsTrans Pldm (Adds P) where
  trans s t u h h' := by
    obtain ⟨evs, ht, hevs⟩ := h.events
    obtain ⟨evs', hu, hevs'⟩ := h'.events
    refine ⟨IsTrans.trans _ _ _ h.toSamePackage h'.toSamePackage,
      h'.instanceID.trans h.instanceID, evs ++ evs', ?_, ?_⟩
    · rw [hu, ht, List.append_assoc]
    · intro e he
      rcases List.mem_append.mp he with he | he
      · exact hevs e he
      · exact hevs' e he

end Adds

/-- A step that only answers. -/
abbrev Replies : Pldm → Pldm → Prop := Adds Event.IsReply

/-- A step that only takes messages and answers them. -/
abbrev Answers : Pldm → Pldm → Prop := Adds Event.IsAnswer

theorem Replies.answers {s t : Pldm} (h : Replies s t) : Answers s t := h.mono fun _ => .inr

/-- A response is a reply. -/
theorem replies_afterResponse {s : Pldm} {f : Frame} {len : Nat} {evs : List Event}
    (hdr : ResponseTo s f) (hevs : ∀ e ∈ evs, e.IsReply) :
    Replies s (s.afterResponse f len evs) := by
  refine ⟨⟨rfl, rfl, rfl⟩, rfl, evs ++ [.write _ _], rfl, fun e he => ?_⟩
  rcases List.mem_append.mp he with he | he
  · exact hevs e he
  · obtain rfl := List.mem_singleton.mp he
    exact hdr.wireRequest_response

theorem replies_respondtoamc (code : UInt8) : Within Replies (respondtoamc code) := by
  intro s
  obtain ⟨f, crc, h, hdr, -⟩ := respondtoamc_spec code s
  rw [h]
  exact replies_afterResponse hdr (by simp)

/-- The component being installed is there, or looking it up is undefined behaviour. -/
theorem curComp_cases (s : Pldm) :
    (∃ comp, curComp s = (.ret comp, s)) ∨ curComp s = (.fault, s) := by
  unfold curComp getPkg
  rcases hpkg : s.fw.pkg with _ | pkg
  · right
    simp [hpkg]
  · rcases hcomp : pkg.compImages[s.fw.mCurComp.toNat]? with _ | comp
    · right
      simp [hpkg, hcomp]
    · left
      exact ⟨comp, by simp [hpkg, hcomp]⟩

/-- `curComp` depends on the package alone. -/
theorem curComp_of_samePackage {s t : Pldm} {comp : CompImageInfo} (h : SamePackage s t)
    (hcomp : curComp s = (.ret comp, s)) : curComp t = (.ret comp, t) := by
  unfold curComp getPkg at hcomp ⊢
  rcases hpkg : s.fw.pkg with _ | pkg
  · simp [hpkg] at hcomp
  · rcases hc : pkg.compImages[s.fw.mCurComp.toNat]? with _ | c
    · simp [hpkg, hc] at hcomp
    · obtain rfl : c = comp := by simpa [hpkg, hc] using hcomp
      simp [h.pkg, hpkg, h.mCurComp, hc]

/-- One answer writes one reply. -/
theorem replies_answerRequestFirmwareData (offset len : UInt32) :
    Within Replies (answerRequestFirmwareData offset len) := by
  intro s
  rcases curComp_cases s with ⟨comp, hcomp⟩ | hfault
  case inr =>
    rw [answerRequestFirmwareData, bind_of_fault hfault]
    exact Std.Refl.refl s
  rw [answerRequestFirmwareData, bind_of_ret hcomp, Prog.ite_apply]
  split
  case isTrue => exact Std.Refl.refl s
  case isFalse =>
    let u : Pldm := { s with fw := { s.fw with
      mProgPercent := (offset * 100 / comp.compSize).toInt32 } }
    have hu : Replies s u := .of_eq ⟨rfl, rfl, rfl⟩ rfl rfl
    refine IsTrans.trans _ _ _ hu ?_
    change Replies u ((if offset ≥ comp.compSize then respondtoamc dataOutOfRange
      else if len > pldmMctpMaxTransferSize then respondtoamc invalidTransferLength
      else writeToAMCCompXfer offset len pldmResponseCompletion : Prog Pldm UInt8) u).2
    split
    case isTrue => exact replies_respondtoamc _ u
    split
    case isTrue => exact replies_respondtoamc _ u
    case isFalse hoff hlen =>
      have hcompu : curComp u = (.ret comp, u) := curComp_of_samePackage hu.toSamePackage hcomp
      obtain ⟨f, pec, h, hdr, -⟩ := writeToAMCCompXfer_spec pldmResponseCompletion hcompu
        (UInt32.not_le.mp hoff) (UInt32.not_lt.mp hlen)
      rw [h]
      exact replies_afterResponse hdr (by simp [xferRead, Event.IsReply])

theorem replies_elseLeave {m : Prog Pldm UInt8} (h : Within Replies m) :
    Within Replies (elseLeave m) := Within.bind h fun _ => Within.pure _

theorem replies_answerFD (f : Frame) : Within Replies (answerFD f) := by
  refine Within.ite (replies_elseLeave (replies_answerRequestFirmwareData _ _))
    (Within.ite ?_ (replies_elseLeave (replies_respondtoamc _)))
  refine Within.bind (fun s => .of_eq ⟨rfl, rfl, rfl⟩ rfl rfl) fun _ => Within.ite ?_ ?_
  · exact Within.bind (replies_respondtoamc _) fun _ => Within.pure _
  · refine Within.bind (replies_elseLeave (replies_respondtoamc _)) fun r => ?_
    cases r with
    | inl => exact Within.pure _
    | inr => exact Within.pure _

theorem answers_readAmc : Within Answers readAmc := by
  intro s
  rcases h : s.reads.head with _ | bs
  · rw [readAmc_of_none h]
    exact ⟨⟨rfl, rfl, rfl⟩, rfl, [.read none], rfl, by simp [Event.IsAnswer, Event.isReceived]⟩
  · rw [readAmc_of_some h]
    exact ⟨⟨rfl, rfl, rfl⟩, rfl, [.read _], rfl, by simp [Event.IsAnswer, Event.isReceived]⟩

theorem answers_readFromFDTurn (u : Unit) : Within Answers (readFromFDTurn u) := by
  refine Within.bind answers_readAmc fun _ => Within.bind Within.get fun _ => ?_
  exact Within.ite (Within.pure _) (Within.ite (Within.pure _) (Within.ite (Within.pure _)
    ((replies_answerFD _).mono fun _ _ => Replies.answers)))

/-! ## How the data phase ends -/

/-- The message in the read frame is an ApplyComplete that reports success. -/
def Frame.IsApplied (f : Frame) : Prop := f.cmdCode = applyComplete ∧ f.respPayload 0 = pldmSuccess

/-- `elseLeave` leaves with errors only. -/
theorem elseLeave_ne_success {m : Prog Pldm UInt8} {s t : Pldm} :
    elseLeave m s ≠ (.ret (.inr pldmSuccess), t) := by
  rw [Ne, elseLeave, bind_eq_ret_iff]
  rintro ⟨r, u, -, h⟩
  by_cases hr : r = pldmSuccess
  · simp [hr] at h
  · simp [hr] at h

/-- The data phase is left successfully only by an ApplyComplete that reports success. -/
theorem answerFD_success {f : Frame} {s t : Pldm} (hf : s.mI2cPldmRead = f)
    (h : answerFD f s = (.ret (.inr pldmSuccess), t)) : f.IsApplied ∧ t.mI2cPldmRead = f := by
  rw [answerFD, Prog.ite_apply] at h
  split at h
  case isTrue => exact absurd h elseLeave_ne_success
  rw [Prog.ite_apply] at h
  split at h
  case isFalse => exact absurd h elseLeave_ne_success
  rw [modify_bind_apply, Prog.ite_apply] at h
  split at h
  case isTrue =>
    obtain ⟨r, u, -, h⟩ := bind_eq_ret_iff.mp h
    simp at h
  case isFalse hcode =>
    obtain ⟨r, u, hans, h⟩ := bind_eq_ret_iff.mp h
    rcases r with _ | r
    · have happ : f.cmdCode = applyComplete := by
        by_contra hne
        simp [hne] at h
      obtain rfl : u = t := by simpa [happ] using h
      refine ⟨⟨happ, not_not.mp hcode⟩, ?_⟩
      -- the acknowledgement leaves the read frame alone
      obtain ⟨r, u', hresp, hu⟩ := bind_eq_ret_iff.mp hans
      obtain ⟨g, crc, hspec, -⟩ := respondtoamc_spec pldmResponseCompletion
        { s with fw := { s.fw with mProgPercent := 100 } }
      obtain ⟨-, rfl⟩ := Prod.mk.inj (hspec.symm.trans hresp)
      obtain ⟨-, rfl⟩ := Prod.mk.inj hu
      exact hf
    · obtain ⟨hr, rfl⟩ : r = pldmSuccess ∧ u = t := by simpa using h
      rw [hr] at hans
      exact absurd hans elseLeave_ne_success

/-- The loop ends well on an ApplyComplete only. -/
theorem readFromFDTurn_success {u : Unit} {s t : Pldm}
    (h : readFromFDTurn u s = (.ret (.inr pldmSuccess), t)) : t.mI2cPldmRead.IsApplied := by
  obtain ⟨ok, v, -, h⟩ := bind_eq_ret_iff.mp h
  rw [get_bind_apply, Prog.ite_apply] at h
  split at h
  case isTrue => simp at h
  rw [Prog.ite_apply] at h
  split at h
  case isTrue => simp at h
  rw [Prog.ite_apply] at h
  split at h
  case isTrue => simp at h
  obtain ⟨happ, hread⟩ := answerFD_success rfl h
  rwa [hread]

/-- **How the data phase ends.** Everything it did was taking messages and answering them, and it
succeeds only when the last message was an ApplyComplete that reports success. -/
theorem readFromFD_run (fuel : Nat) (s : Pldm) :
    wp (readFromFD fuel) (fun o t => ∃ u, Answers s u ∧
      ∀ r, o = .ret r → t = { u with trace := u.trace ++ [.transfer s.fw.mCurComp u.mI2cPldmRead r] } ∧
        (r = pldmSuccess → u.mI2cPldmRead.IsApplied)) s := by
  have hloop : wp (Prog.loop readFromFDTurn fuel ()) (fun o u => Answers s u ∧
      (o = .ret pldmSuccess → u.mI2cPldmRead.IsApplied)) s := by
    refine ⟨Within.loop answers_readFromFDTurn fuel () s, ?_⟩
    change wp (Prog.loop readFromFDTurn fuel ())
      (fun o u => o = .ret pldmSuccess → u.mI2cPldmRead.IsApplied) s
    refine loop_induct (I := fun _ _ => True) ?_ ?_ ?_ ?_ ?_ trivial
    · simp
    · simp
    · rintro b s r t - hb hr
      exact readFromFDTurn_success (Outcome.ret.inj hr ▸ hb)
    · simp
    · simp
  refine wp_bind_of hloop ?_ ?_ ?_
  · rintro r u ⟨hu, hr⟩
    refine ⟨u, hu, fun q hq => ?_⟩
    obtain rfl : r = q := Outcome.ret.inj hq
    refine ⟨?_, fun h => hr (congrArg Outcome.ret h)⟩
    rw [← hu.mCurComp]
    rfl
  · exact fun t h => ⟨t, h.1, by simp⟩
  · exact fun t h => ⟨t, h.1, by simp⟩

end XpuManager
