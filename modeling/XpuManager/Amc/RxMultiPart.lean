import XpuManager.Lib.Reassembly
import XpuManager.Amc.Exchange

/-! # Receiving a message in several packets

`rxMultiPartData` reads packets into a local frame, up to three times each, and puts their contents
together until one of them ends the message. -/

namespace XpuManager

open Prog Reassembly

/-! ## The receiver -/

abbrev maxNumRetries : Nat := 3
abbrev pldmSomBitOn : UInt8 := 0x01
abbrev pldmEomBitOn : UInt8 := 0x01
abbrev mctpFirstPacketExtraBytes : Nat := 3
abbrev mctpContinuationHeaderBytes : Nat := 8
abbrev mctpContinuationTailAdjust : Nat := 5
abbrev maxAssembledFrameBytes : Nat := 8192

/-- `sizeof(mI2cPldmRead)`, the size of the pointer. -/
abbrev readPointerSize : Nat := 8

/-- Update the file-transfer part of the object. -/
def modifyFt (g : FileTransferState → FileTransferState) : Prog Pldm Unit :=
  Prog.modify fun s => { s with ft := g s.ft }

/-- The locals of the loop. -/
structure RxLocals where
  expectedSeq : UInt8
  gotSomPacket : Bool

/-- One try of filling the zeroed local frame; a delivered frame ends the tries. -/
def tryPacket (_retry : Nat) (_ : Unit) : Prog Pldm (Frame ⊕ Unit) := do
  match ← readInto (Buf.zero frameSize) with
  | some frame => pure (.inl frame)
  | none => pure (.inr ())

/-- Fill the zeroed local frame, in at most three reads. -/
def readPacket : Prog Pldm (Frame ⊕ Unit) :=
  Prog.forEach tryPacket (List.range maxNumRetries) ()

/-- The `len` bytes of the local frame from `off` on; past its end is undefined behaviour. -/
def fragmentBytes (frame : Frame) (off len : Nat) : Prog Pldm Bytes :=
  if off + len ≤ frameSize then pure (frame.slice off len) else Prog.fault

/-- `assembledFrame.assign` from the start of the local frame. -/
def assembledAssign (frame : Frame) (len : Nat) : Prog Pldm Unit := do
  let bytes ← fragmentBytes frame 0 len
  modifyFt fun ft => { ft with mRxAssembledFrame := bytes }

/-- `assembledFrame.insert` at its end, from behind the packet header. -/
def assembledInsert (frame : Frame) (len : Nat) : Prog Pldm Unit := do
  let bytes ← fragmentBytes frame mctpContinuationHeaderBytes len
  modifyFt fun ft => { ft with mRxAssembledFrame := ft.mRxAssembledFrame ++ bytes }

/-- A middle or last packet; `next` is what the loop does after it. -/
def rxContinuation (frame : Frame) (b : RxLocals) (next : RxLocals ⊕ UInt8) :
    Prog Pldm (RxLocals ⊕ UInt8) :=
  if b.gotSomPacket = false then pure (.inr pldmError)
  else if frame.packSeq ≠ b.expectedSeq then pure (.inr pldmError)
  else if frame.byteCount.toNat < mctpContinuationTailAdjust then pure (.inr pldmError)
  else do
    let s ← Prog.get
    let fragmentLen := frame.byteCount.toNat - mctpContinuationTailAdjust
    if s.ft.mRxAssembledFrame.length + fragmentLen > maxAssembledFrameBytes then
      pure (.inr pldmError)
    else do
      assembledInsert frame fragmentLen
      pure next

/-- A packet that is both the first and the last one. -/
def rxSingle (frame : Frame) : Prog Pldm (RxLocals ⊕ UInt8) :=
  let frameBytes := frame.byteCount.toNat + mctpFirstPacketExtraBytes
  if frameBytes > maxAssembledFrameBytes then pure (.inr pldmError)
  else do
    assembledAssign frame frameBytes
    Prog.modify fun s => { s with mI2cPldmRead := frame }
    pure (.inr pldmSuccess)

/-- The first of several packets. -/
def rxSom (frame : Frame) : Prog Pldm (RxLocals ⊕ UInt8) :=
  let fragmentLen := frame.byteCount.toNat + mctpFirstPacketExtraBytes
  if fragmentLen = 0 ∨ fragmentLen > maxAssembledFrameBytes then pure (.inr pldmError)
  else do
    assembledAssign frame fragmentLen
    pure (.inl ⟨(frame.packSeq + 1) % 4, true⟩)

/-- One packet, by its flags; `.inr pldmSuccess` leaves the loop for the checks behind it. -/
def rxPacket (frame : Frame) (b : RxLocals) : Prog Pldm (RxLocals ⊕ UInt8) :=
  if frame.smbusCmdCode ≠ mctpCmdCode then pure (.inr pldmError)
  else if frame.som = pldmSomBitOn ∧ frame.eom = pldmEomBitOn then rxSingle frame
  else if frame.som = pldmSomBitOn then rxSom frame
  else if frame.eom ≠ pldmEomBitOn then
    rxContinuation frame b (.inl { b with expectedSeq := (b.expectedSeq + 1) % 4 })
  else rxContinuation frame b (.inr pldmSuccess)

/-- One turn of the loop. -/
def rxTurn (b : RxLocals) : Prog Pldm (RxLocals ⊕ UInt8) := do
  match ← readPacket with
  | .inl frame => rxPacket frame b
  | .inr () => pure (.inr pldmError)

/-- `mI2cPldmRead` as it is filled from the assembled frame. -/
def assembledRead (frame : Bytes) : Frame :=
  let f := (Buf.zero frameSize).overlay 0 (frame.take frameSize)
  let byteCount :=
    if frame.length > mctpFirstPacketExtraBytes then frame.length - mctpFirstPacketExtraBytes
    else 0
  ((f.setByte 0 (mctpSrcSlaveAddr * 2 + mctpSrcSlaveAddrB0)).setByte 7
      (f.byte 7 % 16 + pldmEomBitOn * 64 + pldmSomBitOn * 128)).setByte 2
    (UInt8.ofNat (min byteCount (readPointerSize - mctpFirstPacketExtraBytes)))

/-- The checks and copies behind the loop. -/
def rxFinish : Prog Pldm UInt8 := do
  let s ← Prog.get
  let frame := s.ft.mRxAssembledFrame
  if frame.isEmpty then pure pldmError
  else if frame.length < payloadStart + 1 then pure pldmError
  else do
    modifyFt fun ft => { ft with mRxAssembledPayload := frame.drop payloadStart }
    Prog.modify fun s => { s with mI2cPldmRead := assembledRead frame }
    emit (.message frame)
    pure pldmSuccess

/-- `rxMultiPartData`. -/
def rxMultiPartData (fuel : Nat) : Prog Pldm UInt8 := do
  modifyFt fun ft => { ft with mRxAssembledFrame := [], mRxAssembledPayload := [] }
  andThen (Prog.loop rxTurn fuel ⟨0, false⟩) rxFinish

/-! ## Packets as fragments -/

/-- What a read into the zeroed local frame leaves in it. -/
def freshFrame (bs : Bytes) : Frame := (Buf.zero frameSize).overlay 1 (bs.take pldmMaxResponseSize)

/-- What the reads of one packet deliver, with `n` tries left, and the answers behind them. -/
def deliver : Nat → Stream' (Option Bytes) → Option Frame × Stream' (Option Bytes)
  | 0, reads => (none, reads)
  | n + 1, reads => match reads.head with
    | some bs => (some (freshFrame bs), reads.tail)
    | none => deliver n reads.tail

/-- The answers deliver these packets, one after the other. -/
def Delivers : Stream' (Option Bytes) → List Frame → Prop
  | _, [] => True
  | reads, f :: fs => (deliver maxNumRetries reads).1 = some f ∧
      Delivers (deliver maxNumRetries reads).2 fs

namespace Frame

variable (f : Frame)

/-- The packet as a fragment of a message. The first one brings its header along. -/
def fragment : Fragment UInt8 where
  som := f.som == pldmSomBitOn
  eom := f.eom == pldmEomBitOn
  seq := f.packSeq.toNat
  body := if f.som = pldmSomBitOn then f.slice 0 (f.byteCount.toNat + mctpFirstPacketExtraBytes)
    else f.slice mctpContinuationHeaderBytes (f.byteCount.toNat - mctpContinuationTailAdjust)

/-- An MCTP packet; behind the first one, with a whole packet header. -/
def IsPacket : Prop :=
  f.smbusCmdCode = mctpCmdCode ∧
    (f.som ≠ pldmSomBitOn → mctpContinuationTailAdjust ≤ f.byteCount.toNat)

/-- The bytes the packet counts lie inside the frame. -/
def StaysInside : Prop := f.byteCount ≤ 137

instance : Decidable f.IsPacket := inferInstanceAs (Decidable (_ ∧ _))

instance : Decidable f.StaysInside := inferInstanceAs (Decidable (_ ≤ _))

theorem fragment_eom : f.fragment.eom = true ↔ f.eom = pldmEomBitOn := beq_iff_eq

theorem fragment_not_eom : f.fragment.eom = false ↔ f.eom ≠ pldmEomBitOn := beq_eq_false_iff_ne

theorem stays_iff : f.StaysInside ↔ f.byteCount.toNat ≤ 137 := UInt8.le_iff_toNat_le

end Frame

/-- What the receiver holds, as an assembly. -/
def assembly (b : RxLocals) (s : Pldm) : Assembly UInt8 where
  buffer := s.ft.mRxAssembledFrame
  next := if b.gotSomPacket then some b.expectedSeq.toNat else none

/-- A packet the receiver takes: what it then holds. -/
def Takes (a : Assembly UInt8) (f : Frame) (a' : Assembly UInt8) : Prop :=
  f.IsPacket ∧ accept 4 maxAssembledFrameBytes a f.fragment = some a'

/-! ## What one packet does -/

@[simp] theorem modifyFt_bind_apply {α : Type} (g : FileTransferState → FileTransferState)
    (f : Unit → Prog Pldm α) (s : Pldm) : (modifyFt g >>= f) s = f () { s with ft := g s.ft } := rfl

theorem fragmentBytes_apply (frame : Frame) (off len : Nat) (s : Pldm) :
    fragmentBytes frame off len s =
      if off + len ≤ frameSize then (.ret (frame.slice off len), s) else (.fault, s) := by
  rw [fragmentBytes, Prog.ite_apply]
  rfl

/-- The sequence number behind one: only the low bits of the counter matter. -/
theorem toNat_succ_mod_four (x : UInt8) : ((x + 1) % 4).toNat = (x.toNat + 1) % 4 := by
  simp only [UInt8.toNat_mod, UInt8.toNat_add, UInt8.reduceToNat]
  omega

/-- The state once the assembled frame is `bytes`. -/
def Pldm.assembled (s : Pldm) (bytes : Bytes) : Pldm :=
  { s with ft := { s.ft with mRxAssembledFrame := bytes } }

/-- The first packet: its bytes start the assembled frame. -/
theorem assembledAssign_apply (f : Frame) (s : Pldm) :
    assembledAssign f (f.byteCount.toNat + mctpFirstPacketExtraBytes) s =
      if f.StaysInside then
        (.ret (), s.assembled (f.slice 0 (f.byteCount.toNat + mctpFirstPacketExtraBytes)))
      else (.fault, s) := by
  have hiff : 0 + (f.byteCount.toNat + mctpFirstPacketExtraBytes) ≤ frameSize ↔ f.StaysInside := by
    rw [f.stays_iff]
    exact show 0 + (f.byteCount.toNat + 3) ≤ 140 ↔ _ by omega
  have hget := fragmentBytes_apply f 0 (f.byteCount.toNat + mctpFirstPacketExtraBytes) s
  by_cases h : f.StaysInside
  · rw [if_pos (hiff.mpr h)] at hget
    rw [assembledAssign, bind_of_ret hget, if_pos h]
    rfl
  · rw [if_neg (mt hiff.mp h)] at hget
    rw [assembledAssign, bind_of_fault hget, if_neg h]

/-- A later packet: its bytes behind the header join the assembled frame. -/
theorem assembledInsert_apply {f : Frame} (s : Pldm)
    (h₅ : mctpContinuationTailAdjust ≤ f.byteCount.toNat) :
    assembledInsert f (f.byteCount.toNat - mctpContinuationTailAdjust) s =
      if f.StaysInside then
        (.ret (), s.assembled (s.ft.mRxAssembledFrame ++ f.slice mctpContinuationHeaderBytes
          (f.byteCount.toNat - mctpContinuationTailAdjust)))
      else (.fault, s) := by
  have hiff : mctpContinuationHeaderBytes + (f.byteCount.toNat - mctpContinuationTailAdjust)
      ≤ frameSize ↔ f.StaysInside := by
    rw [f.stays_iff]
    exact show 8 + (f.byteCount.toNat - 5) ≤ 140 ↔ _ by
      have : 5 ≤ f.byteCount.toNat := h₅
      omega
  have hget := fragmentBytes_apply f mctpContinuationHeaderBytes
    (f.byteCount.toNat - mctpContinuationTailAdjust) s
  by_cases h : f.StaysInside
  · rw [if_pos (hiff.mpr h)] at hget
    rw [assembledInsert, bind_of_ret hget, if_pos h]
    rfl
  · rw [if_neg (mt hiff.mp h)] at hget
    rw [assembledInsert, bind_of_fault hget, if_neg h]

section Takes

variable {f : Frame} {b : RxLocals} {s : Pldm} {a : Assembly UInt8}

/-- The receiver takes every packet that starts a message. -/
theorem takes_first_iff (hsom : f.som = pldmSomBitOn) : Takes (assembly b s) f a ↔
    f.smbusCmdCode = mctpCmdCode ∧
      a = ⟨f.slice 0 (f.byteCount.toNat + mctpFirstPacketExtraBytes),
        some ((f.packSeq.toNat + 1) % 4)⟩ := by
  have hbody : f.fragment.body = f.slice 0 (f.byteCount.toNat + mctpFirstPacketExtraBytes) :=
    if_pos hsom
  have hfits : f.fragment.body.length ≤ maxAssembledFrameBytes := by
    have := f.byteCount.toNat_lt
    rw [hbody, Buf.length_slice]
    exact show f.byteCount.toNat + 3 ≤ 8192 by omega
  rw [Takes, accept_first_iff (beq_iff_eq.mpr hsom), and_iff_right hfits, hbody]
  exact and_congr_left fun _ => and_iff_left fun h => absurd hsom h

/-- Behind it, the receiver takes the packet with the number to come, within the limit. -/
theorem takes_continuation_iff (hsom : f.som ≠ pldmSomBitOn) : Takes (assembly b s) f a ↔
    (f.smbusCmdCode = mctpCmdCode ∧ b.gotSomPacket = true ∧ f.packSeq = b.expectedSeq ∧
      mctpContinuationTailAdjust ≤ f.byteCount.toNat ∧
      s.ft.mRxAssembledFrame.length + (f.byteCount.toNat - mctpContinuationTailAdjust)
        ≤ maxAssembledFrameBytes) ∧
      a = ⟨s.ft.mRxAssembledFrame ++ f.slice mctpContinuationHeaderBytes
        (f.byteCount.toNat - mctpContinuationTailAdjust), some ((f.packSeq.toNat + 1) % 4)⟩ := by
  have hbody : f.fragment.body = f.slice mctpContinuationHeaderBytes
      (f.byteCount.toNat - mctpContinuationTailAdjust) := if_neg hsom
  have hnext : (assembly b s).next = some f.fragment.seq ↔
      b.gotSomPacket = true ∧ f.packSeq = b.expectedSeq := by
    change (if b.gotSomPacket then some b.expectedSeq.toNat else none) = some f.packSeq.toNat ↔ _
    split
    case isTrue h => rw [Option.some_inj, UInt8.toNat_inj, eq_comm, and_iff_right h]
    case isFalse h => exact iff_of_false (by simp) fun hc => h hc.1
  rw [Takes, accept_later_iff (beq_eq_false_iff_ne.mpr hsom), hnext, hbody, Buf.length_slice]
  constructor
  · rintro ⟨⟨hcmd, h₅⟩, ⟨⟨hgot, hseq⟩, hlen⟩, rfl⟩
    exact ⟨⟨hcmd, hgot, hseq, h₅ hsom, hlen⟩, rfl⟩
  · rintro ⟨⟨hcmd, hgot, hseq, h₅, hlen⟩, rfl⟩
    exact ⟨⟨hcmd, fun _ => h₅⟩, ⟨⟨hgot, hseq⟩, hlen⟩, rfl⟩

/-- A first packet that is the last one too. -/
theorem rxSingle_of_takes (hsom : f.som = pldmSomBitOn) (h : Takes (assembly b s) f a) :
    rxSingle f s = if f.StaysInside then
        (.ret (.inr pldmSuccess), { s.assembled a.buffer with mI2cPldmRead := f })
      else (.fault, s) := by
  obtain ⟨-, rfl⟩ := (takes_first_iff hsom).mp h
  have hlen : ¬f.byteCount.toNat + mctpFirstPacketExtraBytes > maxAssembledFrameBytes := by
    have := f.byteCount.toNat_lt
    exact show ¬f.byteCount.toNat + 3 > 8192 by omega
  have hassign := assembledAssign_apply f s
  rw [rxSingle, if_neg hlen]
  split at hassign
  case isTrue hin => rw [bind_of_ret hassign, if_pos hin]; rfl
  case isFalse hin => rw [bind_of_fault hassign, if_neg hin]

/-- A first packet that others follow. -/
theorem rxSom_of_takes (hsom : f.som = pldmSomBitOn) (h : Takes (assembly b s) f a) :
    rxSom f s = if f.StaysInside then
        (.ret (.inl ⟨(f.packSeq + 1) % 4, true⟩), s.assembled a.buffer)
      else (.fault, s) := by
  obtain ⟨-, rfl⟩ := (takes_first_iff hsom).mp h
  have hlen : ¬(f.byteCount.toNat + mctpFirstPacketExtraBytes = 0 ∨
      f.byteCount.toNat + mctpFirstPacketExtraBytes > maxAssembledFrameBytes) := by
    have := f.byteCount.toNat_lt
    exact show ¬(f.byteCount.toNat + 3 = 0 ∨ f.byteCount.toNat + 3 > 8192) by omega
  have hassign := assembledAssign_apply f s
  rw [rxSom, if_neg hlen]
  split at hassign
  case isTrue hin => rw [bind_of_ret hassign, if_pos hin]; rfl
  case isFalse hin => rw [bind_of_fault hassign, if_neg hin]

/-- A later packet that the receiver takes. -/
theorem rxContinuation_of_takes {next : RxLocals ⊕ UInt8} (hsom : f.som ≠ pldmSomBitOn)
    (h : Takes (assembly b s) f a) :
    rxContinuation f b next s =
      if f.StaysInside then (.ret next, s.assembled a.buffer) else (.fault, s) := by
  obtain ⟨⟨-, hgot, hseq, h₅, hlen⟩, rfl⟩ := (takes_continuation_iff hsom).mp h
  have hinsert := assembledInsert_apply s h₅
  rw [rxContinuation, if_neg (by simp [hgot]), if_neg (not_not.mpr hseq),
    if_neg (Nat.not_lt.mpr h₅), get_bind_apply, if_neg (Nat.not_lt.mpr hlen)]
  split at hinsert
  case isTrue hin => rw [bind_of_ret hinsert, if_pos hin]; rfl
  case isFalse hin => rw [bind_of_fault hinsert, if_neg hin]

/-- A later packet that the receiver does not take. -/
theorem rxContinuation_of_refused {next : RxLocals ⊕ UInt8} (hsom : f.som ≠ pldmSomBitOn)
    (hcmd : f.smbusCmdCode = mctpCmdCode) (h : ∀ a, ¬Takes (assembly b s) f a) :
    rxContinuation f b next s = (.ret (.inr pldmError), s) := by
  unfold rxContinuation
  split
  case isTrue => rfl
  case isFalse hgot =>
  split
  case isTrue => rfl
  case isFalse hseq =>
  split
  case isTrue => rfl
  case isFalse h₅ =>
  rw [get_bind_apply]
  split
  case isTrue => rfl
  case isFalse hlen =>
    refine absurd ((takes_continuation_iff hsom).mpr ⟨⟨hcmd, ?_, ?_, ?_, ?_⟩, rfl⟩) (h _)
    · simpa using hgot
    · exact not_not.mp hseq
    · exact Nat.not_lt.mp h₅
    · exact Nat.not_lt.mp hlen

/-- **A refused packet.** The receiver gives up and nothing changes. -/
theorem rxPacket_of_refused (h : ∀ a, ¬Takes (assembly b s) f a) :
    rxPacket f b s = (.ret (.inr pldmError), s) := by
  by_cases hcmd : f.smbusCmdCode = mctpCmdCode
  case neg => rw [rxPacket, if_pos hcmd, pure_apply]
  by_cases hsom : f.som = pldmSomBitOn
  · exact absurd ((takes_first_iff hsom).mpr ⟨hcmd, rfl⟩) (h _)
  · rw [rxPacket, if_neg (not_not.mpr hcmd), if_neg (fun hc => hsom hc.1), if_neg hsom]
    split
    · exact rxContinuation_of_refused hsom hcmd h
    · exact rxContinuation_of_refused hsom hcmd h

/-- **A packet past the frame.** Whatever its flags, the copy reads behind the local frame. -/
theorem rxPacket_of_overrun (h : Takes (assembly b s) f a) (hin : ¬f.StaysInside) :
    rxPacket f b s = (.fault, s) := by
  rw [rxPacket, if_neg (not_not.mpr h.1.1)]
  by_cases hsom : f.som = pldmSomBitOn
  · by_cases heom : f.eom = pldmEomBitOn
    · rw [if_pos ⟨hsom, heom⟩, rxSingle_of_takes hsom h, if_neg hin]
    · rw [if_neg (fun hc => heom hc.2), if_pos hsom, rxSom_of_takes hsom h, if_neg hin]
  · rw [if_neg (fun hc => hsom hc.1), if_neg hsom]
    split
    · rw [rxContinuation_of_takes hsom h, if_neg hin]
    · rw [rxContinuation_of_takes hsom h, if_neg hin]

/-- **The last packet of a message.** -/
theorem rxPacket_of_last (h : Takes (assembly b s) f a) (hin : f.StaysInside)
    (heom : f.eom = pldmEomBitOn) : ∃ t, rxPacket f b s = (.ret (.inr pldmSuccess), t) ∧
      t.ft.mRxAssembledFrame = a.buffer := by
  rw [rxPacket, if_neg (not_not.mpr h.1.1)]
  by_cases hsom : f.som = pldmSomBitOn
  · rw [if_pos ⟨hsom, heom⟩, rxSingle_of_takes hsom h, if_pos hin]
    exact ⟨_, rfl, rfl⟩
  · rw [if_neg (fun hc => hsom hc.1), if_neg hsom, if_neg (not_not.mpr heom),
      rxContinuation_of_takes hsom h, if_pos hin]
    exact ⟨_, rfl, rfl⟩

/-- **A packet that others follow.** The receiver then holds what the reassembly says. -/
theorem rxPacket_of_more (h : Takes (assembly b s) f a) (hin : f.StaysInside)
    (heom : f.eom ≠ pldmEomBitOn) : ∃ b' t, rxPacket f b s = (.ret (.inl b'), t) ∧
      assembly b' t = a ∧ t.reads = s.reads := by
  rw [rxPacket, if_neg (not_not.mpr h.1.1), if_neg (fun hc => heom hc.2)]
  by_cases hsom : f.som = pldmSomBitOn
  · rw [if_pos hsom, rxSom_of_takes hsom h, if_pos hin]
    obtain ⟨-, rfl⟩ := (takes_first_iff hsom).mp h
    refine ⟨_, _, rfl, ?_, rfl⟩
    simp [assembly, Pldm.assembled]
  · rw [if_neg hsom, if_pos heom, rxContinuation_of_takes hsom h, if_pos hin]
    obtain ⟨⟨-, hgot, hseq, -⟩, rfl⟩ := (takes_continuation_iff hsom).mp h
    refine ⟨_, _, rfl, ?_, rfl⟩
    rw [hseq, ← toNat_succ_mod_four]
    simp [assembly, Pldm.assembled, hgot]

end Takes

/-! ## What one turn does -/

theorem tryPacket_of_none {retry : Nat} {s : Pldm} (h : s.reads.head = none) :
    tryPacket retry () s = (.ret (.inr ()), s.afterFailedRead) := by
  simp only [tryPacket, readInto, emit, Prog.bind_assoc, get_bind_apply, modify_bind_apply,
    Prog.pure_bind, h, Option.map_none, pure_apply]
  rfl

theorem tryPacket_of_some {retry : Nat} {s : Pldm} {bs : Bytes} (h : s.reads.head = some bs) :
    tryPacket retry () s = (.ret (.inl (freshFrame bs)),
      { s with reads := s.reads.tail
               trace := s.trace ++ [.read (some (freshFrame bs))] }) := by
  simp only [tryPacket, readInto, emit, Prog.bind_assoc, get_bind_apply, modify_bind_apply,
    Prog.pure_bind, h, Option.map_some, pure_apply]
  rfl

/-- The tries take the answers up to the first delivered frame. -/
theorem forEach_tryPacket (tries : List Nat) (s : Pldm) : ∃ evs, Prog.forEach tryPacket tries () s =
    (.ret (match (deliver tries.length s.reads).1 with
        | some frame => .inl frame
        | none => .inr ()),
      { s with reads := (deliver tries.length s.reads).2, trace := s.trace ++ evs }) := by
  induction tries generalizing s with
  | nil => exact ⟨[], by rw [List.append_nil]; rfl⟩
  | cons retry tries ih =>
    rcases hread : s.reads.head with _ | bs
    · obtain ⟨evs, hevs⟩ := ih s.afterFailedRead
      refine ⟨.read none :: evs, ?_⟩
      rw [forEach_cons_of_next (tryPacket_of_none hread), hevs, List.length_cons, deliver, hread]
      simp [Pldm.afterFailedRead]
    · refine ⟨[.read (some (freshFrame bs))], ?_⟩
      rw [forEach_cons_of_leave (tryPacket_of_some hread), List.length_cons, deliver, hread]

/-- **Reading a packet.** It takes the answers up to the first delivered frame. -/
theorem readPacket_apply (s : Pldm) : ∃ evs, readPacket s =
    (.ret (match (deliver maxNumRetries s.reads).1 with
        | some frame => .inl frame
        | none => .inr ()),
      { s with reads := (deliver maxNumRetries s.reads).2, trace := s.trace ++ evs }) :=
  forEach_tryPacket _ s

/-- What one turn of the loop does, in the receiver's terms. -/
inductive RxStep (b : RxLocals) (s : Pldm) : Outcome (RxLocals ⊕ UInt8) × Pldm → Prop where
  /-- Three reads failed. -/
  | silent {t : Pldm} : (deliver maxNumRetries s.reads).1 = none →
      RxStep b s (.ret (.inr pldmError), t)
  /-- The packet is not one the receiver takes. -/
  | refused {f : Frame} {t : Pldm} : (deliver maxNumRetries s.reads).1 = some f →
      (∀ a, ¬Takes (assembly b s) f a) → RxStep b s (.ret (.inr pldmError), t)
  /-- The packet is taken and counts bytes past the local frame. -/
  | overrun {f : Frame} {a : Assembly UInt8} {t : Pldm} :
      (deliver maxNumRetries s.reads).1 = some f → Takes (assembly b s) f a → ¬f.StaysInside →
      RxStep b s (.fault, t)
  /-- The packet is taken and ends the message. -/
  | last {f : Frame} {a : Assembly UInt8} {t : Pldm} :
      (deliver maxNumRetries s.reads).1 = some f → Takes (assembly b s) f a → f.StaysInside →
      f.eom = pldmEomBitOn → t.ft.mRxAssembledFrame = a.buffer →
      RxStep b s (.ret (.inr pldmSuccess), t)
  /-- The packet is taken and others follow. -/
  | more {f : Frame} {a : Assembly UInt8} {b' : RxLocals} {t : Pldm} :
      (deliver maxNumRetries s.reads).1 = some f → Takes (assembly b s) f a → f.StaysInside →
      f.eom ≠ pldmEomBitOn → assembly b' t = a → t.reads = (deliver maxNumRetries s.reads).2 →
      RxStep b s (.ret (.inl b'), t)

/-- **Turn lemma.** Every turn of the loop is a step of the receiver. -/
theorem rxTurn_step (b : RxLocals) (s : Pldm) : RxStep b s (rxTurn b s) := by
  obtain ⟨evs, hread⟩ := readPacket_apply s
  rcases hf : (deliver maxNumRetries s.reads).1 with _ | f
  · rw [hf] at hread
    rw [rxTurn, bind_of_ret hread]
    exact .silent hf
  rw [hf] at hread
  let u : Pldm := { s with reads := (deliver maxNumRetries s.reads).2, trace := s.trace ++ evs }
  have hturn : rxTurn b s = rxPacket f b u := bind_of_ret hread
  have hsame : assembly b u = assembly b s := rfl
  rw [hturn]
  by_cases htakes : ∃ a, Takes (assembly b u) f a
  · obtain ⟨a, htakes⟩ := htakes
    by_cases hin : f.StaysInside
    · by_cases heom : f.eom = pldmEomBitOn
      · obtain ⟨t, hpacket, hbuf⟩ := rxPacket_of_last htakes hin heom
        rw [hpacket]
        exact .last hf (hsame ▸ htakes) hin heom hbuf
      · obtain ⟨b', t, hpacket, hasm, hreads⟩ := rxPacket_of_more htakes hin heom
        rw [hpacket]
        exact .more hf (hsame ▸ htakes) hin heom hasm hreads
    · rw [rxPacket_of_overrun htakes hin]
      exact .overrun hf (hsame ▸ htakes) hin
  · rw [rxPacket_of_refused fun a ha => htakes ⟨a, ha⟩]
    exact .refused hf fun a ha => htakes ⟨a, hsame ▸ ha⟩

/-! ## Before and behind the loop -/

/-- The state in which the loop starts. -/
def Pldm.cleared (s : Pldm) : Pldm :=
  { s with ft := { s.ft with mRxAssembledFrame := [], mRxAssembledPayload := [] } }

theorem rxMultiPartData_apply (fuel : Nat) (s : Pldm) : rxMultiPartData fuel s =
    andThen (Prog.loop rxTurn fuel ⟨0, false⟩) rxFinish s.cleared := rfl

/-- The state in which an assembled message is handed on. -/
def Pldm.rxFinished (s : Pldm) : Pldm :=
  { s with mI2cPldmRead := assembledRead s.ft.mRxAssembledFrame
           trace := s.trace ++ [.message s.ft.mRxAssembledFrame]
           ft := { s.ft with
             mRxAssembledPayload := s.ft.mRxAssembledFrame.drop payloadStart } }

/-- **The checks behind the loop.** A message is handed on when it has a payload. -/
theorem rxFinish_apply (s : Pldm) : rxFinish s =
    if payloadStart < s.ft.mRxAssembledFrame.length then (.ret pldmSuccess, s.rxFinished)
    else (.ret pldmError, s) := by
  rw [rxFinish, get_bind_apply]
  by_cases hlong : payloadStart < s.ft.mRxAssembledFrame.length
  · have hne : ¬s.ft.mRxAssembledFrame.isEmpty = true := by
      intro hempty
      rw [List.isEmpty_iff.mp hempty] at hlong
      exact absurd hlong (by decide)
    rw [if_neg hne, if_neg (Nat.not_lt.mpr hlong), if_pos hlong]
    rfl
  · rw [if_neg hlong]
    split
    · rfl
    · rw [if_pos (Nat.lt_succ_of_le (Nat.not_lt.mp hlong)), pure_apply]

end XpuManager
