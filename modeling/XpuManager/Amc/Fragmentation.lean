import XpuManager.Amc.Packets

/-! # The packets an MCTP message is cut into

The sending side of the file-transfer channel: a message body cut into the fragments of a first
packet and of any number of later ones, numbered modulo four. -/

namespace XpuManager

open Prog Reassembly

/-! ## Packets -/

/-- An MCTP packet, from the SMBus command code on: the header bytes the receiver does not look at,
its part of the message body, and what the read delivers behind it. -/
structure Packet where
  srcSlaveAddr : UInt8
  hdrVersion : UInt8
  destEpid : UInt8
  srcEpid : UInt8
  /-- The message tag and the tag owner bit. -/
  tag : UInt8
  body : Bytes
  trailer : Bytes
  fits : 7 + body.length ≤ pldmMaxResponseSize

namespace Packet

variable (p : Packet) (som eom : Bool) (seq : Nat)

/-- The flag byte: `som`, `eom`, `packSeq` and the tag. -/
def flags : UInt8 :=
  p.tag % 16 + UInt8.ofNat (seq % 4) * 16 + (if eom then 64 else 0) + (if som then 128 else 0)

/-- The packet header. The byte count covers all that follows it. -/
def header : Bytes :=
  [mctpCmdCode, UInt8.ofNat (5 + p.body.length), p.srcSlaveAddr, p.hdrVersion, p.destEpid,
   p.srcEpid, p.flags som eom seq]

/-- The bytes a read delivers. -/
def bytes : Bytes := p.header som eom seq ++ p.body ++ p.trailer

/-- The frame a read of the packet leaves. -/
def frame : Frame := freshFrame (p.bytes som eom seq)

/-- The bytes of a first packet as the receiver keeps them: the address byte that no read fills,
the header and the body. -/
def head : Bytes := 0 :: p.header som eom seq ++ p.body

@[simp] theorem length_header : (p.header som eom seq).length = 7 := rfl

theorem toNat_flags : (p.flags som eom seq).toNat =
    p.tag.toNat % 16 + seq % 4 * 16 + (if eom then 64 else 0) + (if som then 128 else 0) := by
  have hseq : (UInt8.ofNat (seq % 4)).toNat = seq % 4 := by
    rw [UInt8.toNat_ofNat']
    omega
  unfold flags
  cases eom <;> cases som <;>
    simp only [UInt8.toNat_add, UInt8.toNat_mul, UInt8.toNat_mod, UInt8.reduceToNat, hseq,
      Bool.false_eq_true, if_false, if_true] <;> omega

/-- A byte of the packet stands in the frame one position further on. -/
theorem byte_frame {k : Nat} (hk : k < 7 + p.body.length) :
    (p.frame som eom seq).byte (1 + k) = (p.header som eom seq ++ p.body).getD k 0 := by
  have hfits : 7 + p.body.length ≤ 128 := p.fits
  have hlen : k < (p.header som eom seq ++ p.body).length := by
    rw [List.length_append, length_header]
    exact hk
  have hk128 : k < pldmMaxResponseSize := show k < 128 by omega
  have htake : k < ((p.bytes som eom seq).take pldmMaxResponseSize).length := by
    rw [List.length_take, bytes, List.length_append]
    exact lt_min hk128 (by omega)
  rw [frame, freshFrame, Buf.byte_overlay_of_mem (show 1 + k < 140 by omega) (by omega) (by omega),
    Nat.add_sub_cancel_left, List.getD_eq_getElem _ _ htake, List.getElem_take,
    List.getD_eq_getElem _ _ hlen]
  exact List.getElem_append_left hlen

/-- The address byte stays zero. -/
theorem byte_frame_zero : (p.frame som eom seq).byte 0 = 0 := by
  rw [frame, freshFrame, Buf.byte_overlay_of_lt (by decide), Buf.byte_zero]

/-- A header byte of the frame. -/
theorem byte_frame_header {k : Nat} (hk : k < 7) :
    (p.frame som eom seq).byte (1 + k) = (p.header som eom seq).getD k 0 := by
  rw [p.byte_frame som eom seq (by omega)]
  exact List.getD_append _ _ _ _ hk

theorem smbusCmdCode_frame : (p.frame som eom seq).smbusCmdCode = mctpCmdCode :=
  p.byte_frame_header som eom seq (k := 0) (by decide)

theorem byteCount_frame : (p.frame som eom seq).byteCount.toNat = 5 + p.body.length := by
  have hfits : 7 + p.body.length ≤ 128 := p.fits
  have h : (p.frame som eom seq).byteCount = UInt8.ofNat (5 + p.body.length) :=
    p.byte_frame_header som eom seq (k := 1) (by decide)
  rw [h, UInt8.toNat_ofNat']
  omega

theorem flags_frame : (p.frame som eom seq).byte 7 = p.flags som eom seq :=
  p.byte_frame_header som eom seq (k := 6) (by decide)

theorem som_frame : (p.frame som eom seq).som = if som then pldmSomBitOn else 0 := by
  have h := p.toNat_flags som eom seq
  apply UInt8.toNat_inj.mp
  rw [Frame.som, flags_frame, UInt8.toNat_div, h]
  cases eom <;> cases som <;> simp [pldmSomBitOn] <;> omega

theorem eom_frame : (p.frame som eom seq).eom = if eom then pldmEomBitOn else 0 := by
  have h := p.toNat_flags som eom seq
  apply UInt8.toNat_inj.mp
  rw [Frame.eom, flags_frame, UInt8.toNat_mod, UInt8.toNat_div, h]
  cases eom <;> cases som <;> simp [pldmEomBitOn] <;> omega

theorem packSeq_frame : (p.frame som eom seq).packSeq.toNat = seq % 4 := by
  have h := p.toNat_flags som eom seq
  rw [Frame.packSeq, flags_frame, UInt8.toNat_mod, UInt8.toNat_div, h]
  cases eom <;> cases som <;> simp <;> omega

/-- The bytes of a first packet. -/
theorem slice_head : (p.frame som eom seq).slice 0 (8 + p.body.length) = p.head som eom seq := by
  refine List.ext_getElem (by simp [head]; omega) fun k hk hk' => ?_
  rw [Buf.getElem_slice, Nat.zero_add]
  cases k with
  | zero => exact p.byte_frame_zero som eom seq
  | succ k =>
    have hk₇ : k < 7 + p.body.length := by
      rw [Buf.length_slice] at hk
      omega
    have hlen : k < (p.header som eom seq ++ p.body).length := by
      rw [List.length_append, length_header]
      exact hk₇
    have hbyte : (p.frame som eom seq).byte (k + 1) = (p.header som eom seq ++ p.body)[k] := by
      rw [Nat.add_comm k 1, p.byte_frame som eom seq hk₇, List.getD_eq_getElem _ _ hlen]
    rw [hbyte]
    rfl

/-- The bytes of a later packet. -/
theorem slice_body : (p.frame som eom seq).slice 8 p.body.length = p.body := by
  refine List.ext_getElem (by simp) fun k hk hk' => ?_
  have hlen : 7 + k < (p.header som eom seq ++ p.body).length := by
    rw [List.length_append, length_header]
    omega
  have hbyte : (p.frame som eom seq).byte (8 + k) = (p.header som eom seq ++ p.body)[7 + k] := by
    rw [show 8 + k = 1 + (7 + k) by omega, p.byte_frame som eom seq (by omega),
      List.getD_eq_getElem _ _ hlen]
  rw [Buf.getElem_slice, hbyte, List.getElem_append_right (Nat.le_add_right 7 k)]
  simp only [length_header, Nat.add_sub_cancel_left]

theorem isPacket_frame : (p.frame som eom seq).IsPacket := by
  refine ⟨p.smbusCmdCode_frame som eom seq, fun _ => ?_⟩
  rw [p.byteCount_frame som eom seq]
  exact Nat.le_add_right _ _

theorem staysInside_frame : (p.frame som eom seq).StaysInside := by
  have hfits : 7 + p.body.length ≤ 128 := p.fits
  rw [Frame.stays_iff, p.byteCount_frame som eom seq]
  omega

/-- A first packet as a fragment. -/
theorem fragment_frame_first :
    (p.frame true eom seq).fragment = ⟨true, eom, seq % 4, p.head true eom seq⟩ := by
  have hsom : (p.frame true eom seq).som = pldmSomBitOn := p.som_frame true eom seq
  have hlen : 5 + p.body.length + mctpFirstPacketExtraBytes = 8 + p.body.length := by
    simp only [mctpFirstPacketExtraBytes]
    omega
  rw [Frame.fragment, if_pos hsom, hsom, p.eom_frame true eom seq, p.packSeq_frame true eom seq,
    p.byteCount_frame true eom seq, hlen, slice_head]
  cases eom <;> rfl

/-- A later packet as a fragment. -/
theorem fragment_frame_later :
    (p.frame false eom seq).fragment = ⟨false, eom, seq % 4, p.body⟩ := by
  have hsom : (p.frame false eom seq).som = 0 := p.som_frame false eom seq
  rw [Frame.fragment, hsom, if_neg (by decide), p.eom_frame false eom seq,
    p.packSeq_frame false eom seq, p.byteCount_frame false eom seq, Nat.add_sub_cancel_left,
    slice_body]
  cases eom <;> rfl

end Packet

/-! ## Messages -/

/-- A packet behind a number of failed reads, at most two. -/
abbrev Delivery : Type := Fin 3 × Packet

/-- The answers that deliver a packet. -/
def packetAnswers (som eom : Bool) (seq : Nat) (d : Delivery) : List (Option Bytes) :=
  List.replicate d.1 none ++ [some (d.2.bytes som eom seq)]

/-- The answers that deliver the later packets of a message, numbered from `seq` on. -/
def continuationAnswers : Nat → List Delivery → List (Option Bytes)
  | _, [] => []
  | seq, d :: ds => packetAnswers false ds.isEmpty seq d ++ continuationAnswers (seq + 1) ds

/-- The answers that deliver a message: its first packet, numbered `seq`, and the later ones. -/
def messageAnswers (seq : Nat) (first : Delivery) (rest : List Delivery) : List (Option Bytes) :=
  packetAnswers true rest.isEmpty seq first ++ continuationAnswers (seq + 1) rest

/-- The first packet with its header, and the bodies of the later ones. -/
def messageFrame (seq : Nat) (first : Delivery) (rest : List Delivery) : Bytes :=
  first.2.head true rest.isEmpty seq ++ (rest.map fun d => d.2.body).flatten

/-- The frames of the later packets. -/
def continuationFrames : Nat → List Delivery → List Frame
  | _, [] => []
  | seq, d :: ds => d.2.frame false ds.isEmpty seq :: continuationFrames (seq + 1) ds

/-- The frames of a message. -/
def messageFrames (seq : Nat) (first : Delivery) (rest : List Delivery) : List Frame :=
  first.2.frame true rest.isEmpty seq :: continuationFrames (seq + 1) rest

/-- Fewer failed reads than tries: the packet is delivered. -/
theorem deliver_packetAnswers {n k : Nat} (hk : k < n) (bs : Bytes)
    (reads : Stream' (Option Bytes)) :
    deliver n ((List.replicate k none ++ [some bs]) ++ₛ reads) = (some (freshFrame bs), reads) := by
  induction k generalizing n with
  | zero =>
    obtain ⟨n, rfl⟩ : ∃ i, n = i + 1 := ⟨n - 1, by omega⟩
    rfl
  | succ k ih =>
    obtain ⟨n, rfl⟩ : ∃ i, n = i + 1 := ⟨n - 1, by omega⟩
    exact ih (by omega)

theorem delivers_packetAnswers {som eom : Bool} {seq : Nat} {d : Delivery} {fs : List Frame}
    {reads : Stream' (Option Bytes)} (h : Delivers reads fs) :
    Delivers (packetAnswers som eom seq d ++ₛ reads) (d.2.frame som eom seq :: fs) := by
  have hd := deliver_packetAnswers d.1.isLt (d.2.bytes som eom seq) reads
  refine ⟨congrArg Prod.fst hd, ?_⟩
  rw [show (deliver maxNumRetries (packetAnswers som eom seq d ++ₛ reads)).2 = reads from
    congrArg Prod.snd hd]
  exact h

theorem delivers_continuationAnswers (seq : Nat) (ds : List Delivery)
    (reads : Stream' (Option Bytes)) :
    Delivers (continuationAnswers seq ds ++ₛ reads) (continuationFrames seq ds) := by
  induction ds generalizing seq with
  | nil => trivial
  | cons d ds ih =>
    rw [continuationAnswers, continuationFrames, Stream'.append_append_stream]
    exact delivers_packetAnswers (ih (seq + 1))

/-- The answers of a message deliver its frames. -/
theorem delivers_messageAnswers (seq : Nat) (first : Delivery) (rest : List Delivery)
    (reads : Stream' (Option Bytes)) :
    Delivers (messageAnswers seq first rest ++ₛ reads) (messageFrames seq first rest) := by
  rw [messageAnswers, messageFrames, Stream'.append_append_stream]
  exact delivers_packetAnswers (delivers_continuationAnswers (seq + 1) rest reads)

@[simp] theorem length_continuationFrames (seq : Nat) (ds : List Delivery) :
    (continuationFrames seq ds).length = ds.length := by
  induction ds generalizing seq with
  | nil => rfl
  | cons d ds ih => rw [continuationFrames, List.length_cons, ih, List.length_cons]

/-- Every frame of a message is the frame of a packet. -/
theorem packet_of_mem_continuationFrames {seq : Nat} {ds : List Delivery} {f : Frame}
    (h : f ∈ continuationFrames seq ds) : ∃ p : Packet, ∃ eom n, f = p.frame false eom n := by
  induction ds generalizing seq with
  | nil => cases h
  | cons d ds ih =>
    rw [continuationFrames] at h
    rcases List.mem_cons.mp h with rfl | h
    · exact ⟨d.2, _, _, rfl⟩
    · exact ih h

theorem fragments_continuationFrames (seq : Nat) (ds : List Delivery) :
    (continuationFrames seq ds).map Frame.fragment =
      continuations 4 seq (ds.map fun d => d.2.body) := by
  induction ds generalizing seq with
  | nil => rfl
  | cons d ds ih =>
    rw [continuationFrames, List.map_cons, ih, Packet.fragment_frame_later, List.map_cons,
      continuations, List.isEmpty_map]

/-- **The frames of a message are its fragments**, numbered modulo four. -/
theorem fragments_messageFrames (seq : Nat) (first : Delivery) (rest : List Delivery) :
    (messageFrames seq first rest).map Frame.fragment =
      fragments 4 seq (first.2.head true rest.isEmpty seq) (rest.map fun d => d.2.body) := by
  rw [messageFrames, List.map_cons, fragments_continuationFrames, Packet.fragment_frame_first,
    fragments, List.isEmpty_map]

/-- **Reassembly undoes fragmentation.** Let the answers be the packets of a message of at least 13
and at most 8192 bytes, numbered from any `seq` on modulo four, with at most two failed reads
before each. Then the receiver, in whatever state, succeeds with the first packet followed by the
bodies of the later ones. -/
theorem rxMultiPartData_reassembles (s : Pldm) (seq : Nat) (first : Delivery)
    (rest : List Delivery) (reads : Stream' (Option Bytes)) (fuel : Nat)
    (hreads : s.reads = messageAnswers seq first rest ++ₛ reads)
    (hmin : 13 ≤ (messageFrame seq first rest).length)
    (hmax : (messageFrame seq first rest).length ≤ 8192) (hfuel : rest.length + 1 ≤ fuel) :
    ∃ t, rxMultiPartData fuel s = (.ret pldmSuccess, t) ∧
      t.ft.mRxAssembledFrame = messageFrame seq first rest ∧
      t.ft.mRxAssembledPayload = (messageFrame seq first rest).drop 12 := by
  have hdeliver : Delivers s.cleared.reads (messageFrames seq first rest) := by
    rw [show s.cleared.reads = messageAnswers seq first rest ++ₛ reads from hreads]
    exact delivers_messageAnswers seq first rest reads
  have hpacket (f : Frame) (hf : f ∈ messageFrames seq first rest) :
      f.IsPacket ∧ f.StaysInside := by
    rw [messageFrames] at hf
    rcases List.mem_cons.mp hf with rfl | hf
    · exact ⟨Packet.isPacket_frame .., Packet.staysInside_frame ..⟩
    · obtain ⟨p, eom, n, rfl⟩ := packet_of_mem_continuationFrames hf
      exact ⟨Packet.isPacket_frame .., Packet.staysInside_frame ..⟩
  have hbuf : assemble 4 maxAssembledFrameBytes (assembly ⟨0, false⟩ s.cleared)
      ((messageFrames seq first rest).map Frame.fragment) =
        some (messageFrame seq first rest) := by
    rw [fragments_messageFrames]
    refine assemble_fragments ?_
    rwa [← List.length_append]
  have hcount : (messageFrames seq first rest).length ≤ fuel := by
    rw [messageFrames, List.length_cons, length_continuationFrames]
    exact hfuel
  obtain ⟨u, hloop, hu⟩ := loop_rxTurn_assembles hdeliver hpacket hbuf hcount
  have hlong : payloadStart < u.ft.mRxAssembledFrame.length := by rw [hu]; exact hmin
  refine ⟨u.rxFinished, ?_, hu, congrArg (List.drop 12) hu⟩
  rw [rxMultiPartData_apply, andThen, chain, bind_of_ret hloop, if_pos rfl, rxFinish_apply,
    if_pos hlong]

/-- A packet with a body of seven bytes. -/
def samplePacket : Packet where
  srcSlaveAddr := 0x41
  hdrVersion := 0x01
  destEpid := 0x07
  srcEpid := 0x00
  tag := 0x08
  body := [0x01, 0x00, 0x07, 0x01, 0x00, 0x34, 0x12]
  trailer := [0xAA]
  fits := by decide

/-- The message cut into three packets, numbered 2, 3 and 0, with three failed reads between. -/
theorem rxMultiPartData_reassembles_sample :
    ∃ t, rxMultiPartData 3 (Pldm.init (messageAnswers 2 (2, samplePacket)
        [(0, samplePacket), (1, samplePacket)] ++ₛ Stream'.const none) (Stream'.const true)) =
        (.ret pldmSuccess, t) ∧
      t.ft.mRxAssembledFrame =
        messageFrame 2 (2, samplePacket) [(0, samplePacket), (1, samplePacket)] ∧
      t.ft.mRxAssembledPayload =
        (messageFrame 2 (2, samplePacket) [(0, samplePacket), (1, samplePacket)]).drop 12 :=
  rxMultiPartData_reassembles _ 2 (2, samplePacket) [(0, samplePacket), (1, samplePacket)]
    (Stream'.const none) 3 rfl (by decide) (by decide) (by decide)

end XpuManager
