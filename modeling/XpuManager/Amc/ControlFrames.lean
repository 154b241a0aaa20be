import XpuManager.Amc.FrameClosing

/-! # The frames of MCTP control

The control commands, and whether the last byte of their requests is the CRC of the payload. -/

namespace XpuManager

open Prog

/-! ## The frames -/

/-- The requests of the control protocol. -/
inductive MctpFrame where
  | setEndpointId
  | getEndpointId
  | getEndpointUuid
  | getVersion
  | getMessageType

/-- The endpoint ID that SetEndpointID sends. -/
def Mctp.sentEid (s : Mctp) : UInt8 := if s.mDestEid = 0 then s.mDestNewEid else s.mDestEid

namespace MctpFrame

/-- The command code of a frame. -/
def cmd : MctpFrame → UInt8
  | setEndpointId => mctpSetEndpointId
  | getEndpointId => mctpGetEndpointId
  | getEndpointUuid => mctpGetEndpointUuid
  | getVersion => mctpGetVersion
  | getMessageType => mctpGetMessageType

/-- The length that is passed for a frame. -/
def size : MctpFrame → UInt8
  | setEndpointId => mctpSetEidCmdSize
  | getEndpointId => mctpGetEidCmdSize
  | getEndpointUuid => mctpGetEidUuidCmdSize
  | getVersion => mctpGetVersionSize
  | getMessageType => mctpGetMsgTypeSize

/-- The function that sends the frame. -/
def send (frame : MctpFrame) : Prog Mctp UInt8 := command frame.cmd frame.size

/-- The index of `respPayload` at which the source stores the CRC of the frame. -/
def crcIndex : MctpFrame → Nat
  | setEndpointId => 2
  | getVersion => 1
  | getEndpointId | getEndpointUuid | getMessageType => 0

/-- The condition under which the frame ends with its CRC: the CRC of SetEndpointID is also computed
over the zeros behind the message. -/
def Closes (s : Mctp) : MctpFrame → Prop
  | setEndpointId => s.sentEid = 0x00 ∨ s.sentEid = 0xFD
  | getEndpointId | getEndpointUuid | getVersion | getMessageType => True

end MctpFrame

/-- The bytes handed to the bus end with the CRC of the payload in front of it, which is the CRC at
`respPayload[i]`. -/
abbrev ControlClosedByCrc (i : Nat) (bs : Bytes) : Prop := ClosedBy crc8Smbus 10 i bs

/-- Everything that a run from `s` to `t` hands to the bus has the property `P`. -/
def ControlSends (P : Bytes → Prop) (s t : Mctp) : Prop :=
  ∃ evs, t.trace = s.trace ++ evs ∧ ∀ bs ok, .write bs ok ∈ evs → P bs

section ControlSends

variable {P : Bytes → Prop}

instance : Std.Refl (ControlSends P) := ⟨fun _ => ⟨[], (List.append_nil _).symm, by simp⟩⟩

instance : IsTrans Mctp (ControlSends P) where
  trans _ _ _ h h' := by
    obtain ⟨evs, htrace, hevs⟩ := h
    obtain ⟨evs', htrace', hevs'⟩ := h'
    refine ⟨evs ++ evs', by rw [htrace', htrace, List.append_assoc], fun bs ok hmem => ?_⟩
    rcases List.mem_append.mp hmem with hmem | hmem
    · exact hevs bs ok hmem
    · exact hevs' bs ok hmem

/-- A step that adds no event sends nothing. -/
theorem controlSends_modify {g : Mctp → Mctp} (h : ∀ s, (g s).trace = s.trace) :
    Within (ControlSends P) (Prog.modify g) :=
  fun s => ⟨[], by rw [List.append_nil]; exact h s, by simp⟩

theorem controlSends_getRespPayload (cmd id : UInt8) :
    Within (ControlSends P) (getRespPayload cmd id) :=
  Within.bind (controlSends_modify fun _ => rfl) fun _ => Within.bind Within.get fun _ =>
    Within.pure _

theorem controlSends_controlResponse (cmd id : UInt8) :
    Within (ControlSends P) (controlResponse cmd id) := by
  have hpayload := controlSends_getRespPayload (P := P) cmd id
  have hset (g : Mctp → Mctp) (hg : ∀ s, (g s).trace = s.trace) : Within (ControlSends P)
      (Prog.modify g >>= fun _ => pure mctpSuccess) :=
    Within.bind (controlSends_modify hg) fun _ => Within.pure _
  refine Within.ite ?_ (Within.ite ?_ (Within.ite hpayload (Within.pure _)))
  · exact Within.bind hpayload fun _ => Within.ite (hset _ fun _ => rfl) (Within.pure _)
  · exact Within.bind hpayload fun _ => Within.ite (hset _ fun _ => rfl) (Within.pure _)

/-- Taking the response sends nothing. -/
theorem controlSends_controlReceive (cmd : UInt8) :
    Within (ControlSends P) (controlReceive cmd) := by
  have hread : Within (ControlSends P) controlReadAmc := Within.bind Within.get fun _ =>
    Within.bind (fun _ => ⟨[.read _], rfl, by simp⟩) fun _ => Within.pure _
  refine Within.bind hread fun _ => Within.ite (Within.pure _) ?_
  exact Within.bind Within.get fun _ => Within.bind (controlSends_controlResponse cmd _) fun _ =>
    Within.ite (Within.pure _) (Within.bind (controlSends_modify fun _ => rfl) fun _ =>
      Within.pure _)

end ControlSends

/-! ## The payloads -/

/-- The payload of the write frame is `content`, but for the CRC of its first `k` bytes, which is at
index `i`. -/
def ControlStores (i k : Nat) (content : Bytes) (f : ControlFrame) : Prop :=
  ∃ g : ControlFrame, StoredAt crc8Smbus controlPayloadStart i k g f ∧
    g.slice controlPayloadStart content.length = content

theorem ControlStores.closes {i k size : Nat} {content : Bytes} {f : ControlFrame} {C : Prop}
    (h : ControlStores i k content f) (hsize : size = 11 + i) (hi : i ≤ content.length)
    (hk : k ≤ content.length) (hroom : i < payloadSize)
    (hC : crc8Smbus (content.take k) = crc8Smbus (content.take i) ↔ C) :
    ControlClosedByCrc i (f.slice 1 size) ↔ C := by
  obtain ⟨g, hstored, hcontent⟩ := h
  have hroom' : i < 128 := hroom
  have hclosed := @StoredAt.closedBy_iff_content _ 1 10 i k size _ _ _ content hstored hcontent hi hk
    (show 1 + 10 + i < 139 by omega)
  rw [ControlClosedByCrc, hclosed, and_iff_right (show size = 10 + i + 1 by omega), hC]

theorem controlPayloadCopy_returns {i : Nat} {bs : Bytes} (h : i + bs.length ≤ payloadSize)
    (s : Mctp) : controlPayloadCopy i bs s =
      (.ret (), { s with mI2cMctpWrite := s.mI2cMctpWrite.overlay (controlPayloadStart + i) bs }) := by
  rw [controlPayloadCopy, if_pos h]
  rfl

theorem controlPayloadSetCrc_returns {i : Nat} {len : Int} (hi : i < payloadSize) (h₀ : 0 ≤ len)
    (h : len ≤ payloadSize) (s : Mctp) :
    controlPayloadSetCrc i len s =
      (.ret (), { s with mI2cMctpWrite := s.mI2cMctpWrite.setByte (controlPayloadStart + i)
                           (crc8Smbus (s.mI2cMctpWrite.slice controlPayloadStart len.toNat)) }) := by
  rw [controlPayloadSetCrc, get_bind_apply, if_pos ⟨h₀, h⟩]
  exact controlPayloadCopy_returns hi s

/-- The payload that a message is put in front of. -/
theorem slice_zero_overlay (f : ControlFrame) {bytes : Bytes} {z m : Nat}
    (hz : z = bytes.length + m) (hroom : z ≤ payloadSize) :
    ((f.overlay controlPayloadStart (List.replicate z 0)).overlay controlPayloadStart bytes).slice
      controlPayloadStart (bytes ++ List.replicate m 0).length = bytes ++ List.replicate m 0 := by
  have hroom' : z ≤ 128 := hroom
  rw [List.length_append, List.length_replicate,
    Buf.slice_overlay_add (show 11 + bytes.length ≤ 139 by omega)]
  congr 1
  refine List.ext_getElem (by simp) fun k hk _ => ?_
  have hk' : k < m := by simpa using hk
  rw [Buf.getElem_slice, Buf.byte_overlay_of_mem (show 11 + bytes.length + k < 139 by omega)
    (show 11 ≤ 11 + bytes.length + k by omega)
    (by rw [List.length_replicate]; exact show 11 + bytes.length + k < 11 + z by omega)]
  simp

/-- The message of a request. -/
def Mctp.controlMessage (s : Mctp) : MctpFrame → Bytes
  | .setEndpointId => [0x00, s.sentEid]
  | .getVersion => [0x00]
  | .getEndpointId | .getEndpointUuid | .getMessageType => []

/-- **The payload.** It is cleared, the message put in front, and the CRC of all but the last of
these bytes stored behind the message. -/
theorem fillPayload_stores (frame : MctpFrame) (s : Mctp) :
    ∃ f, fillPayload frame.cmd frame.size s = (.ret mctpSuccess, { s with mI2cMctpWrite := f }) ∧
      ControlStores frame.crcIndex (frame.size.toNat - 1)
        (s.controlMessage frame ++ List.replicate 11 0) f := by
  have hzero (z : Nat) (hz : 0 + (List.replicate z (0 : UInt8)).length ≤ payloadSize) :=
    @controlPayloadCopy_returns 0 (List.replicate z 0) hz s
  -- the frame in front of the CRC
  let cleared := s.mI2cMctpWrite.overlay controlPayloadStart (List.replicate frame.size.toNat 0)
  cases frame with
  | setEndpointId =>
    refine ⟨_, ?_, cleared.overlay controlPayloadStart [0x00, s.sentEid], fun _ => rfl,
      slice_zero_overlay s.mI2cMctpWrite (z := 13) (m := 11) rfl (by decide)⟩
    rw [fillPayload, bind_of_ret (hzero _ (by decide)), get_bind_apply,
      if_pos (by decide),
      bind_of_ret (controlPayloadCopy_returns (show 0 + 2 ≤ payloadSize by decide) _),
      bind_of_ret (controlPayloadSetCrc_returns (by decide) (by decide) (by decide) _)]
    rfl
  | getVersion =>
    refine ⟨_, ?_, cleared.overlay controlPayloadStart [0x00], fun _ => rfl,
      slice_zero_overlay s.mI2cMctpWrite (z := 12) (m := 11) rfl (by decide)⟩
    rw [fillPayload, bind_of_ret (hzero _ (by decide)), get_bind_apply, if_neg (by decide),
      if_neg (by decide), if_pos (by decide),
      bind_of_ret (controlPayloadCopy_returns (by decide) _),
      bind_of_ret (controlPayloadSetCrc_returns (by decide) (by decide) (by decide) _)]
    rfl
  | getEndpointId | getEndpointUuid | getMessageType =>
    have hcontent := @slice_zero_overlay s.mI2cMctpWrite [] 11 11 rfl
      (by decide)
    rw [Buf.overlay_nil] at hcontent
    refine ⟨_, ?_, cleared, fun _ => rfl, hcontent⟩
    rw [fillPayload, bind_of_ret (hzero _ (by decide)), get_bind_apply, if_neg (by decide),
      if_pos (by decide),
      bind_of_ret (controlPayloadSetCrc_returns (by decide) (by decide) (by decide) _)]
    rfl

/-- The CRC that a request stores is that of its message. -/
theorem crc_controlMessage (frame : MctpFrame) (s : Mctp) :
    crc8Smbus ((s.controlMessage frame ++ List.replicate 11 0).take
        (frame.size.toNat - 1)) =
      crc8Smbus ((s.controlMessage frame ++ List.replicate 11 0).take frame.crcIndex) ↔
        frame.Closes s := by
  cases frame with
  | setEndpointId =>
    have hcrc : crc8Smbus [0x00, s.sentEid] = crc8Lut.getD (0x00 ^^^ s.sentEid).toNat 0 :=
      crc8Smbus_append [0x00] [s.sentEid]
    refine (crc8Smbus_zeros_iff [0x00, s.sentEid] (show Nat.Coprime 10 127 by decide)).trans ?_
    rw [hcrc, UInt8.zero_xor, (crc8Lut_eq_iff _).1, (crc8Lut_eq_iff _).2]
    rfl
  | getVersion => exact iff_of_true ((crc8Smbus_zeros 11).trans (crc8Smbus_zeros 1).symm) trivial
  | getEndpointId | getEndpointUuid | getMessageType =>
    exact iff_of_true ((crc8Smbus_zeros 10).trans (crc8Smbus_zeros 0).symm) trivial

/-! ## The commands -/

/-- The request that is built, and what it leaves of the state. -/
theorem controlRequest_stores (frame : MctpFrame) (s : Mctp) :
    ∃ f id, controlRequest frame.cmd frame.size s =
        (.ret (), { s with mI2cMctpWrite := f, instanceID := id }) ∧
      ControlStores frame.crcIndex (frame.size.toNat - 1)
        (s.controlMessage frame ++ List.replicate 11 0) f := by
  let id := if s.instanceID = mctpInstanceIdMax then 1 else s.instanceID
  obtain ⟨g, hheaders⟩ : ∃ g, (controlCommandConstruction mctpSom mctpEom mctpPakSeq
      (frame.size - 3) mctpIntegrityCheck >>= fun _ => headerConstruction id frame.cmd)
        { s with instanceID := id } =
      (.ret mctpSuccess, { s with instanceID := id, mI2cMctpWrite := g }) := ⟨_, rfl⟩
  obtain ⟨f, hfill, hstores⟩ :=
    fillPayload_stores frame { s with instanceID := id, mI2cMctpWrite := g }
  refine ⟨f, id, ?_, hstores⟩
  obtain ⟨r, t, hr, ht⟩ := bind_eq_ret_iff.mp hheaders
  rw [controlRequest, modify_bind_apply, get_bind_apply, bind_of_ret hr, bind_of_ret ht,
    bind_of_ret hfill]
  rfl

/-- **Every control request** ends with its CRC exactly when its condition holds. -/
theorem MctpFrame.sends (s : Mctp) (frame : MctpFrame) :
    ControlSends (fun bs => ControlClosedByCrc frame.crcIndex bs ↔ frame.Closes s) s
      (frame.send s).2 := by
  obtain ⟨f, id, hrequest, hstores⟩ := controlRequest_stores frame s
  have hlen : frame.size.toNat < controlFrameSize := by cases frame <;> decide
  have hclosed : ControlClosedByCrc frame.crcIndex (f.slice 1 frame.size.toNat) ↔
      frame.Closes s := by
    have hsize : frame.size.toNat = 11 + frame.crcIndex := by cases frame <;> rfl
    have hroom : frame.crcIndex < payloadSize := by cases frame <;> decide
    have hcontent : (s.controlMessage frame ++ List.replicate 11 0).length =
        frame.crcIndex + 11 := by cases frame <;> rfl
    exact hstores.closes hsize (by omega) (by omega) hroom (crc_controlMessage frame s)
  rw [send, command, bind_of_ret hrequest]
  let t : Mctp := { s with mI2cMctpWrite := f, instanceID := id }
  have hwrite : ∃ u, controlWriteAmc frame.size.toNat t = (.ret s.writes.head, u) ∧
      ControlSends (fun bs => ControlClosedByCrc frame.crcIndex bs ↔ frame.Closes s) s u := by
    rw [controlWriteAmc, get_bind_apply, if_pos hlen, modify_bind_apply]
    refine ⟨_, rfl, _, rfl, fun bs ok hmem => ?_⟩
    obtain ⟨rfl, -⟩ := ControlEvent.write.inj (List.mem_singleton.mp hmem)
    exact hclosed
  obtain ⟨u, hu, hsends⟩ := hwrite
  rw [bind_of_ret hu, Prog.ite_apply]
  split
  · exact hsends
  · exact IsTrans.trans _ _ _ hsends (controlSends_controlReceive _ u)

/-! ## Every frame -/

/-- **Every frame the host writes** ends with its CRC exactly when its condition holds: the requests
of the control protocol, and the requests and responses of the object. -/
theorem frames_closed_iff (m : Mctp) (request : MctpFrame) (fuel : Nat) (s : Pldm)
    (frame : PldmFrame) :
    ControlSends (fun bs => ControlClosedByCrc request.crcIndex bs ↔ request.Closes m) m
        (request.send m).2 ∧
      Sends (fun bs => ClosedByCrc (frame.crcIndex s) bs ↔ frame.Closes s) s
        (frame.send fuel s).2 :=
  ⟨request.sends m, frame.sends fuel s⟩

/-- The acknowledgement with the completion code 0x88, sent by an object that has sent nothing
before: its CRC also covers eleven zeros behind the code. -/
theorem acknowledge_not_closed : ¬∀ (fuel : Nat) (s : Pldm) (frame : PldmFrame),
    Sends (ClosedByCrc (frame.crcIndex s)) s (frame.send fuel s).2 := by
  intro h
  let s := Pldm.init (Stream'.const none) (Stream'.const true)
  obtain ⟨f, crc, hrun, -⟩ := respondtoamc_spec commandNotExpected s
  have hwrite : ∀ {P : Bytes → Prop}, Sends P s (respondtoamc commandNotExpected s).2 →
      P (f.slice 1 13) := by
    rintro P ⟨evs, htrace, hevs⟩
    rw [hrun] at htrace
    have heq : [Event.write (f.slice 1 13) s.writes.head] = evs := List.append_cancel_left htrace
    exact hevs _ s.writes.head (by rw [← heq]; exact List.mem_singleton.mpr rfl)
  have hiff := hwrite (sends_acknowledge (s := s) commandNotExpected)
  have hclosed := hwrite (h 0 s (.acknowledge commandNotExpected))
  exact absurd (hiff.mp hclosed) (by unfold Pldm.IgnoresStale; decide)

end XpuManager
