import XpuManager.Lib.Checksum
import XpuManager.Amc.Crc8
import XpuManager.Amc.MctpControl
import XpuManager.Amc.FileTransferSteps
import XpuManager.Amc.FwUpdateData
import XpuManager.Amc.PdrExchange

/-! # The CRC of a frame

Where the builders put the CRC of a request and what they compute it over. -/

namespace XpuManager

open Prog

/-! ## The CRC of a message with a tail -/

/-- The table has no entry twice. -/
theorem crc8Lut_inj {c d : UInt8} : crc8Lut.getD c.toNat 0 = crc8Lut.getD d.toNat 0 ↔ c = d := by
  refine ⟨fun h => ?_, fun h => h ▸ rfl⟩
  have hfeed := congrArg UInt8.toBitVec h
  rw [crc8Lut_eq, crc8Lut_eq] at hfeed
  exact UInt8.toBitVec_inj.mp (Crc.feed_injective (by decide) _ hfeed)

/-- Where the table holds the two CRCs that zeros leave alone. -/
theorem crc8Lut_eq_iff (c : UInt8) : (crc8Lut.getD c.toNat 0 = 0x00 ↔ c = 0x00) ∧
    (crc8Lut.getD c.toNat 0 = 0xFD ↔ c = 0xFD) := by
  have hzero : crc8Lut.getD (0x00 : UInt8).toNat 0 = 0x00 := by decide
  have hfd : crc8Lut.getD (0xFD : UInt8).toNat 0 = 0xFD := by decide
  constructor
  · conv_lhs => rw [← hzero]
    exact crc8Lut_inj
  · conv_lhs => rw [← hfd]
    exact crc8Lut_inj

theorem messageBits_zeros (n : Nat) :
    messageBits (List.replicate n 0) = List.replicate (n * 8) false := by
  induction n with
  | zero => rfl
  | succ n ih =>
    have hbits : messageBits (0 :: List.replicate n 0) =
        byteBits 0 ++ messageBits (List.replicate n 0) := List.flatMap_cons
    rw [List.replicate_succ, hbits, ih, show byteBits 0 = List.replicate 8 false by decide,
      List.replicate_append_replicate, Nat.succ_mul, Nat.add_comm 8]

/-- **The CRCs that zeros leave alone.** As 127 zero bits leave every register alone, only the
number of zeros modulo 127 counts. -/
theorem crc8Smbus_zeros_iff (body : Bytes) {n : Nat} (hn : n.Coprime 127) :
    crc8Smbus (body ++ List.replicate n 0) = crc8Smbus body ↔
      crc8Smbus body = 0x00 ∨ crc8Smbus body = 0xFD := by
  have hall := @Crc.feed_zeros_eq_self 8 crc8Poly 127 (by decide +kernel)
  have hfixed : ∀ c : BitVec 8, Crc.feedBit crc8Poly c false = c ↔ c = 0x00#8 ∨ c = 0xFD#8 := by
    decide
  rw [crc8Smbus_append, ← UInt8.toBitVec_inj, toBitVec_foldl_crc8Step, messageBits_zeros,
    Crc.feed_zeros_eq_self_iff hall (hn.mul_left (by decide)), hfixed]
  exact or_congr UInt8.toBitVec_inj UInt8.toBitVec_inj

/-- The CRC of zeros is zero. -/
theorem crc8Smbus_zeros (n : Nat) : crc8Smbus (List.replicate n 0) = 0 := by
  induction n with
  | zero => rfl
  | succ n ih =>
    rw [List.replicate_succ', crc8Smbus_append, ih]
    rfl

/-! ## The CRC in the write frame -/

/-- The payload of the write frame is `content`, but for the CRC of its first `k` bytes, which is at
index `i`. -/
def Stores (i k : Nat) (content : Bytes) (t : Pldm) : Prop :=
  ∃ g : Frame, StoredAt crc8Smbus payloadStart i k g t.mI2cPldmWrite ∧
    g.slice payloadStart content.length = content

/-- The bytes handed to the bus end with the CRC of the payload in front of it, which is the CRC at
`respPayload[i]`. -/
abbrev ClosedByCrc (i : Nat) (bs : Bytes) : Prop := ClosedBy crc8Smbus 11 i bs

/-- **When the bytes handed to the bus are closed.** -/
theorem Stores.closed_iff {i k size : Nat} {content : Bytes} {t : Pldm}
    (h : Stores i k content t) (hi : i ≤ content.length) (hk : k ≤ content.length)
    (hroom : i < payloadSize) : ClosedByCrc i (t.mI2cPldmWrite.slice 1 size) ↔
      size = 12 + i ∧ crc8Smbus (content.take k) = crc8Smbus (content.take i) := by
  obtain ⟨g, hstored, hcontent⟩ := h
  have hroom' : i < 128 := hroom
  have hclosed := @StoredAt.closedBy_iff_content _ 1 11 i k size _ _ _ content hstored hcontent hi hk
    (show 1 + 11 + i < 140 by omega)
  rwa [show 11 + i + 1 = 12 + i by omega] at hclosed

/-- A step that leaves the payload of the write frame, and everything outside the frame. -/
def KeepsPayload (s t : Pldm) : Prop :=
  OnlyFrame s t ∧ ∀ j, t.mI2cPldmWrite.byte (payloadStart + j) =
    s.mI2cPldmWrite.byte (payloadStart + j)

instance : Std.Refl KeepsPayload := ⟨fun s => ⟨Std.Refl.refl s, fun _ => rfl⟩⟩

instance : IsTrans Pldm KeepsPayload where
  trans _ _ _ h h' := ⟨IsTrans.trans _ _ _ h.1 h'.1, fun j => (h'.2 j).trans (h.2 j)⟩

theorem Stores.keepsPayload {i k : Nat} {content : Bytes} {s t : Pldm} (h : Stores i k content s)
    (hkeeps : KeepsPayload s t) : Stores i k content t := by
  obtain ⟨g, hstored, hcontent⟩ := h
  exact ⟨g, hstored.congr hkeeps.2, hcontent⟩

/-- Headers lie in front of the payload. -/
theorem keepsPayload_modifyWrite {off : Nat} {bs : Frame → Bytes}
    (h : ∀ f, off + (bs f).length ≤ payloadStart) :
    Within KeepsPayload (modifyWrite fun f => f.overlay off (bs f)) :=
  fun _ => ⟨⟨_, rfl⟩, fun _ => Buf.byte_overlay_of_ge (Nat.le_add_right_of_le (h _))⟩

theorem keepsPayload_messageHeaders (cmdType cmd size id reqresp : UInt8) :
    Within KeepsPayload (messageHeaders cmdType cmd size id reqresp) := by
  refine Within.bind (Within.bind Within.get fun _ => Within.bind ?_ fun _ => Within.pure _)
    fun _ => Within.bind ?_ fun _ => Within.ite (Within.pure _) (Within.ite (Within.pure _)
      (Within.bind ?_ fun _ => Within.pure _))
  · exact keepsPayload_modifyWrite fun _ => show 9 ≤ 12 by decide
  · exact keepsPayload_modifyWrite fun _ => show 9 ≤ 12 by decide
  · exact keepsPayload_modifyWrite fun _ => show 12 ≤ 12 by decide

/-- Headers that were built. -/
theorem keepsPayload_of_headers {cmdType cmd size id reqresp r : UInt8} {s t : Pldm}
    (h : messageHeaders cmdType cmd size id reqresp s = (.ret r, t)) : KeepsPayload s t := by
  have hkeeps := keepsPayload_messageHeaders cmdType cmd size id reqresp s
  rwa [h] at hkeeps

/-! ## How the builders end -/

/-- A copy that returned stayed inside the payload. -/
theorem payloadCopy_eq_ret {i : Nat} {bs : Bytes} {s t : Pldm}
    (h : payloadCopy i bs s = (.ret (), t)) : i + bs.length ≤ payloadSize ∧
      t = { s with mI2cPldmWrite := s.mI2cPldmWrite.overlay (payloadStart + i) bs } := by
  by_cases hi : i + bs.length ≤ payloadSize
  · rw [payloadCopy_returns hi] at h
    exact ⟨hi, (Prod.mk.inj h).2.symm⟩
  · rw [payloadCopy, if_neg hi] at h
    simp at h

/-- A CRC that was stored was computed and put inside the payload. -/
theorem payloadSetCrc_eq_ret {i : Nat} {len : Int} {s t : Pldm}
    (h : payloadSetCrc i len s = (.ret (), t)) : i < payloadSize ∧ len.toNat ≤ payloadSize ∧
      t = { s with mI2cPldmWrite := s.mI2cPldmWrite.setByte (payloadStart + i)
                     (crc8Smbus (s.mI2cPldmWrite.slice payloadStart len.toNat)) } := by
  obtain ⟨crc, u, hcrc, hset⟩ := bind_eq_ret_iff.mp h
  rw [payloadCrc, get_bind_apply] at hcrc
  split at hcrc
  case isTrue hlen =>
    obtain ⟨hc, rfl⟩ := Prod.mk.inj hcrc
    obtain ⟨hi, rfl⟩ := payloadCopy_eq_ret hset
    rw [Outcome.ret.inj hc]
    exact ⟨hi, Int.toNat_le.mpr hlen.2, rfl⟩
  case isFalse => simp at hcrc

/-- Copy `bytes` to the start of the payload and put the CRC of the first `len` bytes at index
`i`. -/
def copyCrc (bytes : Bytes) (i : Nat) (len : Int) : Prog Pldm UInt8 := do
  payloadCopy 0 bytes
  payloadSetCrc i len
  pure pldmSuccess

/-- The CRC of what the payload holds. -/
theorem stores_payloadSetCrc {content : Bytes} {i : Nat} {len : Int} {s t : Pldm}
    (h : payloadSetCrc i len s = (.ret (), t))
    (hcontent : s.mI2cPldmWrite.slice payloadStart content.length = content) :
    Stores i len.toNat content t := by
  obtain ⟨-, -, rfl⟩ := payloadSetCrc_eq_ret h
  exact ⟨s.mI2cPldmWrite, fun _ => rfl, hcontent⟩

/-- What the payload holds behind its first `j` bytes. -/
def Pldm.stale (s : Pldm) (j m : Nat) : Bytes := s.mI2cPldmWrite.slice (payloadStart + j) m

/-- What was copied to the start of the payload, and what it held behind that. -/
theorem slice_payloadCopy {bytes : Bytes} {s t : Pldm} (h : payloadCopy 0 bytes s = (.ret (), t))
    (m : Nat) : t.mI2cPldmWrite.slice payloadStart (bytes ++ s.stale bytes.length m).length =
      bytes ++ s.stale bytes.length m := by
  obtain ⟨hroom, rfl⟩ := payloadCopy_eq_ret h
  have hroom' : 0 + bytes.length ≤ 128 := hroom
  rw [List.length_append, Pldm.stale, Buf.length_slice]
  exact Buf.slice_overlay_add (show 12 + bytes.length ≤ 140 by omega) m

/-- A copy into the middle of what the payload holds. -/
theorem slice_payloadCopy_middle {before old after bytes : Bytes} {s t : Pldm}
    (h : payloadCopy before.length bytes s = (.ret (), t)) (hold : old.length = bytes.length)
    (hcontent : s.mI2cPldmWrite.slice payloadStart (before ++ old ++ after).length =
      before ++ old ++ after) :
    t.mI2cPldmWrite.slice payloadStart (before ++ bytes ++ after).length =
      before ++ bytes ++ after := by
  obtain ⟨hroom, rfl⟩ := payloadCopy_eq_ret h
  have hroom' : before.length + bytes.length ≤ 128 := hroom
  simp only [List.length_append, hold, Buf.slice_add] at hcontent ⊢
  obtain ⟨hinit, hafter⟩ := List.append_inj hcontent (by simp [hold])
  obtain ⟨hbefore, -⟩ := List.append_inj hinit (by simp)
  have hfront : (s.mI2cPldmWrite.overlay (payloadStart + before.length) bytes).slice payloadStart
      before.length = before := by
    conv_rhs => rw [← hbefore]
    exact Buf.slice_congr fun k hk => Buf.byte_overlay_of_lt (by omega)
  have hback : (s.mI2cPldmWrite.overlay (payloadStart + before.length) bytes).slice
      (payloadStart + (before.length + bytes.length)) after.length = after := by
    conv_rhs => rw [← hafter]
    exact Buf.slice_congr fun k hk => Buf.byte_overlay_of_ge (by omega)
  rw [hfront, hback,
    Buf.slice_overlay (show 12 + before.length + bytes.length ≤ 140 by omega)]

/-- What lies behind the start of a cleared payload. -/
theorem stale_payloadZero {z j m : Nat} {s t : Pldm} (h : payloadZero z s = (.ret (), t))
    (hm : j + m ≤ z) : t.stale j m = List.replicate m 0 := by
  obtain ⟨hroom, rfl⟩ := payloadCopy_eq_ret h
  have hroom' : 0 + z ≤ 128 := by simpa using hroom
  refine List.ext_getElem (by simp [Pldm.stale]) fun k hk _ => ?_
  have hk' : k < m := by simpa [Pldm.stale] using hk
  simp only [Pldm.stale]
  rw [Buf.getElem_slice, Buf.byte_overlay_of_mem (show 12 + j + k < 140 by omega)
    (show 12 + 0 ≤ 12 + j + k by omega)
    (by rw [List.length_replicate]; exact show 12 + j + k < 12 + 0 + z by omega)]
  simp

/-- **The end of a builder.** The CRC covers the bytes copied and, if it reaches further, what the
payload held behind them. -/
theorem stores_copyCrc {bytes : Bytes} {i : Nat} {len : Int} {s t : Pldm}
    (h : copyCrc bytes i len s = (.ret pldmSuccess, t)) (m : Nat) :
    Stores i len.toNat (bytes ++ s.stale bytes.length m) t := by
  obtain ⟨⟨⟩, u, hcopy, hrest⟩ := bind_eq_ret_iff.mp h
  obtain ⟨⟨⟩, v, hcrc, hpure⟩ := bind_eq_ret_iff.mp hrest
  obtain rfl : v = t := (Prod.mk.inj hpure).2
  exact stores_payloadSetCrc hcrc (slice_payloadCopy hcopy m)

/-- The end of a builder that cleared the payload first. -/
theorem stores_zero_copyCrc {bytes : Bytes} {z i : Nat} {len : Int} {s t : Pldm}
    (h : (payloadZero z >>= fun _ => copyCrc bytes i len) s = (.ret pldmSuccess, t)) {m : Nat}
    (hm : bytes.length + m ≤ z) : Stores i len.toNat (bytes ++ List.replicate m 0) t := by
  obtain ⟨⟨⟩, u, hzero, hrest⟩ := bind_eq_ret_iff.mp h
  rw [← stale_payloadZero hzero hm]
  exact stores_copyCrc hrest m

/-- A request without a payload: the CRC of zeros. -/
theorem stores_zeros {z : Nat} {len : Int} {s t : Pldm}
    (h : copyCrc (List.replicate z 0) 0 len s = (.ret pldmSuccess, t)) :
    Stores 0 len.toNat (List.replicate z 0) t := by
  have hstores := stores_copyCrc h 0
  rwa [Pldm.stale, show ∀ (f : Frame) (off : Nat), f.slice off 0 = [] from fun _ _ => rfl,
    List.append_nil] at hstores

end XpuManager
