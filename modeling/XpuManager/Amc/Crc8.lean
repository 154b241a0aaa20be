import XpuManager.Lib.Crc
import XpuManager.Amc.Frame

/-! # The SMBus CRC

`crc8Smbus` against the CRC of its documentation, computed bit by bit. -/

namespace XpuManager

/-! ## Bit by bit -/

/-- The polynomial x⁸ + x² + x + 1, without its highest term. -/
abbrev crc8Poly : BitVec 8 := 0x07#8

/-- The bits of a byte, the highest first. -/
def byteBits (d : UInt8) : List Bool := Crc.bitsOf 8 d.toBitVec

/-- The bits of a message. -/
def messageBits (data : Bytes) : List Bool := data.flatMap byteBits

/-- The CRC-8 with the polynomial 0x07 and the initial value 0, without reflection. -/
def crc8Bitwise (data : Bytes) : UInt8 := ⟨Crc.feed crc8Poly 0#8 (messageBits data)⟩

/-! ## The table -/

/-- One byte of the CRC. -/
def crc8Step (crc d : UInt8) : UInt8 := crc8Lut.getD (crc ^^^ d).toNat 0

/-- The CRC of a longer message goes on from that of its beginning. -/
theorem crc8Smbus_append (body tail : Bytes) :
    crc8Smbus (body ++ tail) = tail.foldl crc8Step (crc8Smbus body) := List.foldl_append

/-- **The table.** The entry of a byte is what eight zeros make of it. -/
theorem crc8Lut_eq (c : UInt8) : (crc8Lut.getD c.toNat 0).toBitVec =
    Crc.feed crc8Poly c.toBitVec (List.replicate 8 false) := by
  have htable : crc8Lut = (List.range 256).map fun n =>
      ⟨Crc.feed crc8Poly (BitVec.ofNat 8 n) (List.replicate 8 false)⟩ := by decide +kernel
  have hc : c.toNat < 256 := c.toNat_lt
  rw [htable, List.getD_eq_getElem _ _ (by simpa using hc), List.getElem_map, List.getElem_range]
  exact congrArg (Crc.feed crc8Poly · _) (BitVec.ofNat_toNat 8 c.toBitVec)

/-- A step with the table is eight steps with the bits of the byte. -/
theorem toBitVec_crc8Step (crc d : UInt8) :
    (crc8Step crc d).toBitVec = Crc.feed crc8Poly crc.toBitVec (byteBits d) := by
  rw [crc8Step, crc8Lut_eq, byteBits, Crc.feed_word, UInt8.toBitVec_xor]

/-- The table loop feeds the message bit by bit. -/
theorem toBitVec_foldl_crc8Step (crc : UInt8) (data : Bytes) :
    (data.foldl crc8Step crc).toBitVec = Crc.feed crc8Poly crc.toBitVec (messageBits data) := by
  induction data generalizing crc with
  | nil => rfl
  | cons d data ih =>
    have hbits : messageBits (d :: data) = byteBits d ++ messageBits data := List.flatMap_cons
    rw [List.foldl_cons, ih, toBitVec_crc8Step, hbits, Crc.feed_append]

/-- The table and the bitwise definition agree on every message. -/
theorem crc8Smbus_eq (data : Bytes) : crc8Smbus data = crc8Bitwise data :=
  UInt8.toBitVec_inj.mp (toBitVec_foldl_crc8Step 0x00 data)

/-! ## Errors of one bit -/

/-- A byte with one of its bits changed. -/
theorem byteBits_flip (d : UInt8) (j : Fin 8) : ∃ before b after, byteBits d = before ++ b :: after ∧
    byteBits (d ^^^ 1 <<< UInt8.ofNat j) = before ++ (!b) :: after := by
  have hmask : ∀ j : Fin 8, (1 <<< UInt8.ofNat j : UInt8).toBitVec = 1#8 <<< (8 - 1 - (7 - j.val)) := by
    decide
  have hk : 7 - j.val < (byteBits d).length := by
    rw [byteBits, Crc.length_bitsOf]
    omega
  refine ⟨(byteBits d).take (7 - j), (byteBits d)[7 - j.val], (byteBits d).drop (7 - j + 1), ?_, ?_⟩
  · rw [← List.drop_eq_getElem_cons hk, List.take_append_drop]
  · have hflip := Crc.bitsOf_flip d.toBitVec (k := 7 - j.val) (by omega)
    rw [byteBits, UInt8.toBitVec_xor, hmask, hflip, List.set_eq_take_append_cons_drop,
      if_pos (by rwa [byteBits] at hk)]
    simp only [byteBits, Crc.getElem_bitsOf]

/-- **A change of one bit** changes the CRC. -/
theorem crc8Bitwise_flip (before after : Bytes) (d : UInt8) (j : Fin 8) :
    crc8Bitwise (before ++ (d ^^^ 1 <<< UInt8.ofNat j) :: after) ≠ crc8Bitwise (before ++ d :: after) := by
  obtain ⟨bits, b, bits', hd, hflip⟩ := byteBits_flip d j
  intro h
  have hfeed := congrArg UInt8.toBitVec h
  simp only [crc8Bitwise, messageBits, List.flatMap_append, List.flatMap_cons, hd, hflip,
    List.append_assoc, List.cons_append] at hfeed
  rw [← List.append_assoc, ← List.append_assoc (List.flatMap byteBits before)] at hfeed
  exact Crc.feed_flip (by decide) _ _ _ b hfeed

/-- **The SMBus CRC.** The table computes the CRC bit by bit; a message with its own CRC behind it
has the CRC 0, and changing any single bit of a message changes its CRC. -/
theorem crc8Smbus_bitwise (data : Bytes) :
    crc8Smbus data = crc8Bitwise data ∧ crc8Smbus (data ++ [crc8Smbus data]) = 0 ∧
      ∀ (i : Fin data.length) (j : Fin 8),
        crc8Smbus (data.set i (data[i] ^^^ 1 <<< UInt8.ofNat j)) ≠ crc8Smbus data := by
  refine ⟨crc8Smbus_eq data, ?_, fun i j => ?_⟩
  · rw [crc8Smbus_append, List.foldl_cons, List.foldl_nil, crc8Step, UInt8.xor_self]
    rfl
  · have hsplit : data.take i ++ data[i] :: data.drop (i + 1) = data := by
      rw [Fin.getElem_fin, ← List.drop_eq_getElem_cons i.isLt, List.take_append_drop]
    have hset : data.set i (data[i] ^^^ 1 <<< UInt8.ofNat j) =
        data.take i ++ (data[i] ^^^ 1 <<< UInt8.ofNat j) :: data.drop (i + 1) := by
      rw [List.set_eq_take_append_cons_drop, if_pos i.isLt]
    intro h
    rw [hset, crc8Smbus_eq, crc8Smbus_eq] at h
    exact crc8Bitwise_flip (data.take i) (data.drop (i + 1)) data[i] j
      (h.trans (congrArg crc8Bitwise hsplit.symm))

end XpuManager
