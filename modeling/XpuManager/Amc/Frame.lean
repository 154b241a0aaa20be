import XpuManager.Lib.Bytes

/-! # Frames of the AMC management channel

The 140-byte `i2cdataPldmInfo` frame that the host exchanges with the add-in-card management
controller over SMBus: nine bytes of MCTP header, three bytes of PLDM header and the payload, with
the protocol constants and the SMBus CRC.
-/

namespace XpuManager

/-! ## Protocol constants -/

/-- PLDM completion and status codes. -/
abbrev pldmSuccess : UInt8 := 0x00
abbrev pldmError : UInt8 := 0x01
abbrev pldmErrorInvalidData : UInt8 := 0x02
abbrev pldmErrorUnsupportedPldmCmd : UInt8 := 0x05
abbrev pldmErrorInvalidPldmType : UInt8 := 0x20

@[simp] theorem pldmError_ne_pldmSuccess : pldmError ≠ pldmSuccess := by decide

@[simp] theorem pldmSuccess_ne_pldmError : pldmSuccess ≠ pldmError := by decide

/-- PLDM message types. -/
abbrev pldmMessageDiscovery : UInt8 := 0x00
abbrev pldmPlatformMonitoring : UInt8 := 0x02
abbrev pldmFru : UInt8 := 0x04
abbrev pldmFirmwareUpdate : UInt8 := 0x05
abbrev pldmFileTransfer : UInt8 := 0x07
abbrev pldmOemSpecific : UInt8 := 0x3F

/-- PLDM header fields. -/
abbrev pldmResponse : UInt8 := 0
abbrev pldmRequest : UInt8 := 1
abbrev pldmHeaderVersion : UInt8 := 0
abbrev pldmReserved : UInt8 := 0
abbrev pldmAsyncRequestNotify : UInt8 := 0
abbrev pldmResponseCompletion : UInt8 := 0x00
abbrev pldmInstanceIdMax : UInt8 := 32
abbrev pldmTypesMax : UInt8 := 64
abbrev pldmMaxResponseSize : Nat := 128

/-- MCTP header fields. -/
abbrev mctpSuccess : UInt8 := 0x00
abbrev mctpCmdCode : UInt8 := 0x0F
abbrev mctpHeaderVersion : UInt8 := 0x01
abbrev mctpSrcSlaveAddr : UInt8 := 0x30
abbrev mctpSrcSlaveAddrB0 : UInt8 := 0x01
abbrev mctpDestSlaveAddrB0 : UInt8 := 0x00
abbrev mctpSourceEndpointId : UInt8 := 0x07
abbrev mctpTagOwner : UInt8 := 0x01
abbrev mctpReserved : UInt8 := 0x00
abbrev mctpIntegrityCheck : UInt8 := 0x00
abbrev mctpControl : UInt8 := 0x00
abbrev pldmOverMctp : UInt8 := 0x01
abbrev mctpSom : UInt8 := 1
abbrev mctpEom : UInt8 := 1
abbrev mctpPakSeq : UInt8 := 0
abbrev amcI2cAddr : UInt8 := 0x40

/-- Transfer flags of a multi-part message. -/
abbrev pldmStart : UInt8 := 0x01
abbrev pldmMiddle : UInt8 := 0x02
abbrev pldmEnd : UInt8 := 0x04
abbrev pldmStartAndEnd : UInt8 := 0x05

/-- Transfer operations of a multi-part request. -/
abbrev pldmGetFirstPart : UInt8 := 0x01
abbrev pldmGetNextPart : UInt8 := 0x00
abbrev pldmXferFirstPart : UInt8 := 0x00
abbrev pldmXferNextPart : UInt8 := 0x01

/-! ## The frame -/

abbrev Bytes : Type := List UInt8

/-- `sizeof(mctpSmbusI2cHdr) + sizeof(pldmHdr)`, the offset of `respPayload`. -/
abbrev payloadStart : Nat := 12

/-- `sizeof(respPayload)`. -/
abbrev payloadSize : Nat := 128

/-- `sizeof(i2cdataPldmInfo)`. -/
abbrev frameSize : Nat := 140

/-- An `i2cdataPldmInfo` structure as its bytes in memory order. -/
abbrev Frame : Type := Buf frameSize

namespace Frame

variable (f : Frame)

/-- `mctpSmbusHdr.cmdCode`. -/
def smbusCmdCode : UInt8 := f.byte 1

/-- `mctpSmbusHdr.byteCount`. -/
def byteCount : UInt8 := f.byte 2

/-- `mctpSmbusHdr.packSeq`, bits 4 and 5 of the flag byte. -/
def packSeq : UInt8 := f.byte 7 / 16 % 4

/-- `mctpSmbusHdr.eom`, bit 6 of the flag byte. -/
def eom : UInt8 := f.byte 7 / 64 % 2

/-- `mctpSmbusHdr.som`, bit 7 of the flag byte. -/
def som : UInt8 := f.byte 7 / 128

/-- `pldmHdr.instanceID`, the low five bits. -/
def instanceID : UInt8 := f.byte 9 % 32

/-- `pldmHdr.request`, bit 7. -/
def request : UInt8 := f.byte 9 / 128

/-- `pldmHdr.cmdType`, the low six bits. -/
def cmdType : UInt8 := f.byte 10 % 64

/-- `pldmHdr.cmdCode`. -/
def cmdCode : UInt8 := f.byte 11

/-- `respPayload[i]`. -/
def respPayload (i : Nat) : UInt8 := f.byte (payloadStart + i)

end Frame

/-! ## Frames on the wire

`writeAmc` hands the frame to the bus without its first byte. -/

/-- `pldmHdr.request` of the bytes handed to the bus. -/
def wireRequest (bs : Bytes) : UInt8 := bs.getD 8 0 / 128

/-- `pldmHdr.instanceID` of the bytes handed to the bus. -/
def wireInstanceID (bs : Bytes) : UInt8 := bs.getD 8 0 % 32

/-- `pldmHdr.cmdType` of the bytes handed to the bus. -/
def wireCmdType (bs : Bytes) : UInt8 := bs.getD 9 0 % 64

/-- `pldmHdr.cmdCode` of the bytes handed to the bus. -/
def wireCmdCode (bs : Bytes) : UInt8 := bs.getD 10 0

/-- `respPayload` of the bytes handed to the bus. -/
def wirePayload (bs : Bytes) : Bytes := bs.drop 11

/-- The bytes handed to the bus are a request with this type and command. -/
def isRequest (cmdType cmd : UInt8) (bs : Bytes) : Bool :=
  wireRequest bs == pldmRequest && wireCmdType bs == cmdType && wireCmdCode bs == cmd

/-- Little-endian field of `len` bytes at `respPayload[off]`. -/
def Frame.field (f : Frame) (off len : Nat) : Nat := ofLeBytes (f.slice (payloadStart + off) len)

/-! ## The CRC -/

/-- The look-up table of `crc8Smbus`. -/
def crc8Lut : List UInt8 :=
  [
    0x00, 0x07, 0x0E, 0x09, 0x1C, 0x1B, 0x12, 0x15, 0x38, 0x3F, 0x36, 0x31, 0x24, 0x23, 0x2A, 0x2D,
    0x70, 0x77, 0x7E, 0x79, 0x6C, 0x6B, 0x62, 0x65, 0x48, 0x4F, 0x46, 0x41, 0x54, 0x53, 0x5A, 0x5D,
    0xE0, 0xE7, 0xEE, 0xE9, 0xFC, 0xFB, 0xF2, 0xF5, 0xD8, 0xDF, 0xD6, 0xD1, 0xC4, 0xC3, 0xCA, 0xCD,
    0x90, 0x97, 0x9E, 0x99, 0x8C, 0x8B, 0x82, 0x85, 0xA8, 0xAF, 0xA6, 0xA1, 0xB4, 0xB3, 0xBA, 0xBD,
    0xC7, 0xC0, 0xC9, 0xCE, 0xDB, 0xDC, 0xD5, 0xD2, 0xFF, 0xF8, 0xF1, 0xF6, 0xE3, 0xE4, 0xED, 0xEA,
    0xB7, 0xB0, 0xB9, 0xBE, 0xAB, 0xAC, 0xA5, 0xA2, 0x8F, 0x88, 0x81, 0x86, 0x93, 0x94, 0x9D, 0x9A,
    0x27, 0x20, 0x29, 0x2E, 0x3B, 0x3C, 0x35, 0x32, 0x1F, 0x18, 0x11, 0x16, 0x03, 0x04, 0x0D, 0x0A,
    0x57, 0x50, 0x59, 0x5E, 0x4B, 0x4C, 0x45, 0x42, 0x6F, 0x68, 0x61, 0x66, 0x73, 0x74, 0x7D, 0x7A,
    0x89, 0x8E, 0x87, 0x80, 0x95, 0x92, 0x9B, 0x9C, 0xB1, 0xB6, 0xBF, 0xB8, 0xAD, 0xAA, 0xA3, 0xA4,
    0xF9, 0xFE, 0xF7, 0xF0, 0xE5, 0xE2, 0xEB, 0xEC, 0xC1, 0xC6, 0xCF, 0xC8, 0xDD, 0xDA, 0xD3, 0xD4,
    0x69, 0x6E, 0x67, 0x60, 0x75, 0x72, 0x7B, 0x7C, 0x51, 0x56, 0x5F, 0x58, 0x4D, 0x4A, 0x43, 0x44,
    0x19, 0x1E, 0x17, 0x10, 0x05, 0x02, 0x0B, 0x0C, 0x21, 0x26, 0x2F, 0x28, 0x3D, 0x3A, 0x33, 0x34,
    0x4E, 0x49, 0x40, 0x47, 0x52, 0x55, 0x5C, 0x5B, 0x76, 0x71, 0x78, 0x7F, 0x6A, 0x6D, 0x64, 0x63,
    0x3E, 0x39, 0x30, 0x37, 0x22, 0x25, 0x2C, 0x2B, 0x06, 0x01, 0x08, 0x0F, 0x1A, 0x1D, 0x14, 0x13,
    0xAE, 0xA9, 0xA0, 0xA7, 0xB2, 0xB5, 0xBC, 0xBB, 0x96, 0x91, 0x98, 0x9F, 0x8A, 0x8D, 0x84, 0x83,
    0xDE, 0xD9, 0xD0, 0xD7, 0xC2, 0xC5, 0xCC, 0xCB, 0xE6, 0xE1, 0xE8, 0xEF, 0xFA, 0xFD, 0xF4, 0xF3
  ]

/-- `crc8Smbus`: the table-driven CRC-8 of a byte string, zero for the empty one. -/
def crc8Smbus (data : Bytes) : UInt8 :=
  data.foldl (fun crc d => crc8Lut.getD (crc ^^^ d).toNat 0) 0x00

/-- `bytesToInt`: four bytes, most significant first. -/
def bytesToInt (byte1 byte2 byte3 byte4 : UInt8) : UInt32 :=
  byte1.toUInt32 <<< 24 ||| byte2.toUInt32 <<< 16 ||| byte3.toUInt32 <<< 8 ||| byte4.toUInt32

/-- The four bytes are the digits of the result. -/
theorem toNat_bytesToInt (byte1 byte2 byte3 byte4 : UInt8) :
    (bytesToInt byte1 byte2 byte3 byte4).toNat = ofLeBytes [byte4, byte3, byte2, byte1] := by
  have h₁ := byte1.toNat_lt
  have h₂ := byte2.toNat_lt
  have h₃ := byte3.toNat_lt
  have h₄ := byte4.toNat_lt
  have hor (x y i : Nat) (hy : y < 2 ^ i) : x * 2 ^ i ||| y = x * 2 ^ i + y := by
    rw [← Nat.shiftLeft_eq, Nat.shiftLeft_add_eq_or_of_lt hy]
  have hmod (x : UInt8) (i : Nat) (hi : i ≤ 24) : x.toNat <<< i % 2 ^ 32 = x.toNat * 2 ^ i := by
    rw [Nat.shiftLeft_eq]
    refine Nat.mod_eq_of_lt (Nat.lt_of_lt_of_le
      (Nat.mul_lt_mul_of_pos_right x.toNat_lt (Nat.two_pow_pos i)) ?_)
    exact Nat.le_trans (Nat.mul_le_mul_left _ (Nat.pow_le_pow_right (by decide) hi)) (by decide)
  have hsplit : byte1.toNat * 2 ^ 24 ||| byte2.toNat * 2 ^ 16 ||| byte3.toNat * 2 ^ 8 |||
      byte4.toNat = byte1.toNat * 2 ^ 24 + byte2.toNat * 2 ^ 16 + byte3.toNat * 2 ^ 8 +
      byte4.toNat := by
    rw [Nat.or_assoc, Nat.or_assoc, hor byte3.toNat _ 8 h₄, hor byte2.toNat _ 16 (by omega),
      hor byte1.toNat _ 24 (by omega)]
    omega
  simp only [bytesToInt, UInt32.toNat_or, UInt32.toNat_shiftLeft, UInt8.toNat_toUInt32,
    ofLeBytes]
  rw [show ((24 : UInt32).toNat % 32) = 24 from rfl, show ((16 : UInt32).toNat % 32) = 16 from rfl,
    show ((8 : UInt32).toNat % 32) = 8 from rfl, hmod _ 24 (by omega), hmod _ 16 (by omega),
    hmod _ 8 (by omega), hsplit]
  omega

end XpuManager
