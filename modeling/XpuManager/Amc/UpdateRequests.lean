import XpuManager.Amc.FirmwareData
import XpuManager.Amc.FrameClosing

/-! # The sizes of the update requests

RequestUpdate, PassComponentTable and UpdateComponent carry the version string of the component
behind a fixed part. Their sizes are added up in eight bits, and the size of the whole frame is used
as the number of bytes to copy into its payload. -/

namespace XpuManager

open Prog

/-- A builder sets `mFwuCmdLen` to the sum of its parts and stays inside `respPayload`. -/
def StaysInPayload (build : Prog Pldm UInt8) (fixedSize : Nat) (comp : CompImageInfo) (s : Pldm) :
    Prop :=
  (build s).1 ≠ .fault ∧
    (build s).2.fw.mFwuCmdLen.toNat = fwuCommandBaseSize.toNat + fixedSize + comp.verStrLen.toNat

theorem payloadCopy_overrun {i : Nat} {bs : Bytes} (h : payloadSize < i + bs.length) (s : Pldm) :
    payloadCopy i bs s = (.fault, s) := by
  rw [payloadCopy, if_neg (Nat.not_le.mpr h), fault_apply]

theorem payloadSetCrc_overrun {i : Nat} {len : Int} (hi : payloadSize ≤ i) (h₀ : 0 ≤ len)
    (h : len ≤ payloadSize) (s : Pldm) : payloadSetCrc i len s = (.fault, s) := by
  have hcrc : payloadCrc len s =
      (.ret (crc8Smbus (s.mI2cPldmWrite.slice payloadStart len.toNat)), s) := by
    rw [payloadCrc, get_bind_apply, if_pos ⟨h₀, h⟩, pure_apply]
  rw [payloadSetCrc, bind_of_ret hcrc]
  exact payloadCopy_overrun (Nat.lt_succ_of_le hi) s

section FillStruct

variable {fixedSize verStrLen : UInt8} {bytes : Bytes}

/-- The size that the builders compute. -/
theorem toNat_cmdLen (hfixed : fixedSize.toNat ≤ 19) :
    (fwuCommandBaseSize + fixedSize + verStrLen).toNat =
      (12 + fixedSize.toNat + verStrLen.toNat) % 256 := by
  rw [UInt8.toNat_add, UInt8.toNat_add]
  change ((12 + fixedSize.toNat) % 256 + verStrLen.toNat) % 256 = _
  rw [Nat.mod_eq_of_lt (show 12 + fixedSize.toNat < 256 by omega)]

/-- **A structure** whose size leaves room for the CRC is filled in. -/
theorem fillStruct_returns (hbytes : 255 ≤ bytes.length)
    (hroom : (fwuCommandBaseSize + fixedSize + verStrLen).toNat < payloadSize) (s : Pldm) :
    ∃ t, fillStruct fixedSize verStrLen bytes s = (.ret pldmSuccess, t) ∧
      t.fw.mFwuCmdLen = fwuCommandBaseSize + fixedSize + verStrLen := by
  let cmdLen := fwuCommandBaseSize + fixedSize + verStrLen
  let u : Pldm := { s with fw := { s.fw with mFwuCmdLen := cmdLen } }
  have hlen : (bytes.take cmdLen.toNat).length = cmdLen.toNat :=
    List.length_take_of_le (Nat.le_trans (Nat.le_of_lt_succ cmdLen.toNat_lt) hbytes)
  have hfits : 0 + (bytes.take cmdLen.toNat).length ≤ payloadSize := by
    rw [hlen, Nat.zero_add]
    exact Nat.le_of_lt hroom
  have hcopy := payloadCopy_returns hfits u
  have hcrc := payloadSetCrc_returns hroom (Int.natCast_nonneg cmdLen.toNat)
    (Int.ofNat_le.mpr (Nat.le_of_lt hroom))
    { u with mI2cPldmWrite := u.mI2cPldmWrite.overlay (payloadStart + 0) (bytes.take cmdLen.toNat) }
  exact ⟨_, (bind_of_ret hcopy).trans (bind_of_ret hcrc), rfl⟩

/-- A structure that is too large is copied past the payload, or its CRC is. -/
theorem fillStruct_overrun (hbytes : 255 ≤ bytes.length)
    (hroom : payloadSize ≤ (fwuCommandBaseSize + fixedSize + verStrLen).toNat) (s : Pldm) :
    (fillStruct fixedSize verStrLen bytes s).1 = .fault := by
  let cmdLen := fwuCommandBaseSize + fixedSize + verStrLen
  let u : Pldm := { s with fw := { s.fw with mFwuCmdLen := cmdLen } }
  have hlen : (bytes.take cmdLen.toNat).length = cmdLen.toNat :=
    List.length_take_of_le (Nat.le_trans (Nat.le_of_lt_succ cmdLen.toNat_lt) hbytes)
  rcases Nat.lt_or_eq_of_le hroom with hlt | heq
  · have hover : payloadSize < 0 + (bytes.take cmdLen.toNat).length := by
      rw [hlen, Nat.zero_add]
      exact hlt
    exact congrArg Prod.fst (bind_of_fault (payloadCopy_overrun hover u))
  · -- the copy just fits, and the CRC is stored behind it
    have hfits : 0 + (bytes.take cmdLen.toNat).length ≤ payloadSize := by
      rw [hlen, Nat.zero_add]
      exact Nat.le_of_eq heq.symm
    have hcopy := payloadCopy_returns hfits u
    have hcrc := payloadSetCrc_overrun hroom (Int.natCast_nonneg cmdLen.toNat)
      (Int.ofNat_le.mpr (Nat.le_of_eq heq.symm))
      { u with mI2cPldmWrite := u.mI2cPldmWrite.overlay (payloadStart + 0) (bytes.take cmdLen.toNat) }
    rw [fillStruct, modify_bind_apply, bind_of_ret hcopy, bind_of_fault hcrc]

/-- **When a structure stays inside the payload**, with the size that is its own. -/
theorem fillStruct_stays_iff {comp : CompImageInfo} (hfixed : fixedSize.toNat ≤ 19)
    (hbytes : 255 ≤ bytes.length) (s : Pldm) :
    StaysInPayload (fillStruct fixedSize comp.verStrLen bytes) fixedSize.toNat comp s ↔
      12 + fixedSize.toNat + comp.verStrLen.toNat < payloadSize := by
  have hsize := @toNat_cmdLen fixedSize comp.verStrLen hfixed
  constructor
  · rintro ⟨hreturns, hlen⟩
    have hroom : (fwuCommandBaseSize + fixedSize + comp.verStrLen).toNat < payloadSize := by
      by_contra hover
      exact hreturns (fillStruct_overrun hbytes (Nat.not_lt.mp hover) s)
    obtain ⟨t, hrun, hcmd⟩ := fillStruct_returns hbytes hroom s
    rw [hrun] at hlen
    change t.fw.mFwuCmdLen.toNat = 12 + _ + _ at hlen
    rwa [← hcmd, hlen] at hroom
  · intro hroom
    have hnowrap : (fwuCommandBaseSize + fixedSize + comp.verStrLen).toNat =
        12 + fixedSize.toNat + comp.verStrLen.toNat := by
      rw [hsize]
      exact Nat.mod_eq_of_lt (Nat.lt_trans hroom (by decide))
    obtain ⟨t, hrun, hcmd⟩ := fillStruct_returns hbytes (by rw [hnowrap]; exact hroom) s
    refine ⟨by rw [hrun]; nofun, ?_⟩
    rw [hrun]
    change t.fw.mFwuCmdLen.toNat = _
    rw [hcmd, hnowrap]
    rfl

end FillStruct

/-! ## The three requests -/

/-- A structure that ends with a version string is longer than any command. -/
theorem length_append_verStr_ge (fields : Bytes) (verStr : Buf pldmFwuCompVerStrSizeMax) :
    255 ≤ (fields ++ verStr.slice 0 pldmFwuCompVerStrSizeMax).length := by
  rw [List.length_append, Buf.length_slice]
  exact Nat.le_trans (by decide) (Nat.le_add_left _ _)

theorem FwuRequestUpdate.length_bytes_ge (r : FwuRequestUpdate) : 255 ≤ r.bytes.length :=
  length_append_verStr_ge _ _

theorem FwuPassCompTable.length_bytes_ge (r : FwuPassCompTable) : 255 ≤ r.bytes.length :=
  length_append_verStr_ge _ _

theorem FwUpdCompReq.length_bytes_ge (r : FwUpdCompReq) : 255 ≤ r.bytes.length :=
  length_append_verStr_ge _ _

section Requests

variable {file : Bytes} {comp : CompImageInfo} {s : Pldm}

/-- The package is there wherever a component is. -/
theorem exists_pkg_of_curComp (h : curComp s = (.ret comp, s)) :
    ∃ pkg, getPkg s = (.ret pkg, s) := by
  unfold curComp at h
  obtain ⟨pkg, t, hpkg, -⟩ := bind_eq_ret_iff.mp h
  unfold getPkg at hpkg ⊢
  rcases hfw : s.fw.pkg with _ | pkg'
  · simp [hfw] at hpkg
  · exact ⟨pkg', by simp [hfw]⟩

/-- A request that has come to the step that fills it in stays inside the payload if its version
string leaves room. -/
theorem request_stays_iff {m : Prog Pldm UInt8} {fixedSize : UInt8} (hfixed : fixedSize.toNat ≤ 19)
    (hrun : ∃ bytes u, 255 ≤ bytes.length ∧ m s = fillStruct fixedSize comp.verStrLen bytes u) :
    StaysInPayload m fixedSize.toNat comp s ↔
      12 + fixedSize.toNat + comp.verStrLen.toNat < payloadSize := by
  obtain ⟨bytes, u, hbytes, hrun⟩ := hrun
  rw [StaysInPayload, hrun]
  exact fillStruct_stays_iff hfixed hbytes u

theorem fwReqUpdate_stays_iff (hs : Installing file comp s) :
    StaysInPayload fwReqUpdate 11 comp s ↔ comp.verStrLen.toNat ≤ 104 := by
  obtain ⟨pkg, hpkg⟩ := exists_pkg_of_curComp hs.comp
  have hstays := @request_stays_iff comp s fwReqUpdate 11 (by decide)
    ⟨_, _, FwuRequestUpdate.length_bytes_ge _, (bind_of_ret hpkg).trans (bind_of_ret hs.comp)⟩
  exact hstays.trans (show 12 + 11 + comp.verStrLen.toNat < 128 ↔ _ by omega)

theorem fwupdPassCompTable_stays_iff (hs : Installing file comp s) :
    StaysInPayload fwupdPassCompTable 12 comp s ↔ comp.verStrLen.toNat ≤ 103 := by
  have hstays := @request_stays_iff comp s fwupdPassCompTable 12 (by decide)
    ⟨_, _, FwuPassCompTable.length_bytes_ge _, bind_of_ret hs.comp⟩
  exact hstays.trans (show 12 + 12 + comp.verStrLen.toNat < 128 ↔ _ by omega)

theorem fwUpdComp_stays_iff (hs : Installing file comp s) :
    StaysInPayload fwUpdComp 19 comp s ↔ comp.verStrLen.toNat ≤ 96 := by
  have hstays := @request_stays_iff comp s fwUpdComp 19 (by decide)
    ⟨_, _, FwUpdCompReq.length_bytes_ge _, bind_of_ret hs.comp⟩
  exact hstays.trans (show 12 + 19 + comp.verStrLen.toNat < 128 ↔ _ by omega)

/-- **The update requests.** For every component that is installed, each of the three has its own
size and stays inside the payload exactly if the version string leaves room for it and the CRC. -/
theorem updateRequests_stay_iff (hs : Installing file comp s) :
    (StaysInPayload fwReqUpdate 11 comp s ↔ comp.verStrLen.toNat ≤ 104) ∧
      (StaysInPayload fwupdPassCompTable 12 comp s ↔ comp.verStrLen.toNat ≤ 103) ∧
      (StaysInPayload fwUpdComp 19 comp s ↔ comp.verStrLen.toNat ≤ 96) :=
  ⟨fwReqUpdate_stays_iff hs, fwupdPassCompTable_stays_iff hs, fwUpdComp_stays_iff hs⟩

end Requests

/-! ## Packages with long version strings -/

/-- A component image of no bytes whose version string has `n`. -/
def imageWithVersion (n : Nat) : Bytes :=
  leBytes 2 10 ++ leBytes 2 1 ++ leBytes 4 0 ++ leBytes 2 0 ++ leBytes 2 0 ++ leBytes 4 100
    ++ leBytes 4 0 ++ [1, UInt8.ofNat n] ++ List.replicate n 0x31

/-- The lengths of the version strings in an accepted package. -/
def acceptedVersions : Outcome (Option FwPkg) → List UInt8
  | .ret (some pkg) => pkg.compImages.map CompImageInfo.verStrLen
  | _ => []

/-- The component of the version. -/
theorem exists_comp_of_acceptedVersions {o : Outcome (Option FwPkg)} {len : UInt8}
    (h : acceptedVersions o = [len]) :
    ∃ pkg, o = .ret (some pkg) ∧ ∃ comp ∈ pkg.compImages, comp.verStrLen = len := by
  rcases o with (_ | pkg) | _ | _
  · cases h
  · have hmem : len ∈ pkg.compImages.map CompImageInfo.verStrLen := by
      rw [show pkg.compImages.map CompImageInfo.verStrLen = [len] from h]
      exact List.mem_singleton_self len
    obtain ⟨comp, hcomp, hlen⟩ := List.mem_map.mp hmem
    exact ⟨pkg, rfl, comp, hcomp, hlen⟩
  · cases h
  · cases h

/-- A version string of 96 bytes is short enough for all three requests. -/
theorem updateRequests_stay_iff_sample : ∃ comp s,
    StaysInPayload fwReqUpdate 11 comp s ∧ StaysInPayload fwupdPassCompTable 12 comp s ∧
      StaysInPayload fwUpdComp 19 comp s := by
  let comp : CompImageInfo := ⟨10, 1, 0, 0, 0, 100, 32, 1, 96, List.replicate 96 0x31, by simp⟩
  have h := updateRequests_stay_iff (installing_installer [] comp 0 0)
  exact ⟨comp, _, h.1.mpr (by decide), h.2.1.mpr (by decide), h.2.2.mpr (by decide)⟩

/-- Accepted packages whose version strings are too long: of 97 bytes for UpdateComponent, whose CRC
is then stored behind the payload, and of 255 for the size of every request. -/
theorem updateRequests_leave :
    (∃ file pkg comp s, fwpkgParse file = .ret (some pkg) ∧ comp ∈ pkg.compImages ∧
      Installing file comp s ∧ ¬StaysInPayload fwUpdComp 19 comp s) ∧
    ∃ file pkg comp s, fwpkgParse file = .ret (some pkg) ∧ comp ∈ pkg.compImages ∧
      Installing file comp s ∧ ¬StaysInPayload fwReqUpdate 11 comp s ∧
        ¬StaysInPayload fwupdPassCompTable 12 comp s ∧ ¬StaysInPayload fwUpdComp 19 comp s := by
  constructor
  · obtain ⟨pkg, hpkg, comp, hmem, hlen⟩ := @exists_comp_of_acceptedVersions
      (fwpkgParse (samplePackage [imageWithVersion 97])) 97 (by decide +kernel)
    have hs := installing_installer (samplePackage [imageWithVersion 97]) comp 0 0
    refine ⟨_, pkg, comp, _, hpkg, hmem, hs, fun h => ?_⟩
    exact absurd ((fwUpdComp_stays_iff hs).mp h) (by rw [hlen]; decide)
  · obtain ⟨pkg, hpkg, comp, hmem, hlen⟩ := @exists_comp_of_acceptedVersions
      (fwpkgParse (samplePackage [imageWithVersion 255])) 255 (by decide +kernel)
    have hs := installing_installer (samplePackage [imageWithVersion 255]) comp 0 0
    refine ⟨_, pkg, comp, _, hpkg, hmem, hs, fun h => ?_, fun h => ?_, fun h => ?_⟩
    · exact absurd ((fwReqUpdate_stays_iff hs).mp h) (by rw [hlen]; decide)
    · exact absurd ((fwupdPassCompTable_stays_iff hs).mp h) (by rw [hlen]; decide)
    · exact absurd ((fwUpdComp_stays_iff hs).mp h) (by rw [hlen]; decide)

end XpuManager
