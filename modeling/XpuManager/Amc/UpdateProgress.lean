import XpuManager.Amc.FirmwareData

/-! # The progress of an update

The percentages that are shown while a device takes its firmware: the one `readFromFD` computes for
each request of the device, and the one `commonProgressCallback` (`hal/amc/common.cpp`) passes on.
Both multiply by 100 in 32 bits. -/

namespace XpuManager

open Prog

/-! ## The callback -/

/-- The part of `firmwareInfo` that the callback reads; `dev` says whether there is a device. -/
structure FwupdInfo where
  dev : Bool
  deviceIndex : UInt32
  curThread : UInt32
  totalThreads : UInt32

/-- The arguments of `SETPROGRESS`. -/
structure ShownProgress where
  devIndex : UInt32
  lineNum : UInt32
  totalThreads : UInt32
  progress : UInt32

/-- `none` is a call that shows nothing. -/
def commonProgressCallback (done total : UInt32) (ctx : Option FwupdInfo) :
    Option ShownProgress :=
  if total = 0 then none
  else
    let percent := done * 100 / total
    match ctx with
    | none => none
    | some fwInfo =>
      if fwInfo.dev then some ⟨fwInfo.deviceIndex, fwInfo.curThread, fwInfo.totalThreads, percent⟩
      else none

/-! ## Quotients -/

/-- A quotient of what is left of a number, modulo something that is not less than the divisor. -/
theorem mod_div_eq_div_iff {x m c : Nat} (hc : 0 < c) (hcm : c ≤ m) : x % m / c = x / c ↔ x < m := by
  constructor
  · intro h
    by_contra hge
    have hstep : x % m + c ≤ x := by
      have hpos : 1 ≤ x / m := (Nat.one_le_div_iff (by omega)).mpr (Nat.not_lt.mp hge)
      have hmul : m ≤ m * (x / m) := Nat.le_mul_of_pos_right m hpos
      have hsum := Nat.mod_add_div x m
      omega
    have hle : (x % m + c) / c ≤ x / c := Nat.div_le_div_right hstep
    rw [Nat.add_div_right _ hc] at hle
    omega
  · intro h
    rw [Nat.mod_eq_of_lt h]

/-- A percentage in 32 bits. -/
theorem toNat_percent (x c : UInt32) :
    (x * 100 / c).toNat = 100 * x.toNat % 2 ^ 32 / c.toNat := by
  rw [UInt32.toNat_div, UInt32.toNat_mul, Nat.mul_comm x.toNat]
  rfl

theorem toNat_percent_eq_iff {x c : UInt32} (hc : c ≠ 0) :
    (x * 100 / c).toNat = 100 * x.toNat / c.toNat ↔ 100 * x.toNat < 2 ^ 32 := by
  have hpos : 0 < c.toNat := Nat.pos_of_ne_zero fun h => hc (UInt32.toNat_inj.mp h)
  rw [toNat_percent]
  exact mod_div_eq_div_iff hpos (Nat.le_of_lt c.toNat_lt)

theorem toInt_toInt32_eq_iff {x : UInt32} {n : Nat} :
    x.toInt32.toInt = (n : Int) ↔ x.toNat = n ∧ n < 2 ^ 31 := by
  have hlt := x.toNat_lt
  change x.toBitVec.toInt = (n : Int) ↔ _
  rw [BitVec.toInt_eq_toNat_cond]
  change (if 2 * x.toNat < 2 ^ 32 then (x.toNat : Int) else (x.toNat : Int) - (2 ^ 32 : Nat)) = n ↔ _
  split
  · omega
  · omega

/-! ## The progress of a request -/

/-- What `mProgPercent` is set to. -/
def progPercent (comp : CompImageInfo) (offset : UInt32) : Int32 :=
  (offset * 100 / comp.compSize).toInt32

/-- **A request** for data of a component that is not empty is answered, and leaves the progress
behind. -/
theorem answerRequestFirmwareData_progress {file : Bytes} {comp : CompImageInfo} {s : Pldm}
    (hs : Installing file comp s) (hsize : comp.compSize ≠ 0) (offset len : UInt32) :
    ∃ ret t, answerRequestFirmwareData offset len s = (.ret ret, t) ∧
      t.fw.mProgPercent = progPercent comp offset := by
  let v : Pldm := { s with fw := { s.fw with mProgPercent := progPercent comp offset } }
  have hv : Installing file comp v := hs.of_samePackage ⟨rfl, rfl, rfl⟩
  rw [answerRequestFirmwareData, bind_of_ret hs.comp, if_neg hsize, modify_bind_apply]
  change ∃ ret t, (if offset ≥ comp.compSize then respondtoamc dataOutOfRange
    else if len > pldmMctpMaxTransferSize then respondtoamc invalidTransferLength
    else writeToAMCCompXfer offset len pldmResponseCompletion : Prog Pldm UInt8) v = (.ret ret, t) ∧ _
  split
  case isTrue =>
    obtain ⟨f, crc, h, -⟩ := respondtoamc_spec dataOutOfRange v
    exact ⟨_, _, h, rfl⟩
  split
  case isTrue =>
    obtain ⟨f, crc, h, -⟩ := respondtoamc_spec invalidTransferLength v
    exact ⟨_, _, h, rfl⟩
  case isFalse hoff hlen =>
    obtain ⟨f, pec, h, -⟩ := writeToAMCCompXfer_spec pldmResponseCompletion hv.comp
      (UInt32.not_le.mp hoff) (UInt32.not_lt.mp hlen)
    exact ⟨_, _, h, rfl⟩

/-- The progress of a component is shown as it is meant: without a division by zero, rounded down,
as a percentage as long as the device asks inside the component, and never less than before. -/
structure ReportsProgress (comp : CompImageInfo) (offset : UInt32) : Prop where
  returns : ∀ file len s, Installing file comp s →
    (answerRequestFirmwareData offset len s).1 ≠ .fault
  floor : ∀ file len s, Installing file comp s →
    (answerRequestFirmwareData offset len s).2.fw.mProgPercent.toInt =
      (100 * offset.toNat / comp.compSize.toNat : Nat)
  percent : ∀ file len s, Installing file comp s → offset ≤ comp.compSize →
    0 ≤ (answerRequestFirmwareData offset len s).2.fw.mProgPercent.toInt ∧
      (answerRequestFirmwareData offset len s).2.fw.mProgPercent.toInt ≤ 100
  monotone : ∀ file earlier len len' s s', earlier ≤ offset → Installing file comp s →
    Installing file comp s' →
      (answerRequestFirmwareData earlier len s).2.fw.mProgPercent.toInt ≤
        (answerRequestFirmwareData offset len' s').2.fw.mProgPercent.toInt

/-- The component is not empty, the product fits 32 bits and the percentage fits an `int`. -/
structure ProgressFits (comp : CompImageInfo) (offset : UInt32) : Prop where
  size : comp.compSize ≠ 0
  product : 100 * offset.toNat < 2 ^ 32
  quotient : 100 * offset.toNat / comp.compSize.toNat < 2 ^ 31

section Progress

variable {comp : CompImageInfo} {offset earlier : UInt32} {file : Bytes} {s : Pldm}

theorem toInt_progPercent_iff (hsize : comp.compSize ≠ 0) :
    (progPercent comp offset).toInt = (100 * offset.toNat / comp.compSize.toNat : Nat) ↔
      100 * offset.toNat < 2 ^ 32 ∧ 100 * offset.toNat / comp.compSize.toNat < 2 ^ 31 := by
  rw [progPercent, toInt_toInt32_eq_iff, toNat_percent_eq_iff hsize]

/-- What fits at an offset fits before it. -/
theorem ProgressFits.mono (h : ProgressFits comp offset) (hle : earlier ≤ offset) :
    ProgressFits comp earlier := by
  have hnat : 100 * earlier.toNat ≤ 100 * offset.toNat :=
    Nat.mul_le_mul_left 100 (UInt32.le_iff_toNat_le.mp hle)
  exact ⟨h.size, Nat.lt_of_le_of_lt hnat h.product,
    Nat.lt_of_le_of_lt (Nat.div_le_div_right hnat) h.quotient⟩

/-- The progress that is shown where it fits. -/
theorem ProgressFits.shown (h : ProgressFits comp offset) (hs : Installing file comp s)
    (len : UInt32) : (answerRequestFirmwareData offset len s).2.fw.mProgPercent.toInt =
      (100 * offset.toNat / comp.compSize.toNat : Nat) := by
  obtain ⟨ret, t, hrun, hprog⟩ := answerRequestFirmwareData_progress hs h.size offset len
  rw [hrun]
  change t.fw.mProgPercent.toInt = _
  rw [hprog]
  exact (toInt_progPercent_iff h.size).mpr ⟨h.product, h.quotient⟩

/-- **The progress of a request** is as it is meant exactly if it fits. -/
theorem reportsProgress_iff : ReportsProgress comp offset ↔ ProgressFits comp offset := by
  constructor
  · intro h
    have hs := installing_installer [] comp 0 0
    have hsize : comp.compSize ≠ 0 := by
      intro hzero
      refine h.returns [] 0 _ hs ?_
      rw [answerRequestFirmwareData, bind_of_ret hs.comp, if_pos hzero, fault_apply]
    obtain ⟨ret, t, hrun, hprog⟩ := answerRequestFirmwareData_progress hs hsize offset 0
    have hfloor := h.floor [] 0 _ hs
    rw [hrun] at hfloor
    change t.fw.mProgPercent.toInt = _ at hfloor
    rw [hprog, toInt_progPercent_iff hsize] at hfloor
    exact ⟨hsize, hfloor.1, hfloor.2⟩
  · intro h
    refine ⟨fun file len s hs => ?_, fun file len s hs => h.shown hs len,
      fun file len s hs hle => ?_, fun file earlier len len' s s' hle hs hs' => ?_⟩
    · obtain ⟨ret, t, hrun, -⟩ := answerRequestFirmwareData_progress hs h.size offset len
      rw [hrun]
      intro hstopped
      cases hstopped
    · rw [h.shown hs len]
      have hpercent : 100 * offset.toNat / comp.compSize.toNat ≤ 100 :=
        Nat.div_le_of_le_mul (by
          rw [Nat.mul_comm comp.compSize.toNat]
          exact Nat.mul_le_mul_left 100 (UInt32.le_iff_toNat_le.mp hle))
      exact ⟨Int.natCast_nonneg _, Int.ofNat_le.mpr hpercent⟩
    · rw [(h.mono hle).shown hs len, h.shown hs' len']
      exact Int.ofNat_le.mpr (Nat.div_le_div_right
        (Nat.mul_le_mul_left 100 (UInt32.le_iff_toNat_le.mp hle)))

end Progress

/-! ## Both percentages -/

/-- The callback passes on the percentage, rounded down, to every device. -/
def PassesOnProgress (done total : UInt32) : Prop :=
  ∀ fwInfo : FwupdInfo, fwInfo.dev = true → ∃ percent : UInt32,
    commonProgressCallback done total (some fwInfo) =
      some ⟨fwInfo.deviceIndex, fwInfo.curThread, fwInfo.totalThreads, percent⟩ ∧
    percent.toNat = 100 * done.toNat / total.toNat

theorem passesOnProgress_iff {done total : UInt32} (htotal : total ≠ 0) :
    PassesOnProgress done total ↔ 100 * done.toNat < 2 ^ 32 := by
  rw [← toNat_percent_eq_iff htotal]
  constructor
  · intro h
    obtain ⟨percent, hcall, hpercent⟩ := h ⟨true, 0, 0, 0⟩ rfl
    rw [commonProgressCallback, if_neg htotal] at hcall
    obtain ⟨-, -, -, rfl⟩ := ShownProgress.mk.inj (Option.some.inj hcall)
    exact hpercent
  · intro h fwInfo hdev
    refine ⟨done * 100 / total, ?_, h⟩
    rw [commonProgressCallback, if_neg htotal]
    exact if_pos hdev

/-- **The progress that is shown.** For every component and every offset the device asks for, and
for everything the callback is told of, the percentage is as it is meant exactly if it fits. -/
theorem progress_iff (comp : CompImageInfo) (offset done total : UInt32) :
    (ReportsProgress comp offset ↔ ProgressFits comp offset) ∧
      (done ≤ total → 0 < total → (PassesOnProgress done total ↔ 100 * done.toNat < 2 ^ 32)) :=
  ⟨reportsProgress_iff, fun _ hpos => passesOnProgress_iff (UInt32.pos_iff_ne_zero.mp hpos)⟩

/-- A component of 64 MiB, of which a part can be shown. -/
theorem progress_iff_sample : ∃ comp : CompImageInfo, comp.compSize = 0x4000000 ∧
    ReportsProgress comp 0x2000000 ∧ PassesOnProgress 3 4 := by
  let comp : CompImageInfo := ⟨10, 1, 0, 0, 0, 100, 0x4000000, 1, 0, [], rfl⟩
  have h := progress_iff comp 0x2000000 3 4
  exact ⟨comp, rfl, h.1.mpr ⟨by decide, by decide, by decide⟩,
    (h.2 (by decide) (by decide)).mpr (by decide)⟩

/-- Accepted packages with an empty component and with one of 64 MiB, of which the last third wraps,
and a callback that is told of as much. -/
theorem progress_not_shown :
    (∃ file pkg comp, fwpkgParse file = .ret (some pkg) ∧ comp ∈ pkg.compImages ∧
      ¬ReportsProgress comp 0) ∧
    (∃ file pkg comp, fwpkgParse file = .ret (some pkg) ∧ comp ∈ pkg.compImages ∧
      50000000 ≤ comp.compSize ∧ ¬ReportsProgress comp 50000000) ∧
    ¬PassesOnProgress 50000000 0x4000000 := by
  refine ⟨?_, ?_, ?_⟩
  · obtain ⟨pkg, comp, hpkg, hmem, -, hsize⟩ :=
      fwpkgParse_region 100 0 100 0 (by decide +kernel)
    exact ⟨_, pkg, comp, hpkg, hmem, fun h => (reportsProgress_iff.mp h).size hsize⟩
  · obtain ⟨pkg, comp, hpkg, hmem, -, hsize⟩ :=
      fwpkgParse_region 100 0x4000000 100 0x4000000 (by decide +kernel)
    refine ⟨_, pkg, comp, hpkg, hmem, by rw [hsize]; decide, fun h => ?_⟩
    exact absurd (reportsProgress_iff.mp h).product (by decide)
  · exact fun h => absurd ((passesOnProgress_iff (by decide)).mp h) (by decide)

end XpuManager
