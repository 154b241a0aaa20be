import XpuManager.Oal.SriovWalk

/-! # The capability that is read

A configuration space has two lists of capabilities. In the one from byte `0x34` on the ID `0x10` is the
PCI Express capability; in the other, of the extended capabilities from `0x100` on, it is SR-IOV. The
reading (`oal/lin/linvf.cpp`) looks for the ID in the first. -/

namespace XpuManager

variable {dev : PciDevice}

namespace PciDevice

/-- The capabilities from a pointer on. -/
inductive Capabilities (dev : PciDevice) : UInt8 → List UInt8 → Prop
  | nil : dev.Capabilities 0 []
  | cons {entry next : UInt8} {entries : List UInt8} :
      0x40 ≤ entry → entry % 4 = 0 → dev.config (entry.toNat + 1) = some next →
        dev.Capabilities next entries → dev.Capabilities entry (entry :: entries)

/-- The offset of the next extended capability, above the four bits of the version. -/
def extendedNext (dev : PciDevice) (entry : Nat) : Option Nat :=
  (dev.cfgReadU16 (entry + 2)).map fun word => word.toNat / 16

/-- The extended capabilities from an offset on. -/
inductive ExtendedCapabilities (dev : PciDevice) : Nat → List Nat → Prop
  | nil : dev.ExtendedCapabilities 0 []
  | cons {entry next : Nat} {entries : List Nat} :
      0x100 ≤ entry → entry % 4 = 0 → dev.extendedNext entry = some next →
        dev.ExtendedCapabilities next entries → dev.ExtendedCapabilities entry (entry :: entries)

/-- A space of 256 bytes, without extended capabilities, or of 4096 bytes, with some. -/
structure LaidOut (dev : PciDevice) (capabilities : List UInt8) (extended : List Nat) : Prop where
  capabilities : ∃ first, dev.config pciCapabilityList = some first ∧
    dev.Capabilities first capabilities
  size : ((∀ offset, (dev.config offset).isSome ↔ offset < 256) ∧ extended = []) ∨
    (∀ offset, (dev.config offset).isSome ↔ offset < 4096) ∧ dev.ExtendedCapabilities 0x100 extended

/-- The PCI Express capability. -/
def expressCapability (dev : PciDevice) (capabilities : List UInt8) : Option UInt8 :=
  capabilities.find? fun entry => dev.config entry.toNat = some 0x10

/-- The SR-IOV capability. -/
def sriovCapability (dev : PciDevice) (extended : List Nat) : Option Nat :=
  extended.find? fun entry => dev.cfgReadU16 entry = some 0x0010

end PciDevice

/-- The device is reported as capable if it has the SR-IOV capability, with the fields of that. -/
def ReportsSriov (dev : PciDevice) (extended : List Nat) (info : PciDeviceInfo) : Prop :=
  match dev.sriovCapability extended with
  | none => info.isSriovCapable = false
  | some entry =>
    info.isSriovCapable = true ∧
      dev.cfgReadU16 (entry + 0x0E) = some info.totalVFs ∧
      dev.cfgReadU16 (entry + 0x0C) = some info.initialVFs ∧
      dev.cfgReadU16 (entry + 0x10) = some info.numVFs ∧
      (dev.cfgReadU16 (entry + 0x14)).map UInt16.toUInt32 = some info.firstVFOffset ∧
      (dev.cfgReadU16 (entry + 0x16)).map UInt16.toUInt32 = some info.vfStride ∧
      dev.cfgReadU16 (entry + 0x1A) = some info.vfDeviceId

/-- The words of a PCI Express capability where the reading looks for the fields of an SR-IOV capability
are those fields. -/
structure Coincides (dev : PciDevice) (express : UInt8) (sriov : Nat) : Prop where
  totalVFs : dev.cfgReadU16 (express.toNat + 0x0E) = dev.cfgReadU16 (sriov + 0x0E)
  initialVFs : dev.cfgReadU16 (express.toNat + 0x0C) = dev.cfgReadU16 (sriov + 0x0C)
  numVFs : dev.cfgReadU16 (express.toNat + 0x10) = dev.cfgReadU16 (sriov + 0x10)
  firstVFOffset : dev.cfgReadU16 (express.toNat + 0x18) = dev.cfgReadU16 (sriov + 0x14)
  vfStride : dev.cfgReadU16 (express.toNat + 0x14) = dev.cfgReadU16 (sriov + 0x16)
  vfDeviceId : dev.cfgReadU16 (express.toNat + 0x1A) = dev.cfgReadU16 (sriov + 0x1A)

variable {capabilities : List UInt8} {extended : List Nat} {info : PciDeviceInfo}

/-- The loop goes through the list of capabilities. -/
theorem findSriov_capabilities {first : UInt8} (hread : ∀ offset < 256, (dev.config offset).isSome)
    (h : dev.Capabilities first capabilities) :
    findSriov dev (capabilities.length + 1) first = some (dev.expressCapability capabilities) := by
  induction h with
  | nil => rfl
  | @cons entry next entries hmin _ hnext _ ih =>
    have hzero : entry ≠ 0 := by
      rintro rfl
      exact absurd hmin (by decide)
    obtain ⟨capId, hid⟩ := Option.isSome_iff_exists.mp (hread entry.toNat entry.toNat_lt)
    have hu8 : dev.cfgReadU8 entry.toNat = some capId := hid
    have hu8' : dev.cfgReadU8 (entry.toNat + 1) = some next := hnext
    rw [List.length_cons, findSriov, if_neg hzero, hu8, PciDevice.expressCapability, List.find?_cons]
    dsimp only
    by_cases hsriov : capId = pciCapIdSriov
    · rw [if_pos hsriov, hid, hsriov]
      rfl
    · have hne : ¬ dev.config entry.toNat = some 0x10 := by
        rw [hid]
        exact fun h => hsriov (Option.some.inj h)
      rw [if_neg hsriov, hu8', decide_eq_false hne]
      exact ih

theorem PciDevice.LaidOut.findSriov (h : dev.LaidOut capabilities extended) :
    ∃ first, dev.cfgReadU8 pciCapabilityList = some first ∧
      findSriov dev 256 first = some (dev.expressCapability capabilities) := by
  obtain ⟨first, hfirst, hlist⟩ := h.capabilities
  refine ⟨first, hfirst, findSriov_256 (findSriov_capabilities (fun offset hlt => ?_) hlist)⟩
  rcases h.size with ⟨hread, -⟩ | ⟨hread, -⟩
  · exact (hread offset).mpr hlt
  · exact (hread offset).mpr (by omega)

/-- Without a PCI Express capability nothing is set. -/
theorem readSriovCapability_of_none (h : dev.LaidOut capabilities extended)
    (hnone : dev.expressCapability capabilities = none) :
    readSriovCapability dev info = some info := by
  obtain ⟨first, hfirst, hfind⟩ := h.findSriov
  rw [readSriovCapability, hfirst]
  dsimp only
  rw [hfind, hnone]

/-- With a PCI Express capability the device counts as capable, and the fields are words of it. -/
theorem readSriovCapability_of_some {express : UInt8} (info : PciDeviceInfo)
    (h : dev.LaidOut capabilities extended) (hsome : dev.expressCapability capabilities = some express) :
    ∃ info', readSriovCapability dev info = some info' ∧ info'.isSriovCapable = true ∧
      info'.totalVFs = (dev.cfgReadU16 (express.toNat + 0x0E)).getD 0 ∧
      info'.initialVFs = (dev.cfgReadU16 (express.toNat + 0x0C)).getD 0 ∧
      info'.numVFs = (dev.cfgReadU16 (express.toNat + 0x10)).getD 0 ∧
      info'.firstVFOffset = ((dev.cfgReadU16 (express.toNat + 0x18)).getD 0).toUInt32 ∧
      info'.vfStride = ((dev.cfgReadU16 (express.toNat + 0x14)).getD 0).toUInt32 ∧
      info'.vfDeviceId = (dev.cfgReadU16 (express.toNat + 0x1A)).getD 0 := by
  obtain ⟨first, hfirst, hfind⟩ := h.findSriov
  rw [readSriovCapability, hfirst]
  dsimp only
  rw [hfind, hsome]
  exact ⟨_, rfl, rfl, rfl, rfl, rfl, rfl, rfl, rfl⟩

theorem exists_cfgReadU16 {offset : Nat} (hread : ∀ offset, (dev.config offset).isSome ↔ offset < 4096)
    (hlt : offset + 1 < 4096) : ∃ word, dev.cfgReadU16 offset = some word := by
  obtain ⟨low, hlow⟩ := Option.isSome_iff_exists.mp ((hread offset).mpr (by omega))
  obtain ⟨high, hhigh⟩ := Option.isSome_iff_exists.mp ((hread (offset + 1)).mpr hlt)
  exact ⟨_, by rw [PciDevice.cfgReadU16, hlow, hhigh]; rfl⟩

theorem map_toUInt32_eq_some {x : Option UInt16} {word : UInt16} :
    x.map UInt16.toUInt32 = some word.toUInt32 ↔ x = some word := by
  cases x with
  | none => simp
  | some w => rw [Option.map_some, Option.some_inj, Option.some_inj, UInt16.toUInt32_inj]

/-- With both capabilities the report is right if the words at the offsets are the same. -/
theorem reportsSriov_iff_coincides {express : UInt8} {sriov : Nat} {info' : PciDeviceInfo}
    (h : dev.LaidOut capabilities extended)
    (hexpress : dev.expressCapability capabilities = some express)
    (hsriov : dev.sriovCapability extended = some sriov)
    (hinfo : readSriovCapability dev info = some info') :
    ReportsSriov dev extended info' ↔ Coincides dev express sriov := by
  have hread : ∀ offset, (dev.config offset).isSome ↔ offset < 4096 := by
    rcases h.size with ⟨-, rfl⟩ | ⟨hread, -⟩
    · cases hsriov
    · exact hread
  have hword : ∀ offset : Nat, offset < 256 → ∃ word, dev.cfgReadU16 (express.toNat + offset) = some word :=
    fun offset hlt => exists_cfgReadU16 hread (by have := express.toNat_lt; omega)
  obtain ⟨_, hinfo', hcapable, htotal, hinitial, hnum, hfirst, hstride, hid⟩ :=
    readSriovCapability_of_some info h hexpress
  obtain rfl := Option.some.inj (hinfo'.symm.trans hinfo)
  obtain ⟨total, ht⟩ := hword 0x0E (by decide)
  obtain ⟨initial, hi⟩ := hword 0x0C (by decide)
  obtain ⟨num, hn⟩ := hword 0x10 (by decide)
  obtain ⟨first, hf⟩ := hword 0x18 (by decide)
  obtain ⟨stride, hs⟩ := hword 0x14 (by decide)
  obtain ⟨id, hd⟩ := hword 0x1A (by decide)
  rw [ReportsSriov, hsriov]
  simp only [hcapable, htotal, hinitial, hnum, hfirst, hstride, hid, ht, hi, hn, hf, hs, hd,
    Option.getD_some, map_toUInt32_eq_some, true_and]
  constructor
  · rintro ⟨h1, h2, h3, h4, h5, h6⟩
    exact ⟨ht.trans h1.symm, hi.trans h2.symm, hn.trans h3.symm, hf.trans h4.symm, hs.trans h5.symm,
      hd.trans h6.symm⟩
  · rintro ⟨h1, h2, h3, h4, h5, h6⟩
    exact ⟨h1.symm.trans ht, h2.symm.trans hi, h3.symm.trans hn, h4.symm.trans hf, h5.symm.trans hs,
      h6.symm.trans hd⟩

/-- **When the reading reports the SR-IOV capability**: the device has neither that nor a PCI Express
capability, or it has both and their words coincide. -/
theorem readSriovCapability_reports_iff (dev : PciDevice) (capabilities : List UInt8)
    (extended : List Nat) (info : PciDeviceInfo) (h : dev.LaidOut capabilities extended)
    (hfresh : info.isSriovCapable = false) :
    (∃ info', readSriovCapability dev info = some info' ∧ ReportsSriov dev extended info') ↔
      (dev.expressCapability capabilities = none ∧ dev.sriovCapability extended = none) ∨
        ∃ express sriov, dev.expressCapability capabilities = some express ∧
          dev.sriovCapability extended = some sriov ∧ Coincides dev express sriov := by
  cases hexpress : dev.expressCapability capabilities with
  | none =>
    rw [readSriovCapability_of_none h hexpress]
    cases hsriov : dev.sriovCapability extended with
    | none => simp [ReportsSriov, hsriov, hfresh]
    | some sriov => simp [ReportsSriov, hsriov, hfresh]
  | some express =>
    obtain ⟨info', hinfo, hcapable, -⟩ := readSriovCapability_of_some info h hexpress
    rw [hinfo]
    cases hsriov : dev.sriovCapability extended with
    | none => simp [ReportsSriov, hsriov, hcapable]
    | some sriov =>
      simp [reportsSriov_iff_coincides h hexpress hsriov hinfo]

/-- A device whose PCI Express capability at `0x70` holds, where the reading looks, the words of its
SR-IOV capability at `0x100`. -/
def mirroringDevice : PciDevice where
  probes := true
  deviceId := 0x0BD5
  config offset :=
    if 4096 ≤ offset then none
    else
      some (match offset with
        | 0x34 => 0x70 | 0x70 => 0x10 | 0x7C => 0x1F | 0x7E => 0x1F | 0x84 => 0x02 | 0x88 => 0x01
        | 0x8A => 0xD5 | 0x8B => 0x0B
        | 0x100 => 0x10 | 0x10C => 0x1F | 0x10E => 0x1F | 0x114 => 0x01 | 0x116 => 0x02
        | 0x11A => 0xD5 | 0x11B => 0x0B
        | _ => 0)

theorem readSriovCapability_reports_mirroring :
    ∃ info', readSriovCapability mirroringDevice {} = some info' ∧
      ReportsSriov mirroringDevice [0x100] info' := by
  have hlaid : mirroringDevice.LaidOut [0x70] [0x100] := by
    refine ⟨⟨0x70, rfl, .cons (by decide) (by decide) rfl .nil⟩, .inr ⟨fun offset => ?_, ?_⟩⟩
    · unfold mirroringDevice
      dsimp only
      split
      next h => exact iff_of_false (by decide) (by omega)
      next h => exact iff_of_true rfl (by omega)
    · exact .cons (by decide) (by decide) rfl .nil
  exact (readSriovCapability_reports_iff mirroringDevice [0x70] [0x100] {} hlaid rfl).mpr
    (.inr ⟨0x70, 0x100, rfl, rfl, rfl, rfl, rfl, rfl, rfl, rfl⟩)

/-- A device with 31 virtual functions: PCI Express at `0x70`, error reporting at `0x100` and SR-IOV at
`0x320`. -/
def graphicsDevice : PciDevice where
  probes := true
  deviceId := 0x0BD5
  config offset :=
    if 4096 ≤ offset then none
    else
      some (match offset with
        | 0x34 => 0x70 | 0x70 => 0x10 | 0x7C => 0x11 | 0x7E => 0x41
        | 0x100 => 0x01 | 0x103 => 0x32
        | 0x320 => 0x10 | 0x32C => 0x1F | 0x32E => 0x1F | 0x334 => 0x01 | 0x336 => 0x01
        | 0x33A => 0xD5 | 0x33B => 0x0B
        | _ => 0)

/-- Words of the PCI Express capability are reported as the fields of the SR-IOV capability. -/
theorem readSriovCapability_graphics :
    graphicsDevice.LaidOut [0x70] [0x100, 0x320] ∧
      ¬ ∃ info', readSriovCapability graphicsDevice {} = some info' ∧
        ReportsSriov graphicsDevice [0x100, 0x320] info' := by
  have hlaid : graphicsDevice.LaidOut [0x70] [0x100, 0x320] := by
    refine ⟨⟨0x70, rfl, .cons (by decide) (by decide) rfl .nil⟩, .inr ⟨fun offset => ?_, ?_⟩⟩
    · unfold graphicsDevice
      dsimp only
      split
      next h => exact iff_of_false (by decide) (by omega)
      next h => exact iff_of_true rfl (by omega)
    · exact .cons (by decide) (by decide) rfl (.cons (by decide) (by decide) rfl .nil)
  refine ⟨hlaid, ?_⟩
  rintro ⟨info', hinfo, hreports⟩
  have hexpress : graphicsDevice.expressCapability [0x70] = some 0x70 := rfl
  have hsriov : graphicsDevice.sriovCapability [0x100, 0x320] = some 0x320 := rfl
  have hcoincides := (reportsSriov_iff_coincides hlaid hexpress hsriov hinfo).mp hreports
  exact absurd hcoincides.totalVFs (by decide)

end XpuManager
