import Mathlib.Data.FinEnum
import XpuManager.Lib.Walks
import XpuManager.Oal.PciQuery

/-! # The end of the walk along the capabilities

The walk for the capability 0x10 (`oal/lin/linvf.cpp`) follows bytes of the device and counts nothing.
-/

namespace XpuManager

open Walks Relation

variable {dev : PciDevice} {entry next : UInt8} {turns : ℕ}

namespace PciDevice

/-- The walk goes on from an entry that is not the end of the list, is readable and has another ID. -/
def LeadsTo (dev : PciDevice) (entry next : UInt8) : Prop :=
  entry ≠ 0 ∧ (∃ capId, dev.config entry.toNat = some capId ∧ capId ≠ pciCapIdSriov) ∧
    dev.config (entry.toNat + 1) = some next

/-- From the first entry on, the entries come to one that leads back to itself. -/
def CyclicCapabilities (dev : PciDevice) : Prop :=
  ∃ first entry, dev.config pciCapabilityList = some first ∧
    ReflTransGen dev.LeadsTo first entry ∧ TransGen dev.LeadsTo entry entry

/-- The loop of the reading, if it is come to, leaves after some turns. -/
def ReadingEnds (dev : PciDevice) : Prop :=
  ∀ capPtr, dev.cfgReadU8 pciCapabilityList = some capPtr →
    ∃ turns, (findSriov dev turns capPtr).isSome

/-- The pointer for the next turn of the loop, if there is one. -/
def nextCapability (dev : PciDevice) (capPtr : UInt8) : Option UInt8 :=
  if capPtr = 0 then none
  else
    match dev.cfgReadU8 capPtr.toNat with
    | none => none
    | some capId => if capId = pciCapIdSriov then none else dev.cfgReadU8 (capPtr.toNat + 1)

theorem leads_nextCapability : Leads dev.nextCapability = dev.LeadsTo := by
  funext entry next
  refine propext ?_
  unfold Leads nextCapability LeadsTo cfgReadU8
  by_cases hzero : entry = 0
  · simp [hzero]
  · cases hid : dev.config entry.toNat with
    | none => simp [hzero]
    | some capId =>
      by_cases hsriov : capId = pciCapIdSriov
      · simp [hzero, hsriov]
      · simp [hzero, hsriov]

end PciDevice

/-- One turn of the loop either leaves it or sets the pointer for the next. -/
theorem findSriov_succ (capPtr : UInt8) :
    findSriov dev (turns + 1) capPtr = none ↔
      ∃ next, dev.nextCapability capPtr = some next ∧ findSriov dev turns next = none := by
  unfold PciDevice.nextCapability
  rw [findSriov]
  by_cases hzero : capPtr = 0
  · simp [hzero]
  · rw [if_neg hzero, if_neg hzero]
    cases dev.cfgReadU8 capPtr.toNat with
    | none => simp
    | some capId =>
      by_cases hsriov : capId = pciCapIdSriov
      · simp [hsriov]
      · simp only [if_neg hsriov]
        cases dev.cfgReadU8 (capPtr.toNat + 1) with
        | none => simp
        | some next => simp

/-- After so many turns the loop is still running if there are so many moves. -/
theorem findSriov_eq_none_iff (capPtr : UInt8) :
    findSriov dev turns capPtr = none ↔ ∃ entry, walk dev.nextCapability turns capPtr = some entry := by
  induction turns generalizing capPtr with
  | zero => exact iff_of_true rfl ⟨capPtr, rfl⟩
  | succ turns ih =>
    rw [findSriov_succ]
    constructor
    · rintro ⟨next, hnext, hnone⟩
      obtain ⟨entry, hwalk⟩ := (ih next).mp hnone
      exact ⟨entry, Option.bind_eq_some_iff.mpr ⟨next, hnext, hwalk⟩⟩
    · rintro ⟨entry, hwalk⟩
      obtain ⟨next, hnext, hrest⟩ := Option.bind_eq_some_iff.mp hwalk
      exact ⟨next, hnext, (ih next).mpr ⟨entry, hrest⟩⟩

theorem findSriov_isSome_iff (capPtr : UInt8) :
    (findSriov dev turns capPtr).isSome ↔ walk dev.nextCapability turns capPtr = none := by
  rw [Option.isSome_iff_ne_none, ne_eq, findSriov_eq_none_iff, ← Option.isSome_iff_exists,
    Option.not_isSome_iff_eq_none]

theorem exists_findSriov_iff_stops (capPtr : UInt8) :
    (∃ turns, (findSriov dev turns capPtr).isSome) ↔ Stops dev.nextCapability capPtr :=
  exists_congr fun _ => findSriov_isSome_iff capPtr

theorem cyclicCapabilities_iff :
    dev.CyclicCapabilities ↔
      ∃ first, dev.config pciCapabilityList = some first ∧ Circles dev.nextCapability first := by
  unfold PciDevice.CyclicCapabilities Circles
  rw [PciDevice.leads_nextCapability]
  simp only [exists_and_left]

theorem readingEnds_iff_not_cyclic : dev.ReadingEnds ↔ ¬ dev.CyclicCapabilities := by
  rw [cyclicCapabilities_iff]
  unfold PciDevice.ReadingEnds
  push Not
  refine forall₂_congr fun capPtr hfirst => ?_
  rw [exists_findSriov_iff_stops, stops_iff_not_circles]

theorem card_uInt8 : Fintype.card UInt8 = 256 := FinEnum.card_eq_fintypeCard.symm

/-- A loop that ends takes no more turns than there are pointers. -/
theorem findSriov_256_isSome_iff (capPtr : UInt8) :
    (findSriov dev 256 capPtr).isSome ↔ ∃ turns, (findSriov dev turns capPtr).isSome := by
  refine ⟨fun h => ⟨256, h⟩, fun h => (findSriov_isSome_iff capPtr).mpr ?_⟩
  rw [← card_uInt8]
  exact walk_card_eq_none ((exists_findSriov_iff_stops capPtr).mp h)

/-- It returns where the walk ends. -/
theorem readSriovCapability_isSome_iff (info : PciDeviceInfo) :
    (readSriovCapability dev info).isSome ↔ dev.ReadingEnds := by
  unfold readSriovCapability PciDevice.ReadingEnds
  cases hfirst : dev.cfgReadU8 pciCapabilityList with
  | none => simp
  | some capPtr =>
    simp only [Option.some.injEq, forall_eq', ← findSriov_256_isSome_iff]
    match findSriov dev 256 capPtr with
    | none => rfl
    | some none => rfl
    | some (some _) => rfl

/-- Turns that are not needed change nothing. -/
theorem findSriov_add {capPtr : UInt8} {cap : Option UInt8} (more : ℕ)
    (h : findSriov dev turns capPtr = some cap) :
    findSriov dev (turns + more) capPtr = some cap := by
  induction turns generalizing capPtr with
  | zero => cases h
  | succ turns ih =>
    rw [Nat.succ_add]
    rw [findSriov] at h ⊢
    by_cases hzero : capPtr = 0
    · rwa [if_pos hzero] at h ⊢
    · rw [if_neg hzero] at h ⊢
      cases hid : dev.cfgReadU8 capPtr.toNat with
      | none => rwa [hid] at h
      | some capId =>
        rw [hid] at h
        dsimp only at h ⊢
        by_cases hsriov : capId = pciCapIdSriov
        · rwa [if_pos hsriov] at h ⊢
        · rw [if_neg hsriov] at h ⊢
          cases hnext : dev.cfgReadU8 (capPtr.toNat + 1) with
          | none => rwa [hnext] at h
          | some next =>
            rw [hnext] at h
            exact ih h

/-- What the loop finds within any number of turns it finds within 256. -/
theorem findSriov_256 {capPtr : UInt8} {cap : Option UInt8}
    (h : findSriov dev turns capPtr = some cap) : findSriov dev 256 capPtr = some cap := by
  have hsome : (findSriov dev 256 capPtr).isSome :=
    (findSriov_256_isSome_iff capPtr).mpr ⟨turns, by rw [h]; rfl⟩
  obtain ⟨cap', h'⟩ := Option.isSome_iff_exists.mp hsome
  have hboth := findSriov_add 256 h
  rw [Nat.add_comm, findSriov_add turns h'] at hboth
  rw [h', hboth]

/-- **When the reading of the capability ends**: its loop leaves after some turns unless the entries
of the device lead back to one of them, and then the reading has a result. -/
theorem readSriovCapability_terminates_iff (dev : PciDevice) (info : PciDeviceInfo) :
    (dev.ReadingEnds ↔ ¬ dev.CyclicCapabilities) ∧
      ((readSriovCapability dev info).isSome ↔ dev.ReadingEnds) :=
  ⟨readingEnds_iff_not_cyclic, readSriovCapability_isSome_iff info⟩

/-- A device with one capability, power management at `0x40`, that names itself as the next. -/
def selfLinkedDevice : PciDevice where
  probes := true
  deviceId := 0x0BD5
  config offset :=
    if offset = 0x34 ∨ offset = 0x41 then some 0x40
    else if offset = 0x40 then some 0x01
    else if offset < 256 then some 0 else none

/-- The reading never ends for the device with the capability that names itself. -/
theorem readSriovCapability_selfLinked : ¬ selfLinkedDevice.ReadingEnds := by
  have hself : selfLinkedDevice.LeadsTo 0x40 0x40 :=
    ⟨by decide, ⟨0x01, rfl, by decide⟩, rfl⟩
  rw [readingEnds_iff_not_cyclic, not_not]
  exact ⟨0x40, 0x40, rfl, .refl, .single hself⟩

end XpuManager
