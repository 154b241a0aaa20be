import Mathlib.Data.Rat.Floor
import Mathlib.Order.Bounds.Basic
import XpuManager.Hal.Driver
import XpuManager.Lib.RunningMax
import XpuManager.Lib.Text

/-! # The statistics of virtual functions

`vf::getVFStatsList` (`hal/core/vf.cpp`) asks the driver twice for the counters of the engines of each
virtual function, and once for its memory. -/

namespace XpuManager

namespace VfStats

/-! ## The driver -/

inductive MemLoc where
  | system
  | device
  | forceUint32
  deriving DecidableEq

structure UtilMem where
  vfMemLocation : MemLoc := .system
  vfMemUtilized : UInt64 := 0
  deriving DecidableEq

/-- The memory of a virtual function, as the driver knows it. -/
structure MemoryQuery where
  result : ZeResult
  entries : List UtilMem

/-- `zesVFManagementGetVFMemoryUtilizationExp2`: with the count zero it stores the number of entries,
and else it writes so many at most. -/
def MemoryQuery.call (query : MemoryQuery) (count : Nat) (buffer : List UtilMem) :
    ZeResult × Nat × List UtilMem :=
  if query.result ≠ .success then (query.result, count, buffer)
  else if count = 0 then (.success, query.entries.length, buffer)
  else
    let written := query.entries.take count
    (.success, written.length, written ++ buffer.drop written.length)

/-- The counters of an engine. -/
structure VFEngineSnapshot where
  engineType : UInt32 := 0
  activeCounterValue : UInt64 := 0
  samplingCounterValue : UInt64 := 0
  deriving DecidableEq

/-- An entry before it is written. -/
def VFEngineSnapshot.blank : VFEngineSnapshot := {}

structure Capabilities where
  vfID : UInt32
  address : PciAddress
  vfDeviceMemSize : UInt64

/-- What the driver answers for a virtual function. The counters are listed twice. -/
structure VfAnswers where
  capabilities : Option Capabilities
  memory : MemoryQuery
  first : Listing VFEngineSnapshot
  second : Listing VFEngineSnapshot

/-! ## Snapshots -/

/-- Where a virtual function is. -/
structure VfAddress where
  domain : UInt32 := 0
  bus : UInt8 := 0
  device : UInt8 := 0
  function : UInt8 := 0
  deriving DecidableEq

def VfAddress.ofParts (domain bus device function : UInt32) : VfAddress :=
  ⟨domain, bus.toUInt8, device.toUInt8, function.toUInt8⟩

/-- `operator>>` for a hexadecimal number. -/
def readHex (cs : Text) : Option (UInt32 × Text) :=
  let (negative, cs) := Numerals.takeSign (cs.dropWhile Numerals.isSpace)
  let cs := Numerals.dropPrefix 16 cs
  let ds := Numerals.leadingDigits 16 cs
  let value := Numerals.ofDigits 16 0 ds
  if ds = [] ∨ 0x100000000 ≤ value then none
  else some (if negative then -UInt32.ofNat value else UInt32.ofNat value, cs.drop ds.length)

/-- `operator>>` for a character. -/
def readChar (cs : Text) : Option (Char × Text) :=
  match cs.dropWhile Numerals.isSpace with
  | [] => none
  | c :: cs => some (c, cs)

/-- An address as `DDDD:BB:DD.F`. -/
def parseAddress (bdfAddress : Text) : Option VfAddress := do
  let (domain, cs) ← readHex bdfAddress
  let (colon1, cs) ← readChar cs
  let (bus, cs) ← readHex cs
  let (colon2, cs) ← readChar cs
  let (device, cs) ← readHex cs
  let (dot, cs) ← readChar cs
  let (function, _) ← readHex cs
  guard (colon1 = ':' ∧ colon2 = ':' ∧ dot = '.')
  return .ofParts domain bus device function

/-- What is read of a virtual function at one time. -/
structure VFSnapshot where
  vfId : UInt32
  address : VfAddress := {}
  vfDeviceMemSize : UInt64 := 0
  memory : UtilMem := {}
  engineSnapshots : List VFEngineSnapshot := []

/-- The count is zero, although there is room for one entry. -/
def getVFMemoryUtilization (query : MemoryQuery) : Option UtilMem :=
  match query.call 0 [{}] with
  | (.success, _, [memoryUtil]) => some memoryUtil
  | _ => none

/-- The room for entries that are not written stays zero. -/
def getAllVFEngineUtilization (engines : Listing VFEngineSnapshot) : Option (List VFEngineSnapshot) :=
  if engines.countResult ≠ .success then none
  else if engines.count = 0 then some []
  else if engines.fillResult ≠ .success then none
  else some (engines.filled.map fun engine => engine.getD .blank)

/-- The first snapshot. `vfListInfo` has the addresses that are listed without the driver, with that of
the physical function in front. -/
def takeSnapshot (vfListInfo : List Text) (i : Nat) (vf : VfAnswers) : VFSnapshot :=
  let memory := (getVFMemoryUtilization vf.memory).getD ⟨.forceUint32, 0⟩
  let engineSnapshots := (getAllVFEngineUtilization vf.first).getD []
  match vf.capabilities with
  | some caps =>
    { vfId := caps.vfID, vfDeviceMemSize := caps.vfDeviceMemSize, memory, engineSnapshots
      address := .ofParts caps.address.domain caps.address.bus caps.address.device caps.address.function }
  | none =>
    { vfId := UInt32.ofNat (i + 1), memory, engineSnapshots
      address := (vfListInfo[i + 1]?.bind parseAddress).getD {} }

/-! ## Utilizations -/

/-- The classes of engines whose utilizations are told apart. -/
inductive EngineClass where
  | media
  | compute
  | render
  | copy
  deriving DecidableEq

/-- The class of a type of engines; `none` for other types. -/
def engineClass (engineType : UInt32) : Option EngineClass :=
  if engineType = 6 ∨ engineType = 7 ∨ engineType = 9 then some .media
  else if engineType = 4 then some .compute
  else if engineType = 5 then some .render
  else if engineType = 8 then some .copy
  else none

/-- The part of the time in which an engine was active, in percent. -/
def utilPercent (first second : VFEngineSnapshot) : ℚ :=
  let activeDelta := second.activeCounterValue - first.activeCounterValue
  let samplingDelta := second.samplingCounterValue - first.samplingCounterValue
  min ((activeDelta.toNat : ℚ) / samplingDelta.toNat * 100) 100

/-- The largest utilization of each class so far. -/
abbrev Maxima := EngineClass → ℚ

/-- One round of the loop over the engines. -/
def Maxima.add (maxima : Maxima) (pair : VFEngineSnapshot × VFEngineSnapshot) : Maxima :=
  let (first, second) := pair
  if first.engineType ≠ second.engineType then maxima
  else if second.samplingCounterValue ≤ first.samplingCounterValue then maxima
  else if second.activeCounterValue < first.activeCounterValue then maxima
  else
    match engineClass first.engineType with
    | none => maxima
    | some c => Function.update maxima c (max (maxima c) (utilPercent first second))

/-- The largest of the utilizations that are known. -/
def maxOverall (maxima : Maxima) : ℚ :=
  [EngineClass.media, .compute, .render, .copy].foldl
    (fun overall c => if 0 ≤ maxima c then max overall (maxima c) else overall) (-1)

/-- What is reported of a virtual function. -/
structure VFStatsInfo where
  vfId : UInt32
  address : VfAddress
  vfDeviceMemSize : UInt64
  memory : UtilMem
  gpuUtilization : ℚ := -1
  utilization : EngineClass → ℚ := fun _ => -1

/-- The statistics of a virtual function, from its two snapshots. -/
def statsOf (snap : VFSnapshot) (second : Listing VFEngineSnapshot) : VFStatsInfo :=
  let stats : VFStatsInfo :=
    { vfId := snap.vfId, address := snap.address, vfDeviceMemSize := snap.vfDeviceMemSize
      memory := snap.memory }
  match getAllVFEngineUtilization second with
  | none => stats
  | some secondSnapshot =>
    if secondSnapshot.length ≠ snap.engineSnapshots.length then stats
    else
      let maxima := (snap.engineSnapshots.zip secondSnapshot).foldl Maxima.add fun _ => -1
      { stats with utilization := maxima, gpuUtilization := maxOverall maxima }

/-- Without any virtual function, the list is left as it is. -/
def getVFStatsList (vfs : List VfAnswers) (vfListInfo : List Text) (statsList : List VFStatsInfo) :
    ZeResult × List VFStatsInfo :=
  if vfs = [] then (.success, statsList)
  else (.success, vfs.mapIdx fun i vf => statsOf (takeSnapshot vfListInfo i vf) vf.second)

/-! ## What the statistics should be -/

/-- The entries that the driver writes, if both calls succeed. -/
def written (engines : Listing VFEngineSnapshot) : List VFEngineSnapshot :=
  if engines.countResult = .success ∧ engines.fillResult = .success then engines.items else []

/-- An engine of the class with sampling counters that increase, and active ones that do not decrease. -/
def Counts (c : EngineClass) (first second : VFEngineSnapshot) : Prop :=
  first.engineType = second.engineType ∧ engineClass first.engineType = some c ∧
    first.samplingCounterValue < second.samplingCounterValue ∧
    first.activeCounterValue ≤ second.activeCounterValue

/-- The utilizations of a class, exactly, from what the driver has written. -/
def utilizations (vf : VfAnswers) (c : EngineClass) : Set ℚ :=
  { u | ∃ first second, (first, second) ∈ (written vf.first).zip (written vf.second) ∧
    Counts c first second ∧
    u = min 100 (100 * ((second.activeCounterValue.toNat : ℚ) - first.activeCounterValue.toNat) /
      (second.samplingCounterValue.toNat - first.samplingCounterValue.toNat)) }

/-- A utilization that is unknown, or the largest of its class. -/
def UtilizationRight (vf : VfAnswers) (c : EngineClass) (u : ℚ) : Prop :=
  u = -1 ∨ 0 ≤ u ∧ u ≤ 100 ∧ IsGreatest (utilizations vf c) u

/-- The driver's values of the memory, if there are any; right utilizations; and the largest of these. -/
structure EntryRight (vf : VfAnswers) (stats : VFStatsInfo) : Prop where
  memory : ∀ entry entries, vf.memory.result = .success → vf.memory.entries = entry :: entries →
    stats.memory = entry
  utilization : ∀ c, UtilizationRight vf c (stats.utilization c)
  gpuUtilization : IsGreatest (Set.range stats.utilization) stats.gpuUtilization

/-- The number of a virtual function. -/
def vfIdOf (i : Nat) (vf : VfAnswers) : UInt32 :=
  match vf.capabilities with
  | some caps => caps.vfID
  | none => UInt32.ofNat (i + 1)

/-- One right entry for each virtual function, in their order. -/
def StatsRight (vfs : List VfAnswers) (run : ZeResult × List VFStatsInfo) : Prop :=
  run.1 = .success ∧ run.2.map VFStatsInfo.vfId = vfs.mapIdx vfIdOf ∧ List.Forall₂ EntryRight vfs run.2

/-- Every virtual function that has memory entries has no memory in use, of the system. -/
def MemoryUnused (vfs : List VfAnswers) : Prop :=
  ∀ vf ∈ vfs, vf.memory.result = .success → ∀ entry ∈ vf.memory.entries.head?, entry = {}

/-! ## Snapshots -/

section

variable {engines : Listing VFEngineSnapshot} {c : EngineClass}
  {first second : VFEngineSnapshot} {pair : VFEngineSnapshot × VFEngineSnapshot}

/-- With the count zero, the buffer is left as it is. -/
theorem getVFMemoryUtilization_eq (query : MemoryQuery) :
    getVFMemoryUtilization query = if query.result = .success then some {} else none := by
  rw [getVFMemoryUtilization, MemoryQuery.call]
  by_cases h : query.result = .success
  · rw [if_neg (not_not.mpr h), if_pos rfl, if_pos h]
  · rw [if_pos h, if_neg h]
    split
    case h_1 heq => exact absurd (Prod.mk.inj heq).1 h
    case h_2 => rfl

/-- A snapshot is what the driver has written, and blank entries. -/
theorem getAllVFEngineUtilization_eq (engines : Listing VFEngineSnapshot) :
    ∃ k, (getAllVFEngineUtilization engines).getD [] = written engines ++ List.replicate k .blank := by
  rw [getAllVFEngineUtilization, written]
  by_cases hcount : engines.countResult = .success
  · rw [if_neg (not_not.mpr hcount)]
    by_cases hzero : engines.count = 0
    · have hitems : engines.items = [] := List.eq_nil_of_length_eq_zero (by have := engines.fits; omega)
      rw [if_pos hzero, hitems, ite_self]
      exact ⟨0, rfl⟩
    · rw [if_neg hzero]
      by_cases hfill : engines.fillResult = .success
      · rw [if_neg (not_not.mpr hfill), if_pos ⟨hcount, hfill⟩, Listing.filled]
        refine ⟨engines.count - engines.items.length, ?_⟩
        rw [Option.getD_some, List.map_append, List.map_map, List.map_replicate]
        exact congrArg (· ++ _) (List.map_id _)
      · rw [if_pos hfill, if_neg fun h => hfill h.2]
        exact ⟨0, rfl⟩
  · rw [if_pos hcount, if_neg fun h => hcount h.1]
    exact ⟨0, rfl⟩

/-! ## Loops over engines -/

instance : Decidable (Counts c first second) := inferInstanceAs (Decidable (_ ∧ _ ∧ _ ∧ _))

/-- The utilization of one engine, if it counts. -/
def utilOf (c : EngineClass) (pair : VFEngineSnapshot × VFEngineSnapshot) : Option ℚ :=
  if Counts c pair.1 pair.2 then some (utilPercent pair.1 pair.2) else none

/-- One pair of samples raises the maximum of each class by its own figures. -/
theorem add_apply (maxima : Maxima) (pair : VFEngineSnapshot × VFEngineSnapshot) (c : EngineClass) :
    maxima.add pair c = ((utilOf c pair).toList).foldl max (maxima c) := by
  obtain ⟨first, second⟩ := pair
  rw [Maxima.add, utilOf]
  by_cases htype : first.engineType = second.engineType
  · rw [if_neg (not_not.mpr htype)]
    by_cases hsampling : second.samplingCounterValue ≤ first.samplingCounterValue
    · rw [if_pos hsampling, if_neg fun h => absurd h.2.2.1 (UInt64.not_lt.mpr hsampling)]
      rfl
    · rw [if_neg hsampling]
      by_cases hactive : second.activeCounterValue < first.activeCounterValue
      · rw [if_pos hactive, if_neg fun h => absurd h.2.2.2 (UInt64.not_le.mpr hactive)]
        rfl
      · rw [if_neg hactive]
        have hcounts : Counts c first second ↔ engineClass first.engineType = some c := by
          refine ⟨fun h => h.2.1, fun h => ?_⟩
          exact ⟨htype, h, UInt64.not_le.mp hsampling, UInt64.not_lt.mp hactive⟩
        cases hclass : engineClass first.engineType with
        | none =>
          rw [if_neg fun h => nomatch hclass.symm.trans (hcounts.mp h)]
          rfl
        | some c' =>
          dsimp only
          by_cases hc : c' = c
          · rw [if_pos (hcounts.mpr (hc ▸ hclass)), hc, Function.update_self]
            rfl
          · rw [if_neg fun h => hc (Option.some.inj (hclass.symm.trans (hcounts.mp h))),
              Function.update_of_ne (Ne.symm hc)]
            rfl
  · rw [if_pos htype, if_neg fun h => htype h.1]
    rfl

theorem foldl_add_apply (pairs : List (VFEngineSnapshot × VFEngineSnapshot)) (maxima : Maxima)
    (c : EngineClass) :
    pairs.foldl Maxima.add maxima c = (pairs.filterMap (utilOf c)).foldl max (maxima c) := by
  induction pairs generalizing maxima with
  | nil => rfl
  | cons pair pairs ih =>
    rw [List.foldl_cons, ih, add_apply, List.filterMap_cons]
    cases utilOf c pair <;> rfl

/-- Blank entries do not count. -/
theorem not_counts_blank_left (c : EngineClass) (second : VFEngineSnapshot) : ¬Counts c .blank second :=
  fun h => nomatch h.2.1

theorem not_counts_blank_right (c : EngineClass) (first : VFEngineSnapshot) : ¬Counts c first .blank :=
  fun h => nomatch (congrArg engineClass h.1).symm.trans h.2.1

/-- Padding both lists adds no figure. -/
theorem filterMap_zip_padded (c : EngineClass) (xs ys : List VFEngineSnapshot) (k l : Nat) :
    ((xs ++ List.replicate k VFEngineSnapshot.blank).zip
      (ys ++ List.replicate l VFEngineSnapshot.blank)).filterMap (utilOf c) =
      (xs.zip ys).filterMap (utilOf c) := by
  induction xs generalizing ys with
  | nil =>
    rw [List.nil_append, List.zip_nil_left, List.filterMap_nil]
    refine List.filterMap_eq_nil_iff.mpr fun pair hpair => if_neg ?_
    rw [List.eq_of_mem_replicate (List.of_mem_zip hpair).1]
    exact not_counts_blank_left c pair.2
  | cons x xs ih =>
    cases ys with
    | nil =>
      rw [List.nil_append, List.zip_nil_right, List.filterMap_nil]
      refine List.filterMap_eq_nil_iff.mpr fun pair hpair => if_neg ?_
      rw [List.eq_of_mem_replicate (List.of_mem_zip hpair).2]
      exact not_counts_blank_right c pair.1
    | cons y ys =>
      rw [List.cons_append, List.cons_append, List.zip_cons_cons, List.zip_cons_cons,
        List.filterMap_cons, List.filterMap_cons, ih]

theorem utilPercent_eq (h : Counts c first second) : utilPercent first second =
    min 100 (100 * ((second.activeCounterValue.toNat : ℚ) - first.activeCounterValue.toNat) /
      (second.samplingCounterValue.toNat - first.samplingCounterValue.toNat)) := by
  obtain ⟨-, -, hsampling, hactive⟩ := h
  have hle := UInt64.le_of_lt hsampling
  rw [utilPercent, UInt64.toNat_sub_of_le _ _ hactive, UInt64.toNat_sub_of_le _ _ hle,
    Nat.cast_sub (UInt64.le_iff_toNat_le.mp hactive), Nat.cast_sub (UInt64.le_iff_toNat_le.mp hle),
    min_comm, mul_comm, mul_div_assoc]

theorem utilPercent_nonneg (first second : VFEngineSnapshot) : 0 ≤ utilPercent first second :=
  le_min (by positivity) (by norm_num)

theorem utilPercent_le (first second : VFEngineSnapshot) : utilPercent first second ≤ 100 :=
  min_le_right _ _

theorem utilOf_eq_some {u : ℚ} (h : utilOf c (first, second) = some u) :
    Counts c first second ∧ u = utilPercent first second := by
  obtain ⟨hcounts, hu⟩ := Option.ite_none_right_eq_some.mp h
  exact ⟨hcounts, (Option.some.inj hu).symm⟩

theorem mem_filterMap_utilOf (vf : VfAnswers) (c : EngineClass) (u : ℚ) :
    u ∈ ((written vf.first).zip (written vf.second)).filterMap (utilOf c) ↔ u ∈ utilizations vf c := by
  rw [List.mem_filterMap]
  constructor
  · rintro ⟨⟨first, second⟩, hmem, hu⟩
    obtain ⟨hcounts, rfl⟩ := utilOf_eq_some hu
    exact ⟨first, second, hmem, hcounts, utilPercent_eq hcounts⟩
  · rintro ⟨first, second, hmem, hcounts, rfl⟩
    exact ⟨(first, second), hmem, (if_pos hcounts).trans (congrArg some (utilPercent_eq hcounts))⟩

/-- A loop over two snapshots finds the largest utilization of each class. -/
theorem foldl_add_right {vf : VfAnswers} {firstSnapshot secondSnapshot : List VFEngineSnapshot}
    (hfirst : firstSnapshot = (getAllVFEngineUtilization vf.first).getD [])
    (hsecond : getAllVFEngineUtilization vf.second = some secondSnapshot) (c : EngineClass) :
    UtilizationRight vf c ((firstSnapshot.zip secondSnapshot).foldl Maxima.add (fun _ => -1) c) := by
  obtain ⟨k, hk⟩ := getAllVFEngineUtilization_eq vf.first
  obtain ⟨l, hl⟩ := getAllVFEngineUtilization_eq vf.second
  rw [hsecond, Option.getD_some] at hl
  rw [foldl_add_apply, hfirst, hk, hl, filterMap_zip_padded]
  have hbounds : ∀ v ∈ ((written vf.first).zip (written vf.second)).filterMap (utilOf c),
      0 ≤ v ∧ v ≤ 100 := by
    intro v hv
    obtain ⟨pair, -, hpair⟩ := List.mem_filterMap.mp hv
    obtain ⟨-, rfl⟩ := utilOf_eq_some hpair
    exact ⟨utilPercent_nonneg _ _, utilPercent_le _ _⟩
  rcases RunningMax.foldl_max_eq_or fun v hv => neg_one_lt_zero.trans_le (hbounds v hv).1 with h | h
  · exact .inl h.2
  · refine .inr ⟨(hbounds _ h.1).1, (hbounds _ h.1).2, ?_⟩
    rw [← Set.ext fun v => mem_filterMap_utilOf vf c v]
    exact h

/-! ## The largest of four classes -/

/-- The overall maximum is the greatest of the four. -/
theorem isGreatest_maxOverall {maxima : Maxima} (h : ∀ c, maxima c = -1 ∨ 0 ≤ maxima c) :
    IsGreatest (Set.range maxima) (maxOverall maxima) := by
  have heq : maxOverall maxima =
      ([EngineClass.media, .compute, .render, .copy].map maxima).foldl max (-1) := by
    rw [maxOverall, ← RunningMax.foldl_ite_max (p := (0 ≤ ·)), List.foldl_map]
    intro u hu hneg
    obtain ⟨c, -, rfl⟩ := List.mem_map.mp hu
    exact ((h c).resolve_right hneg).le
  have hle : ∀ c, maxima c ≤ maxOverall maxima := fun c => by
    rw [heq]
    exact RunningMax.le_foldl_max_of_mem (List.mem_map_of_mem (by cases c <;> decide))
  have hmem : maxOverall maxima ∈ -1 :: [EngineClass.media, .compute, .render, .copy].map maxima := by
    rw [heq]
    exact RunningMax.foldl_max_mem
  refine ⟨?_, Set.forall_mem_range.mpr hle⟩
  rcases List.mem_cons.mp hmem with hmax | hmax
  · have hmedia := hle .media
    exact ⟨.media, hmax ▸ (h .media).resolve_right fun hpos => by linarith⟩
  · obtain ⟨c, -, hc⟩ := List.mem_map.mp hmax
    exact ⟨c, hc⟩

/-! ## Statistics -/

/-- The statistics are those of some maxima, of no engine if the second snapshot does not fit. -/
theorem statsOf_eq (snap : VFSnapshot) (second : Listing VFEngineSnapshot) :
    ∃ maxima : Maxima, statsOf snap second =
        { vfId := snap.vfId, address := snap.address, vfDeviceMemSize := snap.vfDeviceMemSize
          memory := snap.memory, gpuUtilization := maxOverall maxima, utilization := maxima } ∧
      ((maxima = fun _ => -1) ∨ ∃ secondSnapshot, getAllVFEngineUtilization second = some secondSnapshot ∧
        maxima = (snap.engineSnapshots.zip secondSnapshot).foldl Maxima.add fun _ => -1) := by
  have hnone : maxOverall (fun _ => -1) = -1 := by decide
  rw [statsOf]
  cases hsecond : getAllVFEngineUtilization second with
  | none => exact ⟨fun _ => -1, by rw [hnone], .inl rfl⟩
  | some secondSnapshot =>
    by_cases hlength : secondSnapshot.length = snap.engineSnapshots.length
    · exact ⟨_, if_neg (not_not.mpr hlength), .inr ⟨secondSnapshot, rfl, rfl⟩⟩
    · exact ⟨fun _ => -1, by rw [hnone]; exact if_pos hlength, .inl rfl⟩

variable {vf : VfAnswers} {vfs : List VfAnswers}

theorem takeSnapshot_vfId (vfListInfo : List Text) (i : Nat) (vf : VfAnswers) :
    (takeSnapshot vfListInfo i vf).vfId = vfIdOf i vf := by
  rw [takeSnapshot, vfIdOf]
  cases vf.capabilities <;> rfl

theorem takeSnapshot_engineSnapshots (vfListInfo : List Text) (i : Nat) (vf : VfAnswers) :
    (takeSnapshot vfListInfo i vf).engineSnapshots = (getAllVFEngineUtilization vf.first).getD [] := by
  rw [takeSnapshot]
  cases vf.capabilities <;> rfl

theorem takeSnapshot_memory (vfListInfo : List Text) (i : Nat) (vf : VfAnswers) :
    (takeSnapshot vfListInfo i vf).memory =
      if vf.memory.result = .success then {} else ⟨.forceUint32, 0⟩ := by
  have hmemory : (takeSnapshot vfListInfo i vf).memory =
      (getVFMemoryUtilization vf.memory).getD ⟨.forceUint32, 0⟩ := by
    rw [takeSnapshot]
    cases vf.capabilities <;> rfl
  rw [hmemory, getVFMemoryUtilization_eq]
  exact apply_ite (Option.getD · _) _ _ _

theorem statsOf_vfId (vfListInfo : List Text) (i : Nat) (vf : VfAnswers) :
    (statsOf (takeSnapshot vfListInfo i vf) vf.second).vfId = vfIdOf i vf := by
  obtain ⟨maxima, heq, -⟩ := statsOf_eq (takeSnapshot vfListInfo i vf) vf.second
  rw [heq, takeSnapshot_vfId]

/-- Only the memory may be wrong. -/
theorem entryRight_iff (vfListInfo : List Text) (i : Nat) (vf : VfAnswers) :
    EntryRight vf (statsOf (takeSnapshot vfListInfo i vf) vf.second) ↔
      (vf.memory.result = .success → ∀ entry ∈ vf.memory.entries.head?, entry = {}) := by
  obtain ⟨maxima, heq, hmaxima⟩ := statsOf_eq (takeSnapshot vfListInfo i vf) vf.second
  have hright : ∀ c, UtilizationRight vf c (maxima c) := by
    rcases hmaxima with rfl | ⟨secondSnapshot, hsecond, rfl⟩
    · exact fun c => .inl rfl
    · exact foldl_add_right (takeSnapshot_engineSnapshots vfListInfo i vf) hsecond
  rw [heq]
  constructor
  · intro h hresult entry hentry
    obtain ⟨entries, hentries⟩ := List.head?_eq_some_iff.mp hentry
    have hmemory := h.memory entry entries hresult hentries
    rw [takeSnapshot_memory, if_pos hresult] at hmemory
    exact hmemory.symm
  · intro h
    refine ⟨fun entry entries hresult hentries => ?_, hright, ?_⟩
    · rw [takeSnapshot_memory, if_pos hresult]
      exact (h hresult entry (List.head?_eq_some_iff.mpr ⟨entries, hentries⟩)).symm
    · exact isGreatest_maxOverall fun c => (hright c).imp_right And.left

/-- A list of values with their positions is compared where the positions do not matter. -/
theorem forall₂_mapIdx_iff {α β : Type} {R : α → β → Prop} {p : α → Prop} {f : Nat → α → β}
    (h : ∀ i a, R a (f i a) ↔ p a) (xs : List α) :
    List.Forall₂ R xs (xs.mapIdx f) ↔ ∀ a ∈ xs, p a := by
  induction xs generalizing f with
  | nil => exact iff_of_true .nil fun a ha => absurd ha List.not_mem_nil
  | cons x xs ih =>
    rw [List.mapIdx_cons, List.forall₂_cons, List.forall_mem_cons, h 0, ih fun i => h (i + 1)]

/-- The statistics are right exactly if the list is not needed to be cleared, and no memory is in use. -/
theorem getVFStatsList_right_iff (vfs : List VfAnswers) (vfListInfo : List Text)
    (statsList : List VFStatsInfo) :
    StatsRight vfs (getVFStatsList vfs vfListInfo statsList) ↔
      (vfs = [] → statsList = []) ∧ MemoryUnused vfs := by
  rw [getVFStatsList]
  split
  case isTrue h =>
    subst h
    constructor
    · intro hright
      exact ⟨fun _ => List.forall₂_nil_left_iff.mp hright.2.2, fun vf hvf => absurd hvf List.not_mem_nil⟩
    · rintro ⟨hempty, -⟩
      rw [hempty rfl]
      exact ⟨rfl, rfl, .nil⟩
  case isFalse h =>
    have hids : (vfs.mapIdx fun i vf => statsOf (takeSnapshot vfListInfo i vf) vf.second).map
        VFStatsInfo.vfId = vfs.mapIdx vfIdOf := by
      refine (List.mapIdx_eq_iff.mpr fun i => ?_).symm
      rw [List.getElem?_map, List.getElem?_mapIdx, Option.map_map]
      exact congrArg (vfs[i]?.map ·) (funext fun vf => statsOf_vfId vfListInfo i vf)
    have hentries : List.Forall₂ EntryRight vfs
        (vfs.mapIdx fun i vf => statsOf (takeSnapshot vfListInfo i vf) vf.second) ↔ MemoryUnused vfs :=
      forall₂_mapIdx_iff (entryRight_iff vfListInfo) vfs
    exact ⟨fun hright => ⟨fun hvfs => absurd hvfs h, hentries.mp hright.2.2⟩,
      fun hcond => ⟨rfl, hids, hentries.mpr hcond.2⟩⟩

/-- A virtual function that uses device memory. -/
def usesDeviceMemory : VfAnswers where
  capabilities := none
  memory := ⟨.success, [⟨.device, 4096⟩]⟩
  first := ⟨.success, 0, .success, [], List.length_nil.le, 0⟩
  second := ⟨.success, 0, .success, [], List.length_nil.le, 0⟩

/-- The memory of this function is reported as unused. -/
theorem getVFStatsList_not_right : ¬∀ (vfs : List VfAnswers) (vfListInfo : List Text),
    StatsRight vfs (getVFStatsList vfs vfListInfo []) := by
  intro h
  have hmemory := (h [usesDeviceMemory] []).2.2
  cases hmemory with
  | cons hentry _ => exact absurd (hentry.memory ⟨.device, 4096⟩ [] rfl rfl) (by decide)

end

end VfStats

end XpuManager
