import Mathlib.Tactic.NormNum.Basic
import XpuManager.Hal.MemoryModules
import XpuManager.Lib.WordSums

/-! # Memory of the device and of its tiles

The same modules are read for the whole device and for each tile, and the readers add up different
fields (`hal/core/memory.cpp`, `ial/cmn/metrics/memory.cpp`). -/

namespace XpuManager

namespace MemoryModules

open WordSums

/-! ## The metrics -/

/-- In MiB; a double that a number of bytes has been converted to is taken as exact. -/
def toMiB (bytes : Nat) : ℚ := bytes / (1024 * 1024)

/-- The metric `memory.total`. -/
def memoryTotal (modules : List MemModule) : Except ZeError ℚ := do
  let size ← getMemorySize modules
  return toMiB size.toNat

/-- The metric `memory.used`. -/
def memoryUsed (modules : List MemModule) : Except ZeError ℚ := do
  let (usedBytes, _) ← getMemoryUsed modules
  return toMiB usedBytes.toNat

/-- What is negative counts as 0. -/
def clampNegative (freeBytes : Int64) : Nat := if 0 < freeBytes then freeBytes.toInt.toNat else 0

/-- The metric `FREE`. Two 64-bit numbers are subtracted as signed ones. -/
def memoryFree (modules : List MemModule) : Except ZeError ℚ := do
  let totalBytes ← getMemorySize modules
  let (usedBytes, _) ← getMemoryUsed modules
  return toMiB (clampNegative (totalBytes.toInt64 - usedBytes.toInt64))

/-- The calls of `getMemoryRW` succeed or not. -/
def getMemoryRW (modules : List MemModule) : Bool × MemoryRW :=
  XpuManager.getMemoryRW (modules.map fun m => m.bandwidth.toOption)

/-! ## Capacity -/

/-- A module on the device whose sizes can be read. What is free can be used, and what can be used is
there, as far as the capacity is known. -/
structure MemUsage where
  properties : MemProperties
  onDevice : properties.location = .device
  state : MemState
  bandwidth : Except ZeError MemBandwidth
  free_le : state.free ≤ state.size
  size_le : properties.physicalSize = 0 ∨ state.size ≤ properties.physicalSize

namespace MemUsage

def module (usage : MemUsage) : MemModule := ⟨.ok usage.properties, .ok usage.state, usage.bandwidth⟩

def size (usage : MemUsage) : UInt64 := usage.state.size

def free (usage : MemUsage) : UInt64 := usage.state.free

def capacity (usage : MemUsage) : UInt64 := moduleTotal usage.properties usage.state

theorem size_le_capacity (usage : MemUsage) : usage.size ≤ usage.capacity := by
  rw [capacity, moduleTotal]
  split
  · exact UInt64.le_refl _
  next hne => exact usage.size_le.resolve_left hne

theorem moduleUsed_eq (usage : MemUsage) :
    moduleUsed usage.properties usage.state = usage.capacity - usage.free :=
  if_pos (UInt64.le_trans usage.free_le usage.size_le_capacity)

end MemUsage

/-- Capacity, use and free memory fit together, for the device and its tiles. -/
structure UsageConsistent (usages : List MemUsage) (usedBytes : UInt64) (tiles : List MemoryUsageData)
    (total used free : ℚ) : Prop where
  tiles : sumOf MemoryUsageData.usedBytes tiles = usedBytes
  total : total = used + free
  free : free = toMiB (sumOf MemUsage.free usages).toNat

theorem getMemorySize_eq (usages : List MemUsage) :
    getMemorySize (usages.map MemUsage.module) = .ok (sumOf MemUsage.size usages) := by
  rw [getMemorySize, List.foldlM_map]
  exact List.foldlM_pure ..

theorem foldl_addUsed (usages : List MemUsage) :
    usages.foldl (fun sums usage => (sums.1 + moduleUsed usage.properties usage.state,
        sums.2 + moduleTotal usage.properties usage.state)) ((0, 0) : UInt64 × UInt64) =
      (sumOf MemUsage.capacity usages - sumOf MemUsage.free usages, sumOf MemUsage.capacity usages) := by
  rw [← sumOf_sub]
  induction usages using List.reverseRecOn with
  | nil => rfl
  | append_singleton usages usage ih =>
    rw [List.foldl_concat, ih, sumOf_concat, sumOf_concat, usage.moduleUsed_eq]
    rfl

/-- **Spec of `getMemoryUsed`.** -/
theorem getMemoryUsed_eq (usages : List MemUsage) :
    ∃ utilization, getMemoryUsed (usages.map MemUsage.module) =
      .ok (sumOf MemUsage.capacity usages - sumOf MemUsage.free usages, utilization) := by
  have hsums : (usages.map MemUsage.module).foldlM addUsed (0, 0) =
      .ok (sumOf MemUsage.capacity usages - sumOf MemUsage.free usages,
        sumOf MemUsage.capacity usages) := by
    rw [List.foldlM_map, ← foldl_addUsed]
    exact List.foldlM_pure ..
  rw [getMemoryUsed, hsums]
  exact ⟨_, rfl⟩

theorem filterMap_usageOf (usages : List MemUsage) :
    (usages.map MemUsage.module).filterMap (fun m => (usageOf m).2) =
      usages.map fun usage => (usage.properties.tileId, usage.size - usage.free, usage.capacity) := by
  rw [List.filterMap_map, ← List.filterMap_eq_map]
  refine List.filterMap_congr fun usage _ => ?_
  have hcapacity : (if 0 < usage.properties.physicalSize then usage.properties.physicalSize
      else usage.state.size) = usage.capacity := by
    rw [MemUsage.capacity, moduleTotal]
    by_cases hzero : usage.properties.physicalSize = 0
    · rw [hzero, if_neg (UInt64.lt_irrefl 0), if_pos rfl]
    · rw [if_pos (UInt64.pos_iff_ne_zero.mpr hzero), if_neg hzero]
  simp [MemUsage.module, usageOf, usage.onDevice, hcapacity, MemUsage.size, MemUsage.free]

/-- **Spec of `getMemoryUsagePerTile`.** -/
theorem getMemoryUsagePerTile_eq (usages : List MemUsage) :
    ∃ tiles, getMemoryUsagePerTile (usages.map MemUsage.module) = (.success, tiles) ∧
      sumOf MemoryUsageData.usedBytes tiles =
        sumOf MemUsage.size usages - sumOf MemUsage.free usages := by
  refine ⟨_, Prod.ext ?_ rfl, ?_⟩
  · rw [getMemoryUsagePerTile, List.getLast?_map]
    cases usages.getLast? with
    | none => rfl
    | some usage => simp [MemUsage.module, usageOf, usage.onDevice]
  · rw [getMemoryUsagePerTile, filterMap_usageOf, sumOf, Upsert.gather_map, ← sumOf_sub]
    refine (Upsert.gather_foldl_upsert TileSize.tileId
      (v := fun usage : UInt32 × UInt64 × UInt64 => usage.2.1) (fun _ => rfl) (fun _ _ => rfl)
      _).trans ?_
    rw [Upsert.gather_map]

theorem clampNegative_toInt64 (bytes : UInt64) :
    clampNegative bytes.toInt64 = if bytes.toNat < 0x8000000000000000 then bytes.toNat else 0 := by
  have htoInt : bytes.toInt64.toInt =
      if 2 * bytes.toNat < 0x10000000000000000 then (bytes.toNat : ℤ)
      else bytes.toNat - (0x10000000000000000 : ℕ) :=
    BitVec.toInt_eq_toNat_cond bytes.toBitVec
  have hlt := bytes.toNat_lt
  simp only [clampNegative, Int64.lt_iff_toInt_lt, htoInt, Int64.toInt_zero]
  split_ifs <;> omega

theorem toMiB_injective : Function.Injective toMiB := by
  intro bytes other h
  have hne : (1024 * 1024 : ℚ) ≠ 0 := by norm_num
  exact Nat.cast_injective ((div_left_inj' hne).mp h)

theorem toMiB_add (bytes other : Nat) : toMiB (bytes + other) = toMiB bytes + toMiB other := by
  rw [toMiB, toMiB, toMiB, Nat.cast_add, add_div]

/-- With as much in use as the capacity leaves, three numbers fit together. -/
theorem sizes_fit_iff (size capacity free : UInt64) :
    size - free = capacity - free ∧
        size.toNat = (capacity - free).toNat + clampNegative (size - (capacity - free)).toInt64 ∧
        clampNegative (size - (capacity - free)).toInt64 = free.toNat ↔
      capacity = size ∧ free ≤ size ∧ free < 0x8000000000000000 := by
  have hback : size - (size - free) = free := by grind
  have hclamp : clampNegative free.toInt64 = free.toNat ↔ free < 0x8000000000000000 := by
    rw [clampNegative_toInt64, UInt64.lt_iff_toNat_lt, UInt64.toNat_ofNat]
    split_ifs <;> omega
  constructor
  · rintro ⟨hused, htotal, hfree⟩
    obtain rfl : size = capacity := (UInt64.sub_left_inj free).mp hused
    rw [hback] at htotal hfree
    refine ⟨rfl, UInt64.le_iff_toNat_le.mpr ?_, hclamp.mp hfree⟩
    omega
  · rintro ⟨rfl, hle, hlt⟩
    rw [hback, hclamp.mpr hlt, UInt64.toNat_sub_of_le _ _ hle]
    have hle' := UInt64.le_iff_toNat_le.mp hle
    exact ⟨rfl, (Nat.sub_add_cancel hle').symm, rfl⟩

/-- **When capacity, use and free memory fit together**: exactly if the modules' capacities add up to
what can be used, and what is free is no more than that and not negative as a signed number. -/
theorem usageConsistent_iff (usages : List MemUsage) :
    (∃ usedBytes utilization tiles total used free,
        getMemoryUsed (usages.map MemUsage.module) = .ok (usedBytes, utilization) ∧
        getMemoryUsagePerTile (usages.map MemUsage.module) = (.success, tiles) ∧
        memoryTotal (usages.map MemUsage.module) = .ok total ∧
        memoryUsed (usages.map MemUsage.module) = .ok used ∧
        memoryFree (usages.map MemUsage.module) = .ok free ∧
        UsageConsistent usages usedBytes tiles total used free) ↔
      sumOf MemUsage.capacity usages = sumOf MemUsage.size usages ∧
        sumOf MemUsage.free usages ≤ sumOf MemUsage.size usages ∧
        sumOf MemUsage.free usages < 0x8000000000000000 := by
  obtain ⟨utilization, hused⟩ := getMemoryUsed_eq usages
  obtain ⟨tiles, htiles, hsum⟩ := getMemoryUsagePerTile_eq usages
  have htotal : memoryTotal (usages.map MemUsage.module) =
      .ok (toMiB (sumOf MemUsage.size usages).toNat) := by
    rw [memoryTotal, getMemorySize_eq]
    rfl
  have husedMiB : memoryUsed (usages.map MemUsage.module) =
      .ok (toMiB (sumOf MemUsage.capacity usages - sumOf MemUsage.free usages).toNat) := by
    rw [memoryUsed, hused]
    rfl
  have hfree : memoryFree (usages.map MemUsage.module) =
      .ok (toMiB (clampNegative (sumOf MemUsage.size usages -
        (sumOf MemUsage.capacity usages - sumOf MemUsage.free usages)).toInt64)) := by
    rw [memoryFree, getMemorySize_eq, hused]
    rfl
  rw [← sizes_fit_iff]
  constructor
  · rintro ⟨usedBytes, _, tiles', total, used, free, hused', htiles', htotal', husedMiB', hfree', h⟩
    obtain ⟨rfl, -⟩ := Prod.mk.inj (Except.ok.inj (hused.symm.trans hused'))
    obtain rfl := (Prod.mk.inj (htiles.symm.trans htiles')).2
    obtain rfl := Except.ok.inj (htotal.symm.trans htotal')
    obtain rfl := Except.ok.inj (husedMiB.symm.trans husedMiB')
    obtain rfl := Except.ok.inj (hfree.symm.trans hfree')
    refine ⟨hsum.symm.trans h.tiles, toMiB_injective ?_, toMiB_injective h.free⟩
    rw [toMiB_add]
    exact h.total
  · rintro ⟨hone, htwo, hthree⟩
    refine ⟨_, _, _, _, _, _, hused, htiles, htotal, husedMiB, hfree, hsum.trans hone, ?_, ?_⟩
    · rw [← toMiB_add, htwo]
    · rw [hthree]

/-- With less than 2^63 bytes on the device, all fits together exactly if every module can use its
capacity. -/
theorem sums_fit_iff {usages : List MemUsage}
    (h : (usages.map fun usage => usage.capacity.toNat).sum < 0x8000000000000000) :
    sumOf MemUsage.capacity usages = sumOf MemUsage.size usages ∧
        sumOf MemUsage.free usages ≤ sumOf MemUsage.size usages ∧
        sumOf MemUsage.free usages < 0x8000000000000000 ↔
      ∀ usage ∈ usages, usage.capacity = usage.size := by
  have hsize : ∀ usage ∈ usages, usage.size.toNat ≤ usage.capacity.toNat :=
    fun usage _ => UInt64.le_iff_toNat_le.mp usage.size_le_capacity
  have hfree : ∀ usage ∈ usages, usage.free.toNat ≤ usage.size.toNat :=
    fun usage _ => UInt64.le_iff_toNat_le.mp usage.free_le
  have hsizes := List.sum_le_sum hsize
  have hfrees := List.sum_le_sum hfree
  simp only [UInt64.le_iff_toNat_le, UInt64.lt_iff_toNat_lt, UInt64.toNat_ofNat, ← UInt64.toNat_inj]
  rw [toNat_sumOf (f := MemUsage.capacity) (by omega), toNat_sumOf (f := MemUsage.size) (by omega),
    toNat_sumOf (f := MemUsage.free) (by omega), sum_map_eq_iff hsize]
  exact ⟨fun hall => hall.1, fun hall => ⟨hall, hfrees, by omega⟩⟩

/-- A module whose hardware has more memory than can be used. -/
def reservedModule : MemUsage where
  properties := ⟨.device, false, 0, 16⟩
  onDevice := rfl
  state := ⟨.ok, 10, 12⟩
  bandwidth := .error ZeError.notAvailable
  free_le := by decide
  size_le := .inr (by decide)

/-- Two bytes of twelve are in use, and they are counted as six. -/
theorem memoryUsed_reserved : ¬∀ usages : List MemUsage, ∃ usedBytes utilization tiles total used free,
    getMemoryUsed (usages.map MemUsage.module) = .ok (usedBytes, utilization) ∧
      getMemoryUsagePerTile (usages.map MemUsage.module) = (.success, tiles) ∧
      memoryTotal (usages.map MemUsage.module) = .ok total ∧
      memoryUsed (usages.map MemUsage.module) = .ok used ∧
      memoryFree (usages.map MemUsage.module) = .ok free ∧
      UsageConsistent usages usedBytes tiles total used free := by
  intro h
  obtain ⟨usedBytes, utilization, tiles, _, _, _, hused, htiles, -, -, -, hconsistent⟩ :=
    h [reservedModule]
  obtain ⟨rfl, -⟩ := Prod.mk.inj (Except.ok.inj hused)
  obtain rfl : _ = tiles := (Prod.mk.inj htiles).2
  exact absurd hconsistent.tiles (by decide)

/-! ## Traffic -/

/-- A module on the device whose counters can be read. -/
structure MemTraffic where
  properties : MemProperties
  onDevice : properties.location = .device
  state : Except ZeError MemState
  bandwidth : MemBandwidth

def MemTraffic.module (traffic : MemTraffic) : MemModule :=
  ⟨.ok traffic.properties, traffic.state, .ok traffic.bandwidth⟩

/-- The traffic of the device is that of its tiles. -/
structure RwConsistent (rw : MemoryRW) (tiles : List MemoryBandwidthData) : Prop where
  read : rw.read = sumOf MemoryBandwidthData.readCounter tiles
  write : rw.write = sumOf MemoryBandwidthData.writeCounter tiles
  maxBandwidth : rw.maxBandwidth = sumOf MemoryBandwidthData.maxBandwidth tiles
  timeStamp : rw.timeStamp = latest MemoryBandwidthData.timestamp tiles

/-- **Spec of `getMemoryRW`.** Counters are added, and of the rest the last module's is kept. -/
theorem addModules_eq (rw : MemoryRW) (bandwidths : List MemBandwidth) :
    addModules rw (bandwidths.map some) = (true, bandwidths.foldl MemoryRW.add rw) := by
  induction bandwidths generalizing rw with
  | nil => rfl
  | cons bandwidth bandwidths ih =>
    rw [List.map_cons, addModules, ih, List.foldl_cons]

theorem foldl_add_read (bandwidths : List MemBandwidth) :
    (bandwidths.foldl MemoryRW.add {}).read = sumOf MemBandwidth.readCounter bandwidths := by
  induction bandwidths using List.reverseRecOn with
  | nil => rfl
  | append_singleton bandwidths bandwidth ih =>
    rw [List.foldl_concat, sumOf_concat, ← ih]
    rfl

theorem foldl_add_write (bandwidths : List MemBandwidth) :
    (bandwidths.foldl MemoryRW.add {}).write = sumOf MemBandwidth.writeCounter bandwidths := by
  induction bandwidths using List.reverseRecOn with
  | nil => rfl
  | append_singleton bandwidths bandwidth ih =>
    rw [List.foldl_concat, sumOf_concat, ← ih]
    rfl

theorem filterMap_bandwidthOf (traffics : List MemTraffic) :
    (traffics.map MemTraffic.module).filterMap (fun m => (bandwidthOf m).2) =
      traffics.map fun traffic => (traffic.properties.tileId, traffic.bandwidth) := by
  rw [List.filterMap_map, ← List.filterMap_eq_map]
  refine List.filterMap_congr fun traffic _ => ?_
  simp [MemTraffic.module, bandwidthOf, traffic.onDevice]

/-- **Spec of `getMemoryBandwidthPerTile`.** What is gathered from the tiles is gathered from the
modules. -/
theorem gather_bandwidths {op : UInt64 → UInt64 → UInt64} [Std.Associative op] [Std.Commutative op]
    {f : MemoryBandwidthData → UInt64} {g : MemBandwidth → UInt64}
    (hnew : ∀ tileId bandwidth, f (.ofModule tileId bandwidth) = g bandwidth)
    (hadd : ∀ tile bandwidth, f (tile.add bandwidth) = op (f tile) (g bandwidth))
    (traffics : List MemTraffic) :
    Upsert.gather op 0 f (getMemoryBandwidthPerTile (traffics.map MemTraffic.module)).2 =
      Upsert.gather op 0 g (traffics.map MemTraffic.bandwidth) := by
  rw [getMemoryBandwidthPerTile, filterMap_bandwidthOf]
  refine (Upsert.gather_foldl_upsert _ (v := fun entry => g entry.2)
    (fun entry => hnew entry.1 entry.2) (fun entry tile => hadd tile entry.2) _).trans ?_
  rw [Upsert.gather_map, Upsert.gather_map]

theorem getMemoryBandwidthPerTile_success (traffics : List MemTraffic) :
    (getMemoryBandwidthPerTile (traffics.map MemTraffic.module)).1 = .success := by
  rw [getMemoryBandwidthPerTile, List.getLast?_map]
  cases traffics.getLast? with
  | none => rfl
  | some traffic => simp [MemTraffic.module, bandwidthOf, traffic.onDevice]

/-- **Spec of `getMemoryRW`.** -/
theorem getMemoryRW_eq (traffics : List MemTraffic) : getMemoryRW (traffics.map MemTraffic.module) =
    (true, (traffics.map MemTraffic.bandwidth).foldl MemoryRW.add {}) := by
  rw [getMemoryRW, XpuManager.getMemoryRW, ← addModules_eq, List.map_map, List.map_map]
  rfl

/-- **When the traffic of the device is that of its tiles**: exactly if the module that comes last has
the bandwidth of all modules and the latest timestamp. -/
theorem rwConsistent_iff (traffics : List MemTraffic) :
    (∃ rw tiles, getMemoryRW (traffics.map MemTraffic.module) = (true, rw) ∧
        getMemoryBandwidthPerTile (traffics.map MemTraffic.module) = (.success, tiles) ∧
        RwConsistent rw tiles) ↔
      ∀ last ∈ traffics.getLast?,
        last.bandwidth.maxBandwidth = sumOf (fun traffic => traffic.bandwidth.maxBandwidth) traffics ∧
          ∀ traffic ∈ traffics, traffic.bandwidth.timestamp ≤ last.bandwidth.timestamp := by
  have htiles : (∃ rw tiles, getMemoryRW (traffics.map MemTraffic.module) = (true, rw) ∧
      getMemoryBandwidthPerTile (traffics.map MemTraffic.module) = (.success, tiles) ∧
      RwConsistent rw tiles) ↔ RwConsistent ((traffics.map MemTraffic.bandwidth).foldl MemoryRW.add {})
        (getMemoryBandwidthPerTile (traffics.map MemTraffic.module)).2 := by
    rw [getMemoryRW_eq]
    constructor
    · rintro ⟨rw, tiles, hrw, htiles, hconsistent⟩
      rwa [htiles, (Prod.mk.inj hrw).2]
    · exact fun hconsistent => ⟨_, _, rfl,
        Prod.ext (getMemoryBandwidthPerTile_success traffics) rfl, hconsistent⟩
  rw [htiles]
  have hread : sumOf MemoryBandwidthData.readCounter _ = sumOf MemBandwidth.readCounter _ :=
    gather_bandwidths (fun _ _ => rfl) (fun _ _ => rfl) traffics
  have hwrite : sumOf MemoryBandwidthData.writeCounter _ = sumOf MemBandwidth.writeCounter _ :=
    gather_bandwidths (fun _ _ => rfl) (fun _ _ => rfl) traffics
  have hmax : sumOf MemoryBandwidthData.maxBandwidth _ = sumOf MemBandwidth.maxBandwidth _ :=
    gather_bandwidths (fun _ _ => rfl) (fun _ _ => rfl) traffics
  have hlatest : latest MemoryBandwidthData.timestamp _ = latest MemBandwidth.timestamp _ :=
    gather_bandwidths (fun _ _ => rfl) (fun _ _ => rfl) traffics
  have hfields : RwConsistent ((traffics.map MemTraffic.bandwidth).foldl MemoryRW.add {})
      (getMemoryBandwidthPerTile (traffics.map MemTraffic.module)).2 ↔
        ((traffics.map MemTraffic.bandwidth).foldl MemoryRW.add {}).maxBandwidth =
            sumOf MemBandwidth.maxBandwidth (traffics.map MemTraffic.bandwidth) ∧
          ((traffics.map MemTraffic.bandwidth).foldl MemoryRW.add {}).timeStamp =
            latest MemBandwidth.timestamp (traffics.map MemTraffic.bandwidth) := by
    rw [← hmax, ← hlatest]
    exact ⟨fun h => ⟨h.maxBandwidth, h.timeStamp⟩, fun h =>
      ⟨(foldl_add_read _).trans hread.symm, (foldl_add_write _).trans hwrite.symm, h.1, h.2⟩⟩
  rw [hfields]
  obtain rfl | ⟨front, last, rfl⟩ := List.eq_nil_or_concat traffics
  · exact iff_of_true ⟨rfl, rfl⟩ nofun
  · rw [List.concat_eq_append, List.map_append, List.map_singleton, List.foldl_concat,
      ← List.map_singleton, ← List.map_append, sumOf, latest, Upsert.gather_map, Upsert.gather_map,
      List.getLast?_concat]
    have hmem : last ∈ front ++ [last] := List.mem_append_right _ (List.mem_singleton_self last)
    have hts : last.bandwidth.timestamp = latest (fun traffic => traffic.bandwidth.timestamp)
        (front ++ [last]) ↔ ∀ traffic ∈ front ++ [last],
          traffic.bandwidth.timestamp ≤ last.bandwidth.timestamp :=
      eq_latest_iff (f := fun traffic : MemTraffic => traffic.bandwidth.timestamp) hmem
    rw [← latest, ← sumOf]
    simp only [Option.mem_def, Option.some.injEq, forall_eq', ← hts]
    rfl

/-- Two modules of one tile, as they are read at the same time. -/
def twoModules : List MemTraffic :=
  [⟨⟨.device, false, 0, 0⟩, rfl, .error ZeError.notAvailable, ⟨1, 2, 100, 7⟩⟩,
    ⟨⟨.device, false, 0, 0⟩, rfl, .error ZeError.notAvailable, ⟨3, 4, 100, 7⟩⟩]

/-- The second module's bandwidth stands for both. -/
theorem getMemoryRW_second : ¬∀ traffics : List MemTraffic, ∃ rw tiles,
    getMemoryRW (traffics.map MemTraffic.module) = (true, rw) ∧
      getMemoryBandwidthPerTile (traffics.map MemTraffic.module) = (.success, tiles) ∧
      RwConsistent rw tiles := by
  intro h
  obtain ⟨rw, tiles, hrw, htiles, hconsistent⟩ := h twoModules
  obtain rfl : _ = rw := (Prod.mk.inj hrw).2
  obtain rfl : _ = tiles := (Prod.mk.inj htiles).2
  exact absurd hconsistent.maxBandwidth (by decide)

end MemoryModules

end XpuManager
