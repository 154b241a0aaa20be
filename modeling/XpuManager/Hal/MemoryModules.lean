import Mathlib.Algebra.Order.Field.Rat
import XpuManager.Hal.Driver
import XpuManager.Ial.MetricCache
import XpuManager.Lib.Orders
import XpuManager.Lib.Upsert

/-! # Memory modules

A device has some memory modules, which the driver is asked about one by one (`hal/core/memory.cpp`).
-/

namespace XpuManager

namespace MemoryModules

/-! ## The driver -/

inductive MemLocation where
  | system
  | device
  deriving DecidableEq

/-- What the driver says of a memory module. -/
structure MemProperties where
  location : MemLocation
  onSubdevice : Bool
  subdeviceId : UInt32
  physicalSize : UInt64

/-- `zes_mem_health_t`. -/
inductive MemHealth where
  | unknown
  | ok
  | degraded
  | critical
  | replace
  deriving DecidableEq

/-- The state of a memory module. -/
structure MemState where
  health : MemHealth
  free : UInt64
  size : UInt64

/-- What the driver answers for a module. -/
structure MemModule where
  properties : Except ZeError MemProperties
  state : Except ZeError MemState
  bandwidth : Except ZeError MemBandwidth

/-- The tile of a module; 0 for one of the device itself. -/
def MemProperties.tileId (properties : MemProperties) : UInt32 :=
  if properties.onSubdevice then properties.subdeviceId else 0

/-! ## The device -/

/-- The size of the memory of the device. -/
def getMemorySize (modules : List MemModule) : Except ZeError UInt64 :=
  modules.foldlM (fun size m => do
    let state ← m.state
    return size + state.size) 0

/-- The loop of `getMemoryHealth`, which goes on as long as the modules are well. -/
def memoryHealth (health : MemHealth) : List MemModule → Except ZeError MemHealth
  | [] => .ok health
  | m :: modules => do
    let state ← m.state
    if state.health = .critical ∨ state.health = .replace then return state.health
    else if state.health = .degraded then return .degraded
    else if state.health = .ok then memoryHealth .ok modules
    else return .unknown

/-- The health of the memory of the device. -/
def getMemoryHealth (modules : List MemModule) : Except ZeError MemHealth :=
  memoryHealth .unknown modules

/-- What a module holds in all, as the hardware has it or, if that is not known, as it can be used. -/
def moduleTotal (properties : MemProperties) (state : MemState) : UInt64 :=
  if properties.physicalSize = 0 then state.size else properties.physicalSize

/-- What is used of a module. -/
def moduleUsed (properties : MemProperties) (state : MemState) : UInt64 :=
  if state.free ≤ moduleTotal properties state then moduleTotal properties state - state.free else 0

/-- The used bytes and all bytes, with those of one more module. -/
def addUsed (sums : UInt64 × UInt64) (m : MemModule) : Except ZeError (UInt64 × UInt64) := do
  let properties ← m.properties
  let state ← m.state
  return (sums.1 + moduleUsed properties state, sums.2 + moduleTotal properties state)

/-- The used bytes of all modules, and how many percent of all bytes they are. -/
def getMemoryUsed (modules : List MemModule) : Except ZeError (UInt64 × ℚ) := do
  let (totalUsedBytes, totalSizeBytes) ← modules.foldlM addUsed (0, 0)
  return (totalUsedBytes,
    if 0 < totalSizeBytes then (totalUsedBytes.toNat : ℚ) * 100 / totalSizeBytes.toNat else 0)

/-! ## The tiles -/

/-- The bytes of a tile's modules. -/
structure TileSize where
  tileId : UInt32
  used : UInt64
  total : UInt64

structure MemoryUsageData where
  tileId : UInt32
  usedBytes : UInt64
  utilizationPercent : ℚ

/-- What asking a module ends with, and what it adds to its tile. A module that does not answer, or is
not on the device, is passed over. -/
def usageOf (m : MemModule) : ZeResult × Option (UInt32 × UInt64 × UInt64) :=
  match m.properties with
  | .error result => (result.1, none)
  | .ok properties =>
    if properties.location ≠ .device then (.success, none)
    else
      match m.state with
      | .error result => (result.1, none)
      | .ok state => (.success, some (properties.tileId, state.size - state.free,
          if 0 < properties.physicalSize then properties.physicalSize else state.size))

/-- A module is added to its tile. -/
def TileSize.add (tile : TileSize) (used total : UInt64) : TileSize where
  tileId := tile.tileId
  used := tile.used + used
  total := tile.total + total

/-- The use of a module is added to its tile, which may be a new one. -/
def addUsage (tiles : List TileSize) (usage : UInt32 × UInt64 × UInt64) : List TileSize :=
  Upsert.upsert TileSize.tileId usage.1 (fun tile => tile.add usage.2.1 usage.2.2)
    ⟨usage.1, usage.2.1, usage.2.2⟩ tiles

def TileSize.usage (tile : TileSize) : MemoryUsageData where
  tileId := tile.tileId
  usedBytes := tile.used
  utilizationPercent := if 0 < tile.total then (tile.used.toNat : ℚ) / tile.total.toNat * 100 else 0

/-- The result is that of the last module. -/
def getMemoryUsagePerTile (modules : List MemModule) : ZeResult × List MemoryUsageData :=
  ((modules.getLast?.map fun m => (usageOf m).1).getD .success,
    ((modules.filterMap fun m => (usageOf m).2).foldl addUsage []).map TileSize.usage)

structure MemoryBandwidthData where
  tileId : UInt32
  readCounter : UInt64
  writeCounter : UInt64
  maxBandwidth : UInt64
  timestamp : UInt64

def bandwidthOf (m : MemModule) : ZeResult × Option (UInt32 × MemBandwidth) :=
  match m.properties with
  | .error result => (result.1, none)
  | .ok properties =>
    if properties.location ≠ .device then (.success, none)
    else
      match m.bandwidth with
      | .error result => (result.1, none)
      | .ok bandwidth => (.success, some (properties.tileId, bandwidth))

/-- A tile with one module. -/
def MemoryBandwidthData.ofModule (tileId : UInt32) (bandwidth : MemBandwidth) : MemoryBandwidthData where
  tileId := tileId
  readCounter := bandwidth.readCounter
  writeCounter := bandwidth.writeCounter
  maxBandwidth := bandwidth.maxBandwidth
  timestamp := bandwidth.timestamp

/-- The counters of a module are added to its tile. -/
def MemoryBandwidthData.add (tile : MemoryBandwidthData) (bandwidth : MemBandwidth) :
    MemoryBandwidthData where
  tileId := tile.tileId
  readCounter := tile.readCounter + bandwidth.readCounter
  writeCounter := tile.writeCounter + bandwidth.writeCounter
  maxBandwidth := tile.maxBandwidth + bandwidth.maxBandwidth
  timestamp := if tile.timestamp < bandwidth.timestamp then bandwidth.timestamp else tile.timestamp

/-- The counters of a module are added to its tile, which may be a new one. -/
def addBandwidth (tiles : List MemoryBandwidthData) (entry : UInt32 × MemBandwidth) :
    List MemoryBandwidthData :=
  Upsert.upsert MemoryBandwidthData.tileId entry.1 (fun tile => tile.add entry.2)
    (.ofModule entry.1 entry.2) tiles

/-- The traffic of the memory, for each tile. -/
def getMemoryBandwidthPerTile (modules : List MemModule) : ZeResult × List MemoryBandwidthData :=
  ((modules.getLast?.map fun m => (bandwidthOf m).1).getD .success,
    (modules.filterMap fun m => (bandwidthOf m).2).foldl addBandwidth [])

/-! ## The health -/

/-- A module whose state can be read. -/
structure MemReading where
  properties : Except ZeError MemProperties
  state : MemState
  bandwidth : Except ZeError MemBandwidth

def MemReading.module (reading : MemReading) : MemModule :=
  ⟨reading.properties, .ok reading.state, reading.bandwidth⟩

/-- In the order of severity; what is not known is not worse than anything. -/
def MemHealth.severity : MemHealth → Nat
  | .unknown => 0
  | .ok => 1
  | .degraded => 2
  | .critical => 3
  | .replace => 4

/-- The health of some modules together is the most severe one that is known of, and unknown only if no
module is known to be degraded or worse. -/
structure MostSevere (healths : List MemHealth) (health : MemHealth) : Prop where
  known : health ≠ .unknown →
    health ∈ healths ∧ ∀ other ∈ healths, other.severity ≤ health.severity
  unknown : health = .unknown → ∀ other ∈ healths, other.severity < MemHealth.degraded.severity

/-- The health of all modules, once the first one that is not well is known. -/
def decidedBy (readings : List MemReading) (bad : Option MemReading) : MemHealth :=
  (bad.map fun reading => reading.state.health).getD (if readings = [] then .unknown else .ok)

/-- The first module that is not well decides. -/
theorem memoryHealth_eq (health : MemHealth) (readings : List MemReading) :
    memoryHealth health (readings.map MemReading.module) =
      .ok (((readings.find? fun reading => reading.state.health ≠ .ok).map
        fun reading => reading.state.health).getD (if readings = [] then health else .ok)) := by
  induction readings generalizing health with
  | nil => rfl
  | cons reading readings ih =>
    rw [List.map_cons, memoryHealth]
    change (if _ then _ else _ : Except ZeError MemHealth) = _
    by_cases hok : reading.state.health = .ok
    · rw [hok, if_neg (by decide), if_neg (by decide), if_pos rfl, ih,
        List.find?_cons_of_neg (by simpa using hok)]
      cases readings <;> rfl
    · rw [List.find?_cons_of_pos (by simpa using hok), Option.map_some, Option.getD_some]
      cases hhealth : reading.state.health
      case ok => exact absurd hhealth hok
      all_goals rfl

theorem getMemoryHealth_eq (readings : List MemReading) :
    getMemoryHealth (readings.map MemReading.module) =
      .ok (decidedBy readings (readings.find? fun reading => reading.state.health ≠ .ok)) :=
  memoryHealth_eq .unknown readings

theorem decidedBy_perm {readings readings' : List MemReading} (h : readings'.Perm readings)
    (bad : Option MemReading) : decidedBy readings' bad = decidedBy readings bad := by
  have hnil : readings' = [] ↔ readings = [] :=
    ⟨fun h' => (h' ▸ h).nil_eq.symm, fun h' => (h' ▸ h).eq_nil⟩
  simp only [decidedBy, hnil]

theorem severity_lt_degraded_iff {health : MemHealth} :
    health.severity < MemHealth.degraded.severity ↔ health = .unknown ∨ health = .ok := by
  cases health <;> decide

theorem severity_injective : Function.Injective MemHealth.severity := by
  intro health other h
  cases health <;> cases other <;> first | rfl | cases h

/-- Some modules are not well, and all of them in the same way. -/
theorem mostSevere_of_forall {healths : List MemHealth} {health : MemHealth} (hmem : health ∈ healths)
    (hne : health ≠ .ok) (h : ∀ other ∈ healths, other ≠ .ok → other = health) :
    MostSevere healths health where
  known := by
    refine fun hknown => ⟨hmem, fun other hother => ?_⟩
    by_cases hok : other = .ok
    · have hbad : ¬health.severity < MemHealth.degraded.severity := by
        rw [severity_lt_degraded_iff]
        exact not_or_intro hknown hne
      rw [hok]
      exact (Nat.le_succ 1).trans (Nat.le_of_not_lt hbad)
    · rw [h other hother hok]
  unknown := by
    intro hunknown other hother
    rw [severity_lt_degraded_iff]
    by_cases hok : other = .ok
    · exact .inr hok
    · exact .inl ((h other hother hok).trans hunknown)

/-- Two of the modules that are not well are both the worst. -/
theorem MostSevere.unique {healths : List MemHealth} {health other : MemHealth}
    (h : MostSevere healths health) (h' : MostSevere healths other) (hne : health ≠ .ok)
    (hne' : other ≠ .ok) (hmem : health ∈ healths) (hmem' : other ∈ healths) : health = other := by
  by_cases hunknown : health = .unknown
  · have hlt := severity_lt_degraded_iff.mp (h.unknown hunknown other hmem')
    rw [hunknown, hlt.resolve_right hne']
  · by_cases hunknown' : other = .unknown
    · have hlt := severity_lt_degraded_iff.mp (h'.unknown hunknown' health hmem)
      exact absurd (hlt.resolve_right hne) hunknown
    · exact severity_injective
        (Nat.le_antisymm ((h'.known hunknown').2 health hmem) ((h.known hunknown).2 other hmem'))

theorem mostSevere_of_all_ok {healths : List MemHealth} (h : ∀ health ∈ healths, health = .ok) :
    MostSevere healths (if healths = [] then .unknown else .ok) := by
  split
  next hnil =>
    rw [hnil]
    exact ⟨fun hne => absurd rfl hne, fun _ _ hmem => absurd hmem List.not_mem_nil⟩
  next hne =>
    obtain ⟨health, hmem⟩ := List.exists_mem_of_ne_nil healths hne
    refine ⟨fun _ => ⟨h health hmem ▸ hmem, fun other hother => ?_⟩, nofun⟩
    rw [h other hother]

/-- **When the health of all modules is the most severe one**, in whichever order they come: exactly if
no two modules that are not well differ. -/
theorem getMemoryHealth_mostSevere_iff (readings : List MemReading) :
    (∀ readings' : List MemReading, readings'.Perm readings →
      ∃ health, getMemoryHealth (readings'.map MemReading.module) = .ok health ∧
        MostSevere (readings.map fun reading => reading.state.health) health) ↔
      ∀ a ∈ readings, ∀ b ∈ readings, a.state.health ≠ .ok → b.state.health ≠ .ok →
        a.state.health = b.state.health := by
  have hfound : (∀ readings' : List MemReading, readings'.Perm readings →
      ∃ health, getMemoryHealth (readings'.map MemReading.module) = .ok health ∧
        MostSevere (readings.map fun reading => reading.state.health) health) ↔
      ∀ readings' : List MemReading, readings'.Perm readings →
        MostSevere (readings.map fun reading => reading.state.health)
          (decidedBy readings (readings'.find? fun reading => reading.state.health ≠ .ok)) := by
    refine forall₂_congr fun readings' hperm => ?_
    rw [getMemoryHealth_eq, decidedBy_perm hperm]
    exact ⟨fun ⟨_, hok, hmost⟩ => (Except.ok.inj hok) ▸ hmost, fun hmost => ⟨_, rfl, hmost⟩⟩
  refine hfound.trans ((Orders.forall_perm_find?_iff (P := fun bad =>
    MostSevere (readings.map fun reading => reading.state.health) (decidedBy readings bad))).trans ?_)
  have hmem : ∀ a ∈ readings, a.state.health ∈ readings.map fun reading => reading.state.health :=
    fun a ha => List.mem_map.mpr ⟨a, ha, rfl⟩
  constructor
  · rintro ⟨hbad, -⟩ a ha b hb hne hne'
    exact (hbad a ha (decide_eq_true hne)).unique (hbad b hb (decide_eq_true hne')) hne hne'
      (hmem a ha) (hmem b hb)
  · intro h
    refine ⟨fun a ha hne => ?_, fun hall => ?_⟩
    · refine mostSevere_of_forall (hmem a ha) (of_decide_eq_true hne) ?_
      rw [List.forall_mem_map]
      exact fun b hb hne' => h b hb a ha hne' (of_decide_eq_true hne)
    · have hmost : MostSevere (readings.map fun reading => reading.state.health)
          (if readings.map (fun reading => reading.state.health) = [] then .unknown else .ok) := by
        refine mostSevere_of_all_ok ?_
        rw [List.forall_mem_map]
        exact fun a ha => by_contra fun hne => hall a ha (decide_eq_true hne)
      simp only [List.map_eq_nil_iff] at hmost
      exact hmost

/-- Two modules on the device, one after the other. -/
def mixedHealth : List MemReading :=
  [⟨.ok ⟨.device, true, 0, 0⟩, ⟨.degraded, 0, 0⟩, .error ZeError.notAvailable⟩,
    ⟨.ok ⟨.device, true, 1, 0⟩, ⟨.critical, 0, 0⟩, .error ZeError.notAvailable⟩]

/-- A degraded module comes before a critical one. -/
theorem getMemoryHealth_degraded_first : ¬∀ readings readings' : List MemReading,
    readings'.Perm readings → ∃ health, getMemoryHealth (readings'.map MemReading.module) = .ok health ∧
      MostSevere (readings.map fun reading => reading.state.health) health := by
  intro h
  obtain ⟨health, hok, hmost⟩ := h mixedHealth mixedHealth (List.Perm.refl _)
  obtain rfl : MemHealth.degraded = health := Except.ok.inj hok
  have hle := (hmost.known nofun).2 .critical (List.mem_cons_of_mem _ List.mem_cons_self)
  exact absurd hle (by decide)

end MemoryModules

end XpuManager
