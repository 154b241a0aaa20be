import Mathlib.Data.UInt

/-! # Snapshots of counters

Rates are computed from two snapshots of a device's counters (`ial/cmn/metrics_registry.cpp`). The
`after` of one tick is the `before` of the next. -/

namespace XpuManager

/-! ## Readings -/

/-- The counters of an engine group at one time. -/
structure EngineSnapshot where
  active : UInt64 := 0
  ts : UInt64 := 0
  deriving DecidableEq, Inhabited

/-- The energy of a domain at one time. -/
structure EnergySnapshot where
  energy : UInt64 := 0
  ts : UInt64 := 0
  deriving DecidableEq, Inhabited

/-- The energies that are read for one snapshot; its time is that of the card. -/
structure EnergyReading where
  card : EnergySnapshot
  gpu : EnergySnapshot

def EnergyReading.ts (reading : EnergyReading) : UInt64 := reading.card.ts

/-- The counters of the link at one time. -/
structure PcieSnapshot where
  tx : UInt64 := 0
  rx : UInt64 := 0
  timeUs : UInt64 := 0
  deriving DecidableEq, Inhabited

/-- The counters of the memory at one time. -/
structure MemSnapshot where
  read : UInt64 := 0
  write : UInt64 := 0
  ts : UInt64 := 0
  deriving DecidableEq, Inhabited

/-- The engine groups of `ENGINE_MAP`. -/
inductive EngineSlot where
  | all
  | compute
  | render
  | media
  | copy
  deriving DecidableEq

/-- The counters of an engine group in both samples. -/
structure EngineSample where
  before : EngineSnapshot := {}
  after : EngineSnapshot := {}
  deriving DecidableEq

structure EuMetricsData where
  euActive : UInt64 := 0
  euStall : UInt64 := 0
  euIdle : UInt64 := 0
  subdeviceId : UInt32 := 0xFFFFFFFF
  scaleFactor : Int := 1000
  deriving DecidableEq

inductive PowerDomain where
  | unknown
  | card
  | package
  | stack
  | memory
  | gpu
  deriving DecidableEq

/-- What the calls for one power domain answer; `none` is a failure. -/
structure PowerHandle where
  domain : Option PowerDomain
  counter : Option EnergySnapshot

/-- The power domains, as the reads for the card and for the GPU find them. -/
structure PowerAnswers where
  card : List PowerHandle
  gpu : List PowerHandle

/-- `zes_pci_stats_t`. -/
structure PciStats where
  timestamp : UInt64
  replayCounter : UInt64
  rxCounter : UInt64
  txCounter : UInt64

structure PciProperties where
  haveBandwidthCounters : Bool
  haveReplayCounters : Bool

structure PciAnswers where
  stats : Option PciStats
  properties : Option PciProperties

/-- `zes_mem_bandwidth_t`. -/
structure MemBandwidth where
  readCounter : UInt64
  writeCounter : UInt64
  maxBandwidth : UInt64
  timestamp : UInt64

/-- What the hardware layer answers while one snapshot is taken. `none` stands for a part that the
device does not have, or for a call that fails. -/
structure HalAnswers where
  engines : Option (EngineSlot → Option EngineSnapshot)
  power : Option PowerAnswers
  pci : Option PciAnswers
  memory : Option (List (Option MemBandwidth))
  metric : Option (List EuMetricsData)

/-! ## The hardware layer -/

/-- The loop of `getEnergy`, over `powerCount` domains in all. A result that is not written leaves the
snapshot as it was. -/
def findEnergy (powerCount : Nat) (domain : PowerDomain) (old : EnergySnapshot) :
    List PowerHandle → Bool × EnergySnapshot
  | [] => (true, old)
  | handle :: handles =>
    match handle.domain with
    | none => (false, old)
    | some found =>
      if found ≠ domain ∧ (powerCount ≠ 1 ∨ found ≠ .package) then
        findEnergy powerCount domain old handles
      else
        match handle.counter with
        | none => (false, old)
        | some energy => (true, energy)

def getEnergy (handles : List PowerHandle) (old : EnergySnapshot) (forGPU : Bool) :
    Bool × EnergySnapshot :=
  findEnergy handles.length (if forGPU then .gpu else .card) old handles

/-- The results of `getMemoryRW`. -/
structure MemoryRW where
  read : UInt64 := 0
  write : UInt64 := 0
  maxBandwidth : UInt64 := 0
  timeStamp : UInt64 := 0
  deriving DecidableEq

namespace MemoryRW

def add (rw : MemoryRW) (bandwidth : MemBandwidth) : MemoryRW where
  read := rw.read + bandwidth.readCounter
  write := rw.write + bandwidth.writeCounter
  timeStamp := bandwidth.timestamp
  maxBandwidth := bandwidth.maxBandwidth

def snapshot (rw : MemoryRW) : MemSnapshot := ⟨rw.read, rw.write, rw.timeStamp⟩

end MemoryRW

/-- The loop of `getMemoryRW`. A module that fails leaves what has been added up. -/
def addModules (rw : MemoryRW) : List (Option MemBandwidth) → Bool × MemoryRW
  | [] => (true, rw)
  | none :: _ => (false, rw)
  | some bandwidth :: modules => addModules (rw.add bandwidth) modules

/-- The counters of all modules together. -/
def getMemoryRW (modules : List (Option MemBandwidth)) : Bool × MemoryRW := addModules {} modules

/-! ## The cache -/

/-- What the getters of the metrics are given. -/
structure MetricCache where
  engines : EngineSlot → EngineSample := fun _ => {}
  cardPowerBefore : EnergySnapshot := {}
  cardPowerAfter : EnergySnapshot := {}
  gpuPowerBefore : EnergySnapshot := {}
  gpuPowerAfter : EnergySnapshot := {}
  pcieBefore : PcieSnapshot := {}
  pcieAfter : PcieSnapshot := {}
  pcieReplay : UInt64 := 0
  pcieAvail : Bool := false
  pcieBandwidthAvail : Bool := false
  pcieReplayAvail : Bool := false
  memBefore : MemSnapshot := {}
  memAfter : MemSnapshot := {}
  memMaxBandwidth : UInt64 := 0
  memAvail : Bool := false
  engineAvail : Bool := false
  powerAvail : Bool := false
  euSample : EuMetricsData := {}
  euAvail : Bool := false
  populated : Bool := false

namespace HalAnswers

variable (answers : HalAnswers)

/-- `getEnergy`, if there is something to ask. -/
def energy (old : EnergySnapshot) (forGPU : Bool) : Bool × EnergySnapshot :=
  match answers.power with
  | none => (false, old)
  | some power => getEnergy (if forGPU then power.gpu else power.card) old forGPU

def pciStats : Option PciStats := answers.pci.bind PciAnswers.stats

def pciProperties : Option PciProperties := answers.pci.bind PciAnswers.properties

def engine (slot : EngineSlot) : Option EngineSnapshot := answers.engines.bind fun engine => engine slot

end HalAnswers

def PciStats.snapshot (stats : PciStats) : PcieSnapshot :=
  ⟨stats.txCounter, stats.rxCounter, stats.timestamp⟩

/-- The first half of the first tick. -/
def populateMetricCacheBegin (dev : HalAnswers) : MetricCache where
  engines := fun slot => { before := (dev.engine slot).getD {} }
  cardPowerBefore := (dev.energy {} false).2
  gpuPowerBefore := (dev.energy {} true).2
  pcieAvail := dev.pciStats.isSome
  pcieBefore := (dev.pciStats.map PciStats.snapshot).getD {}
  pcieBandwidthAvail := (dev.pciProperties.map PciProperties.haveBandwidthCounters).getD false
  pcieReplayAvail := (dev.pciProperties.map PciProperties.haveReplayCounters).getD false
  memBefore := (dev.memory.map fun modules => (getMemoryRW modules).2.snapshot).getD {}
  memMaxBandwidth := (dev.memory.map fun modules => (getMemoryRW modules).2.maxBandwidth).getD 0

/-- The second half of a tick. -/
def populateMetricCacheEnd (dev : HalAnswers) (cache : MetricCache) : MetricCache :=
  let engines := fun slot =>
    { cache.engines slot with after := (dev.engine slot).getD (cache.engines slot).after }
  let cardPower := dev.energy cache.cardPowerAfter false
  let gpuPower := dev.energy cache.gpuPowerAfter true
  let pcieAfter := (dev.pciStats.map PciStats.snapshot).getD cache.pcieAfter
  let memory := dev.memory.map getMemoryRW
  let memAfter := (memory.map fun rw => rw.2.snapshot).getD cache.memAfter
  { cache with
    engines := engines
    cardPowerAfter := cardPower.2
    gpuPowerAfter := gpuPower.2
    pcieAfter := pcieAfter
    pcieReplay := (dev.pciStats.map PciStats.replayCounter).getD 0
    pcieAvail := cache.pcieAvail && dev.pciStats.isSome && cache.pcieBefore.timeUs < pcieAfter.timeUs
    memAfter := memAfter
    memAvail := (memory.map fun rw =>
      rw.1 && cache.memBefore.ts ≠ 0 && cache.memBefore.ts < memAfter.ts).getD cache.memAvail
    engineAvail := dev.engines.isSome && (engines .all).before.ts ≠ 0 &&
      (engines .all).before.ts < (engines .all).after.ts
    powerAvail := cardPower.1 && cache.cardPowerBefore.ts ≠ 0 &&
      cache.cardPowerBefore.ts < cardPower.2.ts
    euSample := (dev.metric.bind List.head?).getD {}
    euAvail := (dev.metric.bind List.head?).isSome
    populated := true }

/-- A later tick, which begins with what the one before has read. -/
def populateMetricCacheContinuous (dev : HalAnswers) (prev : MetricCache) : MetricCache :=
  populateMetricCacheEnd dev
    { engines := fun slot => { before := (prev.engines slot).after }
      cardPowerBefore := prev.cardPowerAfter
      gpuPowerBefore := prev.gpuPowerAfter
      pcieBefore := prev.pcieAfter
      pcieAvail := prev.pcieAfter.timeUs ≠ 0
      pcieBandwidthAvail := prev.pcieBandwidthAvail
      pcieReplayAvail := prev.pcieReplayAvail
      memBefore := prev.memAfter
      memMaxBandwidth := prev.memMaxBandwidth }

/-- **A run.** The tick `n` is the one between the answers `n` and `n + 1`. -/
def tick (answers : Nat → HalAnswers) : Nat → MetricCache
  | 0 => populateMetricCacheEnd (answers 1) (populateMetricCacheBegin (answers 0))
  | n + 1 => populateMetricCacheContinuous (answers (n + 2)) (tick answers n)

/-! ## Complete readings -/

/-- Two complete readings that a rate can be computed from: the first has a time, and the second a
later one. -/
def Usable {α : Type} (time : α → UInt64) (before after : Option α) : Prop :=
  ∃ b a, before = some b ∧ after = some a ∧ time b ≠ 0 ∧ time b < time a

section Usable

variable {α : Type} {time : α → UInt64} {before after : Option α} {b a : α}

@[simp] theorem usable_some : Usable time (some b) (some a) ↔ time b ≠ 0 ∧ time b < time a := by
  simp [Usable]

@[simp] theorem not_usable_none_left : ¬Usable time none after := fun ⟨_, _, h, _⟩ => by cases h

@[simp] theorem not_usable_none_right : ¬Usable time before none := fun ⟨_, _, _, h, _⟩ => by cases h

end Usable

namespace HalAnswers

variable (answers : HalAnswers)

/-- The energy of the GPU or the card, if all calls for it succeed. A device without the domain has
nothing to write, which leaves zeros. -/
def domainReading (forGPU : Bool) : Option EnergySnapshot :=
  if (answers.energy {} forGPU).1 then some (answers.energy {} forGPU).2 else none

/-- The energies of the card and of the GPU, if both reads succeed. -/
def energyReading : Option EnergyReading :=
  (answers.domainReading false).bind fun card => (answers.domainReading true).map (.mk card)

def pcieReading : Option PcieSnapshot := answers.pciStats.map PciStats.snapshot

/-- The modules that answer before the first that fails. -/
def answering : List (Option MemBandwidth) → List MemBandwidth
  | some bandwidth :: modules => bandwidth :: answering modules
  | none :: _ | [] => []

/-- The counters of some modules together, at the time of the last one. -/
def total (bandwidths : List MemBandwidth) : MemSnapshot :=
  (bandwidths.foldl MemoryRW.add {}).snapshot

/-- What is left in a snapshot, also if not all modules answer. -/
def memLeft : MemSnapshot := ((answers.memory.map answering).map total).getD {}

/-- The counters of all modules, if all answer. -/
def memReading : Option MemSnapshot :=
  match answers.memory with
  | none => none
  | some modules => if modules.all Option.isSome then some (total (answering modules)) else none

end HalAnswers

/-- The flags of a tick say whether its two snapshots are complete readings that a rate can be computed
from, and if they do, the snapshots are these readings. -/
structure FlagsRight (answers : Nat → HalAnswers) (n : Nat) : Prop where
  power : (tick answers n).powerAvail = true ↔
    Usable EnergyReading.ts (answers n).energyReading (answers (n + 1)).energyReading
  pcie : (tick answers n).pcieAvail = true ↔
    Usable PcieSnapshot.timeUs (answers n).pcieReading (answers (n + 1)).pcieReading
  memory : (tick answers n).memAvail = true ↔
    Usable MemSnapshot.ts (answers n).memReading (answers (n + 1)).memReading
  powerData : (tick answers n).powerAvail = true →
    (answers n).energyReading =
        some ⟨(tick answers n).cardPowerBefore, (tick answers n).gpuPowerBefore⟩ ∧
      (answers (n + 1)).energyReading =
        some ⟨(tick answers n).cardPowerAfter, (tick answers n).gpuPowerAfter⟩
  pcieData : (tick answers n).pcieAvail = true →
    (answers n).pcieReading = some (tick answers n).pcieBefore ∧
      (answers (n + 1)).pcieReading = some (tick answers n).pcieAfter
  memoryData : (tick answers n).memAvail = true →
    (answers n).memReading = some (tick answers n).memBefore ∧
      (answers (n + 1)).memReading = some (tick answers n).memAfter

/-- Answers by which a tick is not misled: the energy of the GPU is read where that of the card makes a
rate; the device does not start with PCI counters without a time; and memory modules that answer before
one that fails are not followed by complete and later answers. -/
structure Straight (answers : Nat → HalAnswers) (n : Nat) : Prop where
  power : Usable EnergySnapshot.ts ((answers n).domainReading false)
      ((answers (n + 1)).domainReading false) →
    ((answers n).domainReading true).isSome ∧ ((answers (n + 1)).domainReading true).isSome
  pcie : n = 0 → ∀ before, (answers 0).pcieReading = some before → before.timeUs = 0 →
    ∀ after, (answers 1).pcieReading = some after → after.timeUs = 0
  memory : (answers n).memReading = none → (answers n).memLeft.ts ≠ 0 →
    ∀ after, (answers (n + 1)).memReading = some after → after.ts ≤ (answers n).memLeft.ts

/-! ## What the reads leave -/

/-- A read of the energy that fails leaves the snapshot as it was. -/
theorem findEnergy_of_fails {powerCount : Nat} {domain : PowerDomain} {old : EnergySnapshot}
    {handles : List PowerHandle} (h : (findEnergy powerCount domain old handles).1 = false) :
    (findEnergy powerCount domain old handles).2 = old := by
  induction handles with
  | nil => rfl
  | cons handle handles ih =>
    rw [findEnergy] at h ⊢
    split at h
    case h_1 => rfl
    case h_2 found hfound =>
      split_ifs at h ⊢ with hother
      · exact ih h
      · split at h
        case h_1 => rfl
        case h_2 => cases h

theorem addModules_eq (rw : MemoryRW) (modules : List (Option MemBandwidth)) :
    addModules rw modules = (modules.all Option.isSome,
      (HalAnswers.answering modules).foldl MemoryRW.add rw) := by
  induction modules generalizing rw with
  | nil => rfl
  | cons module modules ih =>
    cases module with
    | none => rfl
    | some bandwidth =>
      rw [addModules, ih]
      rfl

namespace HalAnswers

variable {answers : HalAnswers}

theorem energy_of_fails {forGPU : Bool} (h : (answers.energy {} forGPU).1 = false) :
    (answers.energy {} forGPU).2 = {} := by
  rw [energy] at h ⊢
  cases hpower : answers.power with
  | none => rfl
  | some power =>
    rw [hpower] at h
    exact findEnergy_of_fails h

theorem domainReading_eq_some_iff {forGPU : Bool} {energy : EnergySnapshot} :
    answers.domainReading forGPU = some energy ↔
      (answers.energy {} forGPU).1 = true ∧ (answers.energy {} forGPU).2 = energy := by
  rw [domainReading, Option.ite_none_right_eq_some, Option.some_inj]

theorem energyReading_eq_some_iff {reading : EnergyReading} : answers.energyReading = some reading ↔
    answers.domainReading false = some reading.card ∧
      answers.domainReading true = some reading.gpu := by
  rw [energyReading]
  cases answers.domainReading false with
  | none => simp
  | some card =>
    cases answers.domainReading true with
    | none => simp
    | some gpu =>
      obtain ⟨card', gpu'⟩ := reading
      simp

/-- A read that is shown with a time has succeeded. -/
theorem domainReading_of_ts_ne (h : (answers.energy {} false).2.ts ≠ 0) :
    answers.domainReading false = some (answers.energy {} false).2 := by
  refine domainReading_eq_some_iff.mpr ⟨?_, rfl⟩
  by_contra hfails
  exact h (congrArg EnergySnapshot.ts (energy_of_fails (Bool.eq_false_of_not_eq_true hfails)))

/-- Complete readings are readings of the card between which the GPU is read too. -/
theorem usable_energyReading {before after : HalAnswers} :
    Usable EnergyReading.ts before.energyReading after.energyReading ↔
      Usable EnergySnapshot.ts (before.domainReading false) (after.domainReading false) ∧
        (before.domainReading true).isSome ∧ (after.domainReading true).isSome := by
  constructor
  · rintro ⟨b, a, hb, ha, hts, htime⟩
    obtain ⟨hbcard, hbgpu⟩ := energyReading_eq_some_iff.mp hb
    obtain ⟨hacard, hagpu⟩ := energyReading_eq_some_iff.mp ha
    exact ⟨⟨b.card, a.card, hbcard, hacard, hts, htime⟩, Option.isSome_of_eq_some hbgpu,
      Option.isSome_of_eq_some hagpu⟩
  · rintro ⟨⟨b, a, hb, ha, hts, htime⟩, hbgpu, hagpu⟩
    obtain ⟨bgpu, hbgpu⟩ := Option.isSome_iff_exists.mp hbgpu
    obtain ⟨agpu, hagpu⟩ := Option.isSome_iff_exists.mp hagpu
    exact ⟨⟨b, bgpu⟩, ⟨a, agpu⟩, energyReading_eq_some_iff.mpr ⟨hb, hbgpu⟩,
      energyReading_eq_some_iff.mpr ⟨ha, hagpu⟩, hts, htime⟩

theorem memReading_eq_some_iff {mem : MemSnapshot} : answers.memReading = some mem ↔
    ∃ modules, answers.memory = some modules ∧ modules.all Option.isSome = true ∧
      answers.memLeft = mem := by
  rw [memReading, memLeft]
  cases answers.memory with
  | none => simp
  | some modules => simp [Option.ite_none_right_eq_some]

/-- What a read of the memory leaves, whether it succeeds or not. -/
theorem memLeft_eq (answers : HalAnswers) :
    ((answers.memory.map getMemoryRW).map fun rw => rw.2.snapshot).getD {} = answers.memLeft := by
  rw [memLeft]
  cases answers.memory with
  | none => rfl
  | some modules =>
    simp only [Option.map_some, Option.getD_some, getMemoryRW, addModules_eq]
    rfl

end HalAnswers

/-- **Step lemma.** The snapshots of a tick are what the reads have left, and each is carried over to
the next tick. -/
structure Promoted (cache : MetricCache) (before after : HalAnswers) : Prop where
  cardPowerBefore : cache.cardPowerBefore = (before.energy {} false).2
  cardPowerAfter : cache.cardPowerAfter = (after.energy {} false).2
  gpuPowerBefore : cache.gpuPowerBefore = (before.energy {} true).2
  gpuPowerAfter : cache.gpuPowerAfter = (after.energy {} true).2
  pcieBefore : cache.pcieBefore = before.pcieReading.getD {}
  pcieAfter : cache.pcieAfter = after.pcieReading.getD {}
  memBefore : cache.memBefore = before.memLeft
  memAfter : cache.memAfter = after.memLeft

section Ticks

variable (answers : Nat → HalAnswers) (n : Nat)

theorem tick_promoted : Promoted (tick answers n) (answers n) (answers (n + 1)) := by
  induction n with
  | zero =>
    refine ⟨rfl, rfl, rfl, rfl, rfl, rfl, ?_, (answers 1).memLeft_eq⟩
    rw [← (answers 0).memLeft_eq, Option.map_map]
    rfl
  | succ n ih =>
    exact ⟨ih.cardPowerAfter, rfl, ih.gpuPowerAfter, rfl, ih.pcieAfter, rfl, ih.memAfter,
      (answers (n + 2)).memLeft_eq⟩

theorem tick_powerAvail : (tick answers n).powerAvail = true ↔
    ((answers (n + 1)).energy {} false).1 = true ∧ (tick answers n).cardPowerBefore.ts ≠ 0 ∧
      (tick answers n).cardPowerBefore.ts < (tick answers n).cardPowerAfter.ts := by
  have hflag : (tick answers n).powerAvail = (((answers (n + 1)).energy {} false).1 &&
      (tick answers n).cardPowerBefore.ts ≠ 0 &&
      (tick answers n).cardPowerBefore.ts < (tick answers n).cardPowerAfter.ts) := by
    cases n <;> rfl
  simp only [hflag, Bool.and_eq_true, decide_eq_true_eq, and_assoc]

theorem tick_memAvail : (tick answers n).memAvail = true ↔
    (answers (n + 1)).memReading = some (tick answers n).memAfter ∧
      (tick answers n).memBefore.ts ≠ 0 ∧
      (tick answers n).memBefore.ts < (tick answers n).memAfter.ts := by
  have hflag : (tick answers n).memAvail = (((answers (n + 1)).memory.map getMemoryRW).map fun rw =>
      rw.1 && (tick answers n).memBefore.ts ≠ 0 &&
      (tick answers n).memBefore.ts < (tick answers n).memAfter.ts).getD false := by
    cases n <;> rfl
  rw [hflag, HalAnswers.memReading_eq_some_iff, (tick_promoted answers n).memAfter]
  cases (answers (n + 1)).memory with
  | none => simp
  | some modules =>
    simp only [Option.map_some, Option.getD_some, getMemoryRW, addModules_eq, Bool.and_eq_true,
      decide_eq_true_eq, and_assoc, Option.some.injEq, exists_eq_left', and_true]

/-- In the first tick a time is not asked for. -/
theorem tick_pcieAvail : (tick answers n).pcieAvail = true ↔
    (answers n).pcieReading.isSome = true ∧ (answers (n + 1)).pcieReading.isSome = true ∧
      (n = 0 ∨ (tick answers n).pcieBefore.timeUs ≠ 0) ∧
      (tick answers n).pcieBefore.timeUs < (tick answers n).pcieAfter.timeUs := by
  have hsome (m : Nat) : (answers m).pcieReading.isSome = (answers m).pciStats.isSome :=
    Option.isSome_map
  rw [hsome, hsome]
  cases n with
  | zero =>
    have hflag : (tick answers 0).pcieAvail = ((answers 0).pciStats.isSome &&
        (answers 1).pciStats.isSome &&
        (tick answers 0).pcieBefore.timeUs < (tick answers 0).pcieAfter.timeUs) := rfl
    simp only [hflag, Bool.and_eq_true, decide_eq_true_eq, and_assoc, true_or, true_and, zero_add]
  | succ n =>
    have hflag : (tick answers (n + 1)).pcieAvail = ((tick answers (n + 1)).pcieBefore.timeUs ≠ 0 &&
        (answers (n + 2)).pciStats.isSome &&
        (tick answers (n + 1)).pcieBefore.timeUs < (tick answers (n + 1)).pcieAfter.timeUs) := rfl
    have hread : (tick answers (n + 1)).pcieBefore.timeUs ≠ 0 → (answers (n + 1)).pciStats.isSome := by
      rw [(tick_promoted answers (n + 1)).pcieBefore, HalAnswers.pcieReading]
      cases (answers (n + 1)).pciStats with
      | none => exact fun h => absurd rfl h
      | some stats => exact fun _ => rfl
    simp only [hflag, Bool.and_eq_true, decide_eq_true_eq, Nat.succ_ne_zero, false_or]
    constructor
    · rintro ⟨⟨hbefore, hafter⟩, htime⟩
      exact ⟨hread hbefore, hafter, hbefore, htime⟩
    · rintro ⟨-, hafter, hbefore, htime⟩
      exact ⟨⟨hbefore, hafter⟩, htime⟩

/-! ## When the flags are right -/

/-- The flag is that of the energy of the card. -/
theorem tick_power : (tick answers n).powerAvail = true ↔
    Usable EnergySnapshot.ts ((answers n).domainReading false)
      ((answers (n + 1)).domainReading false) := by
  have hp := tick_promoted answers n
  rw [tick_powerAvail, hp.cardPowerBefore, hp.cardPowerAfter]
  constructor
  · rintro ⟨hok, hts, htime⟩
    exact ⟨_, _, HalAnswers.domainReading_of_ts_ne hts,
      HalAnswers.domainReading_eq_some_iff.mpr ⟨hok, rfl⟩, hts, htime⟩
  · rintro ⟨b, a, hb, ha, hts, htime⟩
    obtain ⟨-, rfl⟩ := HalAnswers.domainReading_eq_some_iff.mp hb
    obtain ⟨hok, rfl⟩ := HalAnswers.domainReading_eq_some_iff.mp ha
    exact ⟨hok, hts, htime⟩

theorem tick_power_iff : ((tick answers n).powerAvail = true ↔
      Usable EnergyReading.ts (answers n).energyReading (answers (n + 1)).energyReading) ↔
    (Usable EnergySnapshot.ts ((answers n).domainReading false)
        ((answers (n + 1)).domainReading false) →
      ((answers n).domainReading true).isSome ∧ ((answers (n + 1)).domainReading true).isSome) := by
  rw [tick_power, HalAnswers.usable_energyReading]
  exact iff_self_and

/-- The energies that were read are the ones compared, if the flag is right. -/
theorem tick_powerData (hflag : (tick answers n).powerAvail = true →
      Usable EnergyReading.ts (answers n).energyReading (answers (n + 1)).energyReading)
    (h : (tick answers n).powerAvail = true) :
    (answers n).energyReading =
        some ⟨(tick answers n).cardPowerBefore, (tick answers n).gpuPowerBefore⟩ ∧
      (answers (n + 1)).energyReading =
        some ⟨(tick answers n).cardPowerAfter, (tick answers n).gpuPowerAfter⟩ := by
  have hp := tick_promoted answers n
  have hread {m : Nat} {reading : EnergyReading} (hm : (answers m).energyReading = some reading) :
      reading = ⟨((answers m).energy {} false).2, ((answers m).energy {} true).2⟩ := by
    obtain ⟨hcard, hgpu⟩ := HalAnswers.energyReading_eq_some_iff.mp hm
    rw [(HalAnswers.domainReading_eq_some_iff.mp hcard).2,
      (HalAnswers.domainReading_eq_some_iff.mp hgpu).2]
  obtain ⟨b, a, hb, ha, -⟩ := hflag h
  rw [hp.cardPowerBefore, hp.gpuPowerBefore, hp.cardPowerAfter, hp.gpuPowerAfter, ← hread hb,
    ← hread ha]
  exact ⟨hb, ha⟩

/-- Two PCI readings are compared if both succeed. -/
theorem tick_pcieData (h : (tick answers n).pcieAvail = true) :
    (answers n).pcieReading = some (tick answers n).pcieBefore ∧
      (answers (n + 1)).pcieReading = some (tick answers n).pcieAfter := by
  have hp := tick_promoted answers n
  obtain ⟨hb, ha, -⟩ := (tick_pcieAvail answers n).mp h
  rw [hp.pcieBefore, hp.pcieAfter]
  obtain ⟨b, hb⟩ := Option.isSome_iff_exists.mp hb
  obtain ⟨a, ha⟩ := Option.isSome_iff_exists.mp ha
  rw [hb, ha]
  exact ⟨rfl, rfl⟩

/-- The flag of the PCIe readings; the exception is a first reading at time 0. -/
theorem tick_pcie_iff : ((tick answers n).pcieAvail = true ↔
      Usable PcieSnapshot.timeUs (answers n).pcieReading (answers (n + 1)).pcieReading) ↔
    (n = 0 → ∀ before, (answers 0).pcieReading = some before → before.timeUs = 0 →
      ∀ after, (answers 1).pcieReading = some after → after.timeUs = 0) := by
  have hp := tick_promoted answers n
  rw [tick_pcieAvail, hp.pcieBefore, hp.pcieAfter]
  cases hb : (answers n).pcieReading with
  | none =>
    refine iff_of_true (by simp) ?_
    rintro rfl before hbefore
    rw [hb] at hbefore
    cases hbefore
  | some b =>
  cases ha : (answers (n + 1)).pcieReading with
  | none =>
    refine iff_of_true (by simp) ?_
    rintro rfl before - - after hafter
    rw [ha] at hafter
    cases hafter
  | some a =>
  cases n with
  | succ n => exact iff_of_true (by simp) fun h => absurd h (Nat.succ_ne_zero n)
  | zero =>
    rw [hb, ha]
    simp only [Option.isSome_some, Option.getD_some, true_or, true_and, usable_some, forall_true_left,
      Option.some.injEq, forall_eq']
    have hzero : b.timeUs = 0 → (b.timeUs < a.timeUs ↔ a.timeUs ≠ 0) := by
      intro h
      rw [h]
      exact UInt64.pos_iff_ne_zero
    tauto

/-- The flag of the memory readings, with the time that a failed read leaves. -/
theorem tick_memory_iff : ((tick answers n).memAvail = true ↔
      Usable MemSnapshot.ts (answers n).memReading (answers (n + 1)).memReading) ↔
    ((answers n).memReading = none → (answers n).memLeft.ts ≠ 0 →
      ∀ after, (answers (n + 1)).memReading = some after → after.ts ≤ (answers n).memLeft.ts) := by
  have hp := tick_promoted answers n
  rw [tick_memAvail, hp.memBefore, hp.memAfter]
  cases ha : (answers (n + 1)).memReading with
  | none => exact iff_of_true (by simp) fun _ _ after h => by cases h
  | some a =>
  obtain ⟨-, -, -, hleft⟩ := HalAnswers.memReading_eq_some_iff.mp ha
  rw [hleft]
  cases hb : (answers n).memReading with
  | some b =>
    obtain ⟨-, -, -, hleft'⟩ := HalAnswers.memReading_eq_some_iff.mp hb
    rw [hleft']
    exact iff_of_true (by simp) fun h => by cases h
  | none =>
    simp only [true_and, not_usable_none_left, iff_false, forall_true_left, Option.some.injEq,
      forall_eq', not_and, UInt64.not_lt]

/-- The reading that was complete is the one compared with, if the flag is right. -/
theorem tick_memoryData (hflag : (tick answers n).memAvail = true →
      Usable MemSnapshot.ts (answers n).memReading (answers (n + 1)).memReading)
    (h : (tick answers n).memAvail = true) :
    (answers n).memReading = some (tick answers n).memBefore ∧
      (answers (n + 1)).memReading = some (tick answers n).memAfter := by
  obtain ⟨b, -, hb, -⟩ := hflag h
  obtain ⟨-, -, -, hleft⟩ := HalAnswers.memReading_eq_some_iff.mp hb
  rw [(tick_promoted answers n).memBefore, hleft]
  exact ⟨hb, ((tick_memAvail answers n).mp h).1⟩

theorem flagsRight_iff_straight : FlagsRight answers n ↔ Straight answers n := by
  constructor
  · intro h
    exact ⟨(tick_power_iff answers n).mp h.power, (tick_pcie_iff answers n).mp h.pcie,
      (tick_memory_iff answers n).mp h.memory⟩
  · intro h
    have hpower := (tick_power_iff answers n).mpr h.power
    have hmemory := (tick_memory_iff answers n).mpr h.memory
    exact ⟨hpower, (tick_pcie_iff answers n).mpr h.pcie, hmemory, tick_powerData answers n hpower.mp,
      tick_pcieData answers n, tick_memoryData answers n hmemory.mp⟩

end Ticks

/-- **When the flags are right in a whole run.** For every sequence of answers: exactly if no tick is
misled. -/
theorem flagsRight_iff (answers : Nat → HalAnswers) :
    (∀ n, FlagsRight answers n) ↔ ∀ n, Straight answers n :=
  forall_congr' (flagsRight_iff_straight answers)

/-- **After a failure** a rate is available again in the second good tick, and not before. -/
theorem memAvail_returns {answers : Nat → HalAnswers} (h : ∀ n, Straight answers n) {n : Nat}
    (hfails : (answers (n + 1)).memReading = none)
    (hgood : Usable MemSnapshot.ts (answers (n + 2)).memReading (answers (n + 3)).memReading) :
    (tick answers n).memAvail = false ∧ (tick answers (n + 1)).memAvail = false ∧
      (tick answers (n + 2)).memAvail = true := by
  have hright := (flagsRight_iff answers).mpr h
  refine ⟨?_, ?_, (hright (n + 2)).memory.mpr hgood⟩
  · rw [Bool.eq_false_iff, Ne, (hright n).memory, hfails]
    exact not_usable_none_right
  · rw [Bool.eq_false_iff, Ne, (hright (n + 1)).memory, hfails]
    exact not_usable_none_left

/-- A device with nothing but two memory modules. The second fails in the first snapshot. -/
def failingModule : Nat → HalAnswers
  | 0 =>
    { engines := none, power := none, pci := none, metric := none
      memory := some [some ⟨100, 0, 1000, 10⟩, none] }
  | _ =>
    { engines := none, power := none, pci := none, metric := none
      memory := some [some ⟨110, 0, 1000, 20⟩, some ⟨500, 0, 1000, 20⟩] }

/-- The read counter of one module is compared with that of both. -/
theorem memAvail_misled : ¬∀ (answers : Nat → HalAnswers) (n : Nat), FlagsRight answers n := by
  intro h
  have havail : (tick failingModule 0).memAvail = true := by decide
  obtain ⟨b, a, hb, -⟩ := (h failingModule 0).memory.mp havail
  cases hb

end XpuManager
