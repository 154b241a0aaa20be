import Mathlib.Algebra.Order.Floor.Semifield
import Mathlib.Data.Rat.Floor
import Mathlib.Tactic.FieldSimp
import Mathlib.Tactic.Ring
import XpuManager.Hal.Driver
import XpuManager.Ial.MetricCache

/-! # Bandwidth

The getters for the traffic of the PCIe link and of the memory (`ial/cmn/metrics/pci.cpp`, `memory.cpp`)
divide the differences of two snapshots. Times are in microseconds; floating-point numbers are exact
here, and 64-bit words wrap. -/

namespace XpuManager

namespace Bandwidth

/-! ## The code -/

/-- What a getter writes. -/
inductive MetricValue where
  | number (value : ℚ)
  | notApplicable
  deriving DecidableEq

/-- `MB/s` from and to the device, which are the bytes in a microsecond. -/
def pcieThroughput (counter : PcieSnapshot → UInt64) (cache : MetricCache) :
    Except ZeResult MetricValue :=
  if !cache.pcieAvail || !cache.pcieBandwidthAvail then .error .notReady
  else
    let dt : ℚ := (cache.pcieAfter.timeUs - cache.pcieBefore.timeUs).toNat
    let bytes : ℚ := (counter cache.pcieAfter - counter cache.pcieBefore).toNat
    .ok (.number (bytes / dt))

/-- What is sent over the link. -/
def txThroughput (cache : MetricCache) : Except ZeResult MetricValue :=
  pcieThroughput PcieSnapshot.tx cache

/-- What is received over the link. -/
def rxThroughput (cache : MetricCache) : Except ZeResult MetricValue :=
  pcieThroughput PcieSnapshot.rx cache

/-- `kB/s`, in integers. -/
def pcieThroughputKbs (counter : PcieSnapshot → UInt64) (cache : MetricCache) :
    Except ZeResult MetricValue :=
  if !cache.pcieAvail || !cache.pcieBandwidthAvail then .error .notReady
  else
    let dt := cache.pcieAfter.timeUs - cache.pcieBefore.timeUs
    let bytes := counter cache.pcieAfter - counter cache.pcieBefore
    .ok (.number (1000000 * bytes / dt / 1000).toNat)

/-- What is received over the link, in kilobytes. -/
def rxThroughputKbs (cache : MetricCache) : Except ZeResult MetricValue :=
  pcieThroughputKbs PcieSnapshot.rx cache

/-- What is sent over the link, in kilobytes. -/
def txThroughputKbs (cache : MetricCache) : Except ZeResult MetricValue :=
  pcieThroughputKbs PcieSnapshot.tx cache

/-- Kilobytes of 1024 bytes in a second. -/
def memoryBandwidth (counter : MemSnapshot → UInt64) (cache : MetricCache) :
    Except ZeResult MetricValue :=
  if !cache.memAvail || cache.memAfter.ts ≤ cache.memBefore.ts then .ok .notApplicable
  else
    let dt : ℚ := (cache.memAfter.ts - cache.memBefore.ts).toNat
    let bytes : ℚ := (counter cache.memAfter - counter cache.memBefore).toNat
    .ok (.number (1000000 * bytes / dt / 1024))

/-- What is read of the memory. -/
def readBandwidth (cache : MetricCache) : Except ZeResult MetricValue :=
  memoryBandwidth MemSnapshot.read cache

/-- What is written to the memory. -/
def writeBandwidth (cache : MetricCache) : Except ZeResult MetricValue :=
  memoryBandwidth MemSnapshot.write cache

/-- The percentage of what the memory can do. The counters are added as words; the code then converts
each of the two sums to a `double`, which the exact numbers here hide. -/
def bandwidthUtilization (cache : MetricCache) : Except ZeResult MetricValue :=
  if !cache.memAvail || cache.memAfter.ts ≤ cache.memBefore.ts || cache.memMaxBandwidth = 0 then
    .ok .notApplicable
  else
    let dt : ℚ := (cache.memAfter.ts - cache.memBefore.ts).toNat
    let deltaBytes : ℚ := ((cache.memAfter.read + cache.memAfter.write).toNat : ℚ) -
      (cache.memBefore.read + cache.memBefore.write).toNat
    .ok (.number (100 * deltaBytes * 1000000 / dt / cache.memMaxBandwidth.toNat))

/-- The power of the card, which looks at the counter first. -/
def cardDraw (cache : MetricCache) : Except ZeResult MetricValue :=
  let before := cache.cardPowerBefore
  let after := cache.cardPowerAfter
  if before.ts = 0 ∨ after.ts < before.ts then .error .unsupportedFeature
  else if after.ts = before.ts then .ok .notApplicable
  else if after.energy < before.energy then .ok .notApplicable
  else .ok (.number ((after.energy - before.energy).toNat / (after.ts - before.ts).toNat))

/-! ## What they should report -/

/-- A getter reports a value unless a counter that it reads has decreased, and then no number. -/
structure Reports (out : Except ZeResult MetricValue) (increased : Prop) (value : ℚ) : Prop where
  number : increased → out = .ok (.number value)
  nothing : ¬increased → ∀ v, out ≠ .ok (.number v)

/-- The difference of two counters that do not wrap. -/
def delta (before after : UInt64) : ℚ := (after.toNat : ℚ) - before.toNat

/-- Bytes in a second. -/
def pcieRate (counter : PcieSnapshot → UInt64) (cache : MetricCache) : ℚ :=
  delta (counter cache.pcieBefore) (counter cache.pcieAfter) * 1000000 /
    delta cache.pcieBefore.timeUs cache.pcieAfter.timeUs

def memoryRate (counter : MemSnapshot → UInt64) (cache : MetricCache) : ℚ :=
  delta (counter cache.memBefore) (counter cache.memAfter) * 1000000 /
    delta cache.memBefore.ts cache.memAfter.ts

/-- The difference of two words is that of the numbers. -/
def SubExact (after before : UInt64) : Prop :=
  ((after - before).toNat : Int) = after.toNat - before.toNat

/-- The product does not wrap. -/
def MulExact (a b : UInt64) : Prop := (a * b).toNat = a.toNat * b.toNat

/-- The getters of one direction of the PCIe link. -/
structure PcieRight (counter : PcieSnapshot → UInt64) (cache : MetricCache) : Prop where
  megabytes : Reports (pcieThroughput counter cache)
    (counter cache.pcieBefore ≤ counter cache.pcieAfter) (pcieRate counter cache / 1000000)
  kilobytes : Reports (pcieThroughputKbs counter cache)
    (counter cache.pcieBefore ≤ counter cache.pcieAfter) ⌊pcieRate counter cache / 1000⌋₊
  difference : SubExact (counter cache.pcieAfter) (counter cache.pcieBefore)
  product : MulExact 1000000 (counter cache.pcieAfter - counter cache.pcieBefore)

structure MemoryRight (counter : MemSnapshot → UInt64) (cache : MetricCache) : Prop where
  kilobytes : Reports (memoryBandwidth counter cache)
    (counter cache.memBefore ≤ counter cache.memAfter) (memoryRate counter cache / 1024)
  difference : SubExact (counter cache.memAfter) (counter cache.memBefore)

/-- All getters report what they should, and nothing wraps. -/
structure BandwidthRight (cache : MetricCache) : Prop where
  tx : PcieRight PcieSnapshot.tx cache
  rx : PcieRight PcieSnapshot.rx cache
  read : MemoryRight MemSnapshot.read cache
  write : MemoryRight MemSnapshot.write cache
  utilization : Reports (bandwidthUtilization cache)
    (cache.memBefore.read ≤ cache.memAfter.read ∧ cache.memBefore.write ≤ cache.memAfter.write)
    (100 * (memoryRate MemSnapshot.read cache + memoryRate MemSnapshot.write cache) /
      cache.memMaxBandwidth.toNat)

/-- Two complete snapshots one after the other, of a memory whose bandwidth is known. -/
structure Cached (cache : MetricCache) : Prop where
  pcieAvail : cache.pcieAvail = true
  pcieBandwidthAvail : cache.pcieBandwidthAvail = true
  pcieTime : cache.pcieBefore.timeUs < cache.pcieAfter.timeUs
  memAvail : cache.memAvail = true
  memTime : cache.memBefore.ts < cache.memAfter.ts
  maxBandwidth : cache.memMaxBandwidth ≠ 0

/-- The counter of a direction did not decrease, and the product fits a word. -/
def PcieFits (counter : PcieSnapshot → UInt64) (cache : MetricCache) : Prop :=
  counter cache.pcieBefore ≤ counter cache.pcieAfter ∧
    1000000 * ((counter cache.pcieAfter).toNat - (counter cache.pcieBefore).toNat) < 0x10000000000000000

/-- No counter decreased, the products fit, and the sum of the memory's counters did not wrap from one
snapshot to the other. -/
structure CountersFit (cache : MetricCache) : Prop where
  tx : PcieFits PcieSnapshot.tx cache
  rx : PcieFits PcieSnapshot.rx cache
  read : cache.memBefore.read ≤ cache.memAfter.read
  write : cache.memBefore.write ≤ cache.memAfter.write
  sum : (cache.memBefore.read.toNat + cache.memBefore.write.toNat) / 0x10000000000000000 =
    (cache.memAfter.read.toNat + cache.memAfter.write.toNat) / 0x10000000000000000

/-! ## Words -/

theorem subExact_iff {after before : UInt64} : SubExact after before ↔ before ≤ after := by
  rw [SubExact, UInt64.le_iff_toNat_le, UInt64.toNat_sub]
  have hafter := after.toNat_lt
  have hbefore := before.toNat_lt
  omega

theorem cast_sub {after before : UInt64} (h : before ≤ after) :
    ((after - before).toNat : ℚ) = delta before after := by
  rw [UInt64.toNat_sub_of_le _ _ h, Nat.cast_sub (UInt64.le_iff_toNat_le.mp h)]
  rfl

theorem mulExact_iff {a b : UInt64} : MulExact a b ↔ a.toNat * b.toNat < 0x10000000000000000 := by
  rw [MulExact, UInt64.toNat_mul]
  exact Nat.mod_eq_iff_lt (by decide)

theorem delta_pos {before after : UInt64} (h : before < after) : 0 < delta before after := by
  have hlt : (before.toNat : ℚ) < after.toNat := Nat.cast_lt.mpr (UInt64.lt_iff_toNat_lt.mp h)
  exact sub_pos.mpr hlt

/-! ## The getters -/

variable {cache : MetricCache}

section Pcie

variable (counter : PcieSnapshot → UInt64) (h : Cached cache)
include h

theorem pcieThroughput_of_cached : pcieThroughput counter cache =
    .ok (.number ((counter cache.pcieAfter - counter cache.pcieBefore).toNat /
      delta cache.pcieBefore.timeUs cache.pcieAfter.timeUs)) := by
  rw [pcieThroughput, h.pcieAvail, h.pcieBandwidthAvail, cast_sub (UInt64.le_of_lt h.pcieTime)]
  rfl

theorem pcieThroughputKbs_of_cached : pcieThroughputKbs counter cache =
    .ok (.number (1000000 * (counter cache.pcieAfter - counter cache.pcieBefore) /
      (cache.pcieAfter.timeUs - cache.pcieBefore.timeUs) / 1000).toNat) := by
  rw [pcieThroughputKbs, h.pcieAvail, h.pcieBandwidthAvail]
  rfl

/-- Where nothing wraps, both divisions round to what one division does. -/
theorem kilobytes_eq (hfits : PcieFits counter cache) :
    (1000000 * (counter cache.pcieAfter - counter cache.pcieBefore) /
      (cache.pcieAfter.timeUs - cache.pcieBefore.timeUs) / 1000).toNat =
      ⌊pcieRate counter cache / 1000⌋₊ := by
  have hle := hfits.1
  have hbytes : (counter cache.pcieAfter - counter cache.pcieBefore).toNat =
      (counter cache.pcieAfter).toNat - (counter cache.pcieBefore).toNat :=
    UInt64.toNat_sub_of_le _ _ hle
  have hproduct : MulExact 1000000 (counter cache.pcieAfter - counter cache.pcieBefore) := by
    rw [mulExact_iff, hbytes]
    exact hfits.2
  have hrate : pcieRate counter cache / 1000 =
      ((1000000 * (counter cache.pcieAfter - counter cache.pcieBefore).toNat : Nat) : ℚ) /
        (((cache.pcieAfter.timeUs - cache.pcieBefore.timeUs).toNat * 1000 : Nat) : ℚ) := by
    rw [pcieRate, ← cast_sub hle, ← cast_sub (UInt64.le_of_lt h.pcieTime)]
    push_cast
    rw [div_div, mul_comm]
  rw [hrate, Nat.floor_div_eq_div, UInt64.toNat_div, UInt64.toNat_div, hproduct, Nat.div_div_eq_div_mul]
  rfl

theorem pcieRight_iff : PcieRight counter cache ↔ PcieFits counter cache := by
  constructor
  · intro hright
    have hle := subExact_iff.mp hright.difference
    have hproduct := mulExact_iff.mp hright.product
    rw [UInt64.toNat_sub_of_le _ _ hle] at hproduct
    exact ⟨hle, hproduct⟩
  · intro hfits
    have hle := hfits.1
    refine ⟨⟨fun _ => ?_, fun hnot => absurd hle hnot⟩, ⟨fun _ => ?_, fun hnot => absurd hle hnot⟩,
      subExact_iff.mpr hle, mulExact_iff.mpr ?_⟩
    · rw [pcieThroughput_of_cached counter h, cast_sub hle, pcieRate]
      congr 2
      field_simp
    · rw [pcieThroughputKbs_of_cached counter h, kilobytes_eq counter h hfits]
    · rw [UInt64.toNat_sub_of_le _ _ hle]
      exact hfits.2

end Pcie

section Memory

variable (counter : MemSnapshot → UInt64) (h : Cached cache)
include h

theorem memoryBandwidth_of_cached : memoryBandwidth counter cache =
    .ok (.number (1000000 * (counter cache.memAfter - counter cache.memBefore).toNat /
      delta cache.memBefore.ts cache.memAfter.ts / 1024)) := by
  rw [memoryBandwidth, h.memAvail, decide_eq_false (UInt64.not_le.mpr h.memTime),
    cast_sub (UInt64.le_of_lt h.memTime)]
  rfl

theorem memoryRight_iff : MemoryRight counter cache ↔
    counter cache.memBefore ≤ counter cache.memAfter := by
  constructor
  · intro hright
    exact subExact_iff.mp hright.difference
  · intro hle
    refine ⟨⟨fun _ => ?_, fun hnot => absurd hle hnot⟩, subExact_iff.mpr hle⟩
    rw [memoryBandwidth_of_cached counter h, cast_sub hle, memoryRate, mul_comm]

end Memory

theorem bandwidthUtilization_of_cached (h : Cached cache) : bandwidthUtilization cache =
    .ok (.number (100 * (((cache.memAfter.read + cache.memAfter.write).toNat : ℚ) -
      (cache.memBefore.read + cache.memBefore.write).toNat) * 1000000 /
        delta cache.memBefore.ts cache.memAfter.ts / cache.memMaxBandwidth.toNat)) := by
  rw [bandwidthUtilization, h.memAvail, decide_eq_false (UInt64.not_le.mpr h.memTime),
    decide_eq_false h.maxBandwidth, cast_sub (UInt64.le_of_lt h.memTime)]
  rfl

/-- The sums of words differ by as much as those of the numbers if they wrap the same number of times. -/
theorem sums_sub_iff (before after : MemSnapshot) :
    ((after.read + after.write).toNat : ℚ) - (before.read + before.write).toNat =
        delta before.read after.read + delta before.write after.write ↔
      (before.read.toNat + before.write.toNat) / 0x10000000000000000 =
        (after.read.toNat + after.write.toNat) / 0x10000000000000000 := by
  have hint : ((after.read + after.write).toNat : ℚ) - (before.read + before.write).toNat =
      delta before.read after.read + delta before.write after.write ↔
      ((after.read + after.write).toNat : Int) - (before.read + before.write).toNat =
        (after.read.toNat - before.read.toNat) + (after.write.toNat - before.write.toNat) := by
    rw [delta, delta]
    exact_mod_cast Iff.rfl
  rw [hint, UInt64.toNat_add, UInt64.toNat_add]
  omega

/-- The utilization is right exactly where both counters went up. -/
theorem utilization_iff (h : Cached cache) (hread : cache.memBefore.read ≤ cache.memAfter.read)
    (hwrite : cache.memBefore.write ≤ cache.memAfter.write) :
    Reports (bandwidthUtilization cache)
        (cache.memBefore.read ≤ cache.memAfter.read ∧ cache.memBefore.write ≤ cache.memAfter.write)
        (100 * (memoryRate MemSnapshot.read cache + memoryRate MemSnapshot.write cache) /
          cache.memMaxBandwidth.toNat) ↔
      (cache.memBefore.read.toNat + cache.memBefore.write.toNat) / 0x10000000000000000 =
        (cache.memAfter.read.toNat + cache.memAfter.write.toNat) / 0x10000000000000000 := by
  have htime : delta cache.memBefore.ts cache.memAfter.ts ≠ 0 := ne_of_gt (delta_pos h.memTime)
  have hmax : (cache.memMaxBandwidth.toNat : ℚ) ≠ 0 := by
    rw [Nat.cast_ne_zero]
    exact fun hzero => h.maxBandwidth (UInt64.toNat_inj.mp hzero)
  have hreports : Reports (bandwidthUtilization cache)
      (cache.memBefore.read ≤ cache.memAfter.read ∧ cache.memBefore.write ≤ cache.memAfter.write)
      (100 * (memoryRate MemSnapshot.read cache + memoryRate MemSnapshot.write cache) /
        cache.memMaxBandwidth.toNat) ↔
      bandwidthUtilization cache = .ok (.number
        (100 * (memoryRate MemSnapshot.read cache + memoryRate MemSnapshot.write cache) /
          cache.memMaxBandwidth.toNat)) :=
    ⟨fun hr => hr.number ⟨hread, hwrite⟩,
      fun heq => ⟨fun _ => heq, fun hnot => absurd ⟨hread, hwrite⟩ hnot⟩⟩
  rw [hreports, bandwidthUtilization_of_cached h, ← sums_sub_iff, Except.ok.injEq,
    MetricValue.number.injEq, memoryRate, memoryRate]
  generalize ((cache.memAfter.read + cache.memAfter.write).toNat : ℚ) -
    (cache.memBefore.read + cache.memBefore.write).toNat = sum
  constructor
  · intro heq
    field_simp at heq
    linarith
  · rintro rfl
    field_simp

/-- Two snapshots, a second apart, between which the counters advance. -/
def steadyCache : MetricCache where
  pcieBefore := ⟨100, 200, 1000000⟩
  pcieAfter := ⟨5000100, 3000200, 2000000⟩
  pcieAvail := true
  pcieBandwidthAvail := true
  memBefore := ⟨100, 200, 1000000⟩
  memAfter := ⟨2048100, 1024200, 2000000⟩
  memMaxBandwidth := 30720000
  memAvail := true

/-- The transmit counter starts again at zero between the two snapshots. -/
def resetCache : MetricCache := { steadyCache with pcieAfter := ⟨98, 3000200, 2000000⟩ }

/-- The power, for comparison: a counter that decreased is noticed. -/
theorem cardDraw_reports (hstart : cache.cardPowerBefore.ts ≠ 0)
    (htime : cache.cardPowerBefore.ts < cache.cardPowerAfter.ts) :
    Reports (cardDraw cache) (cache.cardPowerBefore.energy ≤ cache.cardPowerAfter.energy)
      (delta cache.cardPowerBefore.energy cache.cardPowerAfter.energy /
        delta cache.cardPowerBefore.ts cache.cardPowerAfter.ts) := by
  have hlater : ¬ (cache.cardPowerBefore.ts = 0 ∨
      cache.cardPowerAfter.ts < cache.cardPowerBefore.ts) := by
    rintro (hzero | hback)
    · exact hstart hzero
    · exact UInt64.lt_irrefl _ (UInt64.lt_trans htime hback)
  have hne : cache.cardPowerAfter.ts ≠ cache.cardPowerBefore.ts := fun heq =>
    UInt64.lt_irrefl _ (heq ▸ htime)
  refine ⟨fun hle => ?_, fun hnot v hv => ?_⟩
  · rw [cardDraw, if_neg hlater, if_neg hne, if_neg (UInt64.not_lt.mpr hle), cast_sub hle,
      cast_sub (UInt64.le_of_lt htime)]
  · rw [cardDraw, if_neg hlater, if_neg hne, if_pos (UInt64.not_le.mp hnot)] at hv
    cases hv

end Bandwidth

end XpuManager
