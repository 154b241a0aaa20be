import Mathlib.Algebra.Order.Field.Rat
import Mathlib.Tactic.FieldSimp
import Mathlib.Tactic.Ring

/-! # Rates of traffic

The receiver computes the traffic of the PCI link (`scrapePciStats`, `receiver/intelxpu/sysman/device.go`)
and of a memory module (`scrapeBW`, `memory.go`) from two counters and a timestamp. Both do the same with
the counters; floating-point numbers are exact here. -/

namespace XpuManager

namespace Sysman

/-- The difference from an old to a new value of a counter that wraps. -/
def u64CounterDiff (oldVal newVal : UInt64) : UInt64 :=
  if oldVal ≤ newVal then newVal - oldVal else (0xFFFFFFFFFFFFFFFF - oldVal) + newVal + 1

theorem toNat_u64CounterDiff {oldVal newVal : UInt64} (h : oldVal ≤ newVal) :
    (u64CounterDiff oldVal newVal).toNat = newVal.toNat - oldVal.toNat := by
  rw [u64CounterDiff, if_pos h, UInt64.toNat_sub_of_le newVal oldVal h]

/-! ## The code -/

/-- What the rates are computed from, in microseconds and bytes. -/
structure Traffic where
  timestamp : UInt64
  rx : UInt64
  tx : UInt64
  deriving DecidableEq

/-- A data point of the traffic; the attributes are those of the device or of the module. -/
inductive TrafficPoint where
  | receive (value : ℚ)
  | transmit (value : ℚ)
  | rate (value : ℚ)
  | bandwidthLimit (value : ℚ)
  | bandwidthUtilization (value : ℚ)
  deriving DecidableEq

/-- The rate in bytes per second; the counters' differences are added as machine words. -/
def trafficRate (old new : Traffic) : Option ℚ :=
  let timeDiff := u64CounterDiff old.timestamp new.timestamp
  let rxDiff := u64CounterDiff old.rx new.rx
  let txDiff := u64CounterDiff old.tx new.tx
  if timeDiff = 0 then none else some ((rxDiff + txDiff).toNat / timeDiff.toNat * 1000000)

/-- The sample before, if there is one, and the answer of the driver give the sample that the next call
finds, and the data points. -/
def scrapeTraffic {S : Type} (traffic : S → Traffic) (maxBandwidth : S → ℚ) (state answer : Option S) :
    Option S × List TrafficPoint :=
  match state, answer with
  | none, _ => (none, [])
  | some _, none => (none, [])
  | some old, some new =>
    (some new, [.receive (traffic new).rx.toNat, .transmit (traffic new).tx.toNat] ++
      match trafficRate (traffic old) (traffic new) with
      | none => []
      | some rate => [.rate rate] ++
        if 0 < maxBandwidth new then
          [.bandwidthLimit (maxBandwidth new), .bandwidthUtilization (rate / maxBandwidth new)]
        else [])

/-- `zes_pci_stats_t`. -/
structure PciStats where
  timestamp : UInt64
  rxCounter : UInt64
  txCounter : UInt64
  deriving DecidableEq

def PciStats.traffic (stats : PciStats) : Traffic := ⟨stats.timestamp, stats.rxCounter, stats.txCounter⟩

/-- `scrapePciStats`, with the bandwidth that the device says it has. -/
def scrapePciStats (maxBandwidth : Int64) (stats answer : Option PciStats) :
    Option PciStats × List TrafficPoint :=
  scrapeTraffic PciStats.traffic (fun _ => maxBandwidth.toInt) stats answer

/-- `zes_mem_bandwidth_t`. -/
structure MemBandwidth where
  readCounter : UInt64
  writeCounter : UInt64
  maxBandwidth : UInt64
  timestamp : UInt64
  deriving DecidableEq

def MemBandwidth.traffic (counter : MemBandwidth) : Traffic :=
  ⟨counter.timestamp, counter.readCounter, counter.writeCounter⟩

/-- `scrapeBW`; every sample has the bandwidth. -/
def scrapeBW (counter answer : Option MemBandwidth) : Option MemBandwidth × List TrafficPoint :=
  scrapeTraffic MemBandwidth.traffic (fun counter => counter.maxBandwidth.toNat) counter answer

/-- Scrapes one after the other, all of which get an answer. -/
def runScrapes {S : Type} (scrape : Option S → Option S → Option S × List TrafficPoint)
    (state : Option S) : List S → List (List TrafficPoint)
  | [] => []
  | answer :: answers =>
    let scraped := scrape state (some answer)
    scraped.2 :: runScrapes scrape scraped.1 answers

/-! ## The traffic that the rates account for -/

def TrafficPoint.rate? : TrafficPoint → Option ℚ
  | .rate value => some value
  | _ => none

/-- The seconds between the samples. -/
def intervals : Traffic → List Traffic → List ℚ
  | _, [] => []
  | old, new :: samples =>
    (((new.timestamp.toNat : ℚ) - old.timestamp.toNat) / 1000000) :: intervals new samples

/-- The sum of all recorded rates, each times the interval that it is for. -/
def ratedTraffic (points : List (List TrafficPoint)) (intervals : List ℚ) : ℚ :=
  (points.zipWith (fun points interval => (points.filterMap TrafficPoint.rate?).sum * interval)
    intervals).sum

namespace Traffic

/-- Bytes in both directions. -/
def total (sample : Traffic) : ℚ := sample.rx.toNat + sample.tx.toNat

/-- Neither the time nor a counter decreases. -/
structure Le (old new : Traffic) : Prop where
  timestamp : old.timestamp ≤ new.timestamp
  rx : old.rx ≤ new.rx
  tx : old.tx ≤ new.tx

/-- No traffic is lost between two samples: where no time has passed there was none, and else the bytes
of both directions together fit a machine word. -/
def Kept (old new : Traffic) : Prop :=
  if new.timestamp = old.timestamp then new.rx = old.rx ∧ new.tx = old.tx
  else (new.rx.toNat - old.rx.toNat) + (new.tx.toNat - old.tx.toNat) < 2 ^ 64

instance (old new : Traffic) : Decidable (Kept old new) := inferInstanceAs (Decidable (ite _ _ _))

end Traffic

section

variable {S : Type} {traffic : S → Traffic} {maxBandwidth : S → ℚ} {old new first : S}
  {samples : List S}

/-- The rates of one scrape. -/
theorem filterMap_rate_scrapeTraffic (traffic : S → Traffic) (maxBandwidth : S → ℚ) (old new : S) :
    (scrapeTraffic traffic maxBandwidth (some old) (some new)).2.filterMap TrafficPoint.rate? =
      (trafficRate (traffic old) (traffic new)).toList := by
  rw [scrapeTraffic]
  cases trafficRate (traffic old) (traffic new) with
  | none => rfl
  | some rate =>
    dsimp only
    split <;> rfl

/-- One scrape accounts for no more than the bytes since the last one, and for all of them exactly where
none are lost. -/
theorem trafficRate_mul_interval {old new : Traffic} (h : Traffic.Le old new) :
    (trafficRate old new).toList.sum * (((new.timestamp.toNat : ℚ) - old.timestamp.toNat) / 1000000) ≤
        new.total - old.total ∧
      ((trafficRate old new).toList.sum *
          (((new.timestamp.toNat : ℚ) - old.timestamp.toNat) / 1000000) =
        new.total - old.total ↔ Traffic.Kept old new) := by
  obtain ⟨htime, hrx, htx⟩ := h
  have hdiff := toNat_u64CounterDiff htime
  have hle : old.rx.toNat ≤ new.rx.toNat ∧ old.tx.toNat ≤ new.tx.toNat := ⟨hrx, htx⟩
  have htotal : new.total - old.total =
      (((new.rx.toNat - old.rx.toNat) + (new.tx.toNat - old.tx.toNat) : Nat) : ℚ) := by
    rw [Traffic.total, Traffic.total]
    push_cast [Nat.cast_sub hle.1, Nat.cast_sub hle.2]
    ring
  have hzero : u64CounterDiff old.timestamp new.timestamp = 0 ↔ new.timestamp = old.timestamp := by
    have hle : old.timestamp.toNat ≤ new.timestamp.toNat := htime
    rw [← UInt64.toNat_inj, ← UInt64.toNat_inj, hdiff, UInt64.toNat_zero]
    omega
  rw [htotal, trafficRate, Traffic.Kept]
  by_cases hsame : new.timestamp = old.timestamp
  · rw [if_pos (hzero.mpr hsame), if_pos hsame, Option.toList_none, List.sum_nil, zero_mul, eq_comm,
      Nat.cast_eq_zero, ← UInt64.toNat_inj, ← UInt64.toNat_inj]
    exact ⟨Nat.cast_nonneg _, by omega⟩
  · have hpos : 0 < new.timestamp.toNat - old.timestamp.toNat := by
      rw [← hdiff]
      exact Nat.pos_of_ne_zero fun h => hsame (hzero.mp (UInt64.toNat_inj.mp h))
    have hcast : (0 : ℚ) < (new.timestamp.toNat - old.timestamp.toNat : Nat) := Nat.cast_pos.mpr hpos
    have hinterval : (new.timestamp.toNat : ℚ) - old.timestamp.toNat =
        ((new.timestamp.toNat - old.timestamp.toNat : Nat) : ℚ) := (Nat.cast_sub htime).symm
    rw [if_neg (mt hzero.mp hsame), if_neg hsame, Option.toList_some, List.sum_singleton, hinterval,
      hdiff, UInt64.toNat_add, toNat_u64CounterDiff hrx, toNat_u64CounterDiff htx]
    have hcancel (n : Nat) : (n : ℚ) / (new.timestamp.toNat - old.timestamp.toNat : Nat) * 1000000 *
        ((new.timestamp.toNat - old.timestamp.toNat : Nat) / 1000000) = n := by
      field_simp
    rw [hcancel, Nat.cast_le, Nat.cast_inj]
    exact ⟨Nat.mod_le _ _, by omega⟩

/-- The samples of a run, none of which decreases, and the last of them. -/
theorem ratedTraffic_spec (hmono : List.IsChain Traffic.Le ((first :: samples).map traffic)) :
    ratedTraffic (runScrapes (scrapeTraffic traffic maxBandwidth) (some first) samples)
        (intervals (traffic first) (samples.map traffic)) ≤
      (traffic (samples.getLastD first)).total - (traffic first).total ∧
    (ratedTraffic (runScrapes (scrapeTraffic traffic maxBandwidth) (some first) samples)
        (intervals (traffic first) (samples.map traffic)) =
      (traffic (samples.getLastD first)).total - (traffic first).total ↔
        List.IsChain Traffic.Kept ((first :: samples).map traffic)) := by
  induction samples generalizing first with
  | nil => simp [runScrapes, intervals, ratedTraffic]
  | cons sample samples ih =>
    rw [List.map_cons, List.map_cons, List.isChain_cons_cons] at hmono
    obtain ⟨hstep, hrest⟩ := hmono
    obtain ⟨hle, hiff⟩ := trafficRate_mul_interval hstep
    obtain ⟨hle', hiff'⟩ := ih hrest
    have hrun : ratedTraffic
        (runScrapes (scrapeTraffic traffic maxBandwidth) (some first) (sample :: samples))
        (intervals (traffic first) ((sample :: samples).map traffic)) =
        (trafficRate (traffic first) (traffic sample)).toList.sum *
            ((((traffic sample).timestamp.toNat : ℚ) - (traffic first).timestamp.toNat) / 1000000) +
          ratedTraffic (runScrapes (scrapeTraffic traffic maxBandwidth) (some sample) samples)
            (intervals (traffic sample) (samples.map traffic)) := by
      rw [← filterMap_rate_scrapeTraffic traffic maxBandwidth first sample]
      rfl
    have htotal : (traffic ((sample :: samples).getLastD first)).total - (traffic first).total =
        (traffic sample).total - (traffic first).total +
          ((traffic (samples.getLastD sample)).total - (traffic sample).total) := by
      rw [List.getLastD_cons]
      ring
    rw [hrun, htotal, add_eq_add_iff_eq_and_eq hle hle', hiff, hiff']
    exact ⟨add_le_add hle hle', List.isChain_cons_cons.symm⟩

end

/-- **No traffic is lost or invented** by the rates, of the PCI link or of a memory module, exactly
where between any two samples none is lost. -/
theorem ratedTraffic_eq_iff (maxBandwidth : Int64) (first : PciStats) (samples : List PciStats)
    (module : MemBandwidth) (counters : List MemBandwidth)
    (hpci : List.IsChain Traffic.Le ((first :: samples).map PciStats.traffic))
    (hmem : List.IsChain Traffic.Le ((module :: counters).map MemBandwidth.traffic)) :
    (ratedTraffic (runScrapes (scrapePciStats maxBandwidth) (some first) samples)
        (intervals first.traffic (samples.map PciStats.traffic)) =
      (samples.getLastD first).traffic.total - first.traffic.total ↔
        List.IsChain Traffic.Kept ((first :: samples).map PciStats.traffic)) ∧
    (ratedTraffic (runScrapes scrapeBW (some module) counters)
        (intervals module.traffic (counters.map MemBandwidth.traffic)) =
      (counters.getLastD module).traffic.total - module.traffic.total ↔
        List.IsChain Traffic.Kept ((module :: counters).map MemBandwidth.traffic)) :=
  ⟨(ratedTraffic_spec hpci).2, (ratedTraffic_spec hmem).2⟩

/-- A second, in which 30 bytes are received, with a sample in between that repeats the timestamp. -/
def repeatedStats : List PciStats := [⟨0, 10, 0⟩, ⟨1000000, 30, 0⟩]

/-- Without that sample the rate accounts for all bytes. -/
theorem ratedTraffic_eq_second :
    ratedTraffic (runScrapes (scrapePciStats 0) (some ⟨0, 0, 0⟩) [⟨1000000, 30, 0⟩])
      (intervals ⟨0, 0, 0⟩ [⟨1000000, 30, 0⟩]) = 30 := by
  have hpci : List.IsChain Traffic.Le
      (([⟨0, 0, 0⟩, ⟨1000000, 30, 0⟩] : List PciStats).map PciStats.traffic) :=
    .cons_cons ⟨by decide, by decide, by decide⟩ (.singleton _)
  have h := (ratedTraffic_eq_iff 0 ⟨0, 0, 0⟩ [⟨1000000, 30, 0⟩] ⟨0, 0, 0, 0⟩ [] hpci
    (.singleton _)).1.mpr (.cons_cons (by decide) (.singleton _))
  exact h.trans (by decide +kernel)

/-- With it the ten bytes before it are in no rate. -/
theorem ratedTraffic_repeated :
    List.IsChain Traffic.Le ((⟨0, 0, 0⟩ :: repeatedStats).map PciStats.traffic) ∧
    ratedTraffic (runScrapes (scrapePciStats 0) (some ⟨0, 0, 0⟩) repeatedStats)
        (intervals ⟨0, 0, 0⟩ (repeatedStats.map PciStats.traffic)) ≠
      (repeatedStats.getLastD ⟨0, 0, 0⟩).traffic.total - (PciStats.traffic ⟨0, 0, 0⟩).total := by
  refine ⟨.cons_cons ⟨by decide, by decide, by decide⟩
    (.cons_cons ⟨by decide, by decide, by decide⟩ (.singleton _)), ?_⟩
  decide +kernel

end Sysman

end XpuManager
