import XpuManager.Hal.Driver
import XpuManager.Lib.WordSums

/-! # Error counters

Error sets count errors by category, for one type of errors each (`hal/core/ras.cpp`). Only the errors of
the cache are asked for by type (`ial/cmn/metrics/ecc.cpp`). -/

namespace XpuManager

namespace Ras

open WordSums

/-! ## The driver -/

/-- The categories of errors that are counted. -/
inductive Category where
  | reset
  | programming
  | driver
  | compute
  | nonCompute
  | cache
  | display
  deriving DecidableEq

/-- The two types of errors. -/
inductive ErrorType where
  | correctable
  | uncorrectable
  deriving DecidableEq

/-- What the driver says of an error set. -/
structure RasProperties where
  type : ErrorType
  onSubdevice : Bool
  subdeviceId : UInt32

abbrev Counts := Category → UInt64

/-- What the driver answers for an error set. -/
structure ErrorSet where
  properties : Except ZeError RasProperties
  state : Except ZeError Counts

/-! ## One category -/

/-- The errors of a tile. -/
structure TileErrors where
  tileId : UInt32
  count : UInt64

/-- What has been counted so far. -/
structure Counters where
  perTile : List TileErrors := []
  total : UInt64 := 0

/-- The errors of a set are added to those of its tile and to the total. -/
def Counters.add (counters : Counters) (tileId : UInt32) (errorCount : UInt64) : Counters where
  perTile := Upsert.upsert TileErrors.tileId tileId
    (fun tile => { tile with count := tile.count + errorCount }) ⟨tileId, errorCount⟩ counters.perTile
  total := counters.total + errorCount

/-- Errors are asked for by type, or in all, and the type matters for the cache. -/
def Skipped (category : Category) (errorType : Option ErrorType) (type : ErrorType) : Prop :=
  category = .cache ∧ errorType ≠ none ∧ some type ≠ errorType

instance (category : Category) (errorType : Option ErrorType) (type : ErrorType) :
    Decidable (Skipped category errorType type) :=
  inferInstanceAs (Decidable (_ ∧ _ ∧ _))

/-- The loop of `getErrorsPerTile`. A call that fails leaves what has been counted. -/
def countErrors (category : Category) (errorType : Option ErrorType) (counters : Counters) :
    List ErrorSet → ZeResult × Counters
  | [] => (.success, counters)
  | set :: sets =>
    match set.properties with
    | .error result => (result.1, counters)
    | .ok properties =>
      match set.state with
      | .error result => (result.1, counters)
      | .ok counts =>
        if Skipped category errorType properties.type then countErrors category errorType counters sets
        else
          countErrors category errorType
            (counters.add (if properties.onSubdevice then properties.subdeviceId else 0)
              (counts category)) sets

/-- The errors of a category, for each tile. -/
def getErrorsPerTile (category : Category) (errorType : Option ErrorType) (sets : List ErrorSet) :
    ZeResult × Counters :=
  countErrors category errorType {} sets

/-- The errors of a category in all. -/
def getErrors (category : Category) (errorType : Option ErrorType) (sets : List ErrorSet) :
    ZeResult × UInt64 :=
  let (result, counters) := getErrorsPerTile category errorType sets
  (result, counters.total)

/-! ## The metric -/

/-- A category that is not there for one type has no errors of that type. -/
def Fails (result : ZeResult) : Prop := result ≠ .success ∧ result ≠ .unsupportedFeature

instance (result : ZeResult) : Decidable (Fails result) := inferInstanceAs (Decidable (_ ∧ _))

/-- The body of the loop of `aggregateAllRasErrors`. -/
def addCategory (sets : List ErrorSet) (total : UInt64) (category : Category) :
    Except ZeResult UInt64 :=
  let (rc, corr) := getErrors category (some .correctable) sets
  if Fails rc then .error rc
  else
    let (ru, uncorr) := getErrors category (some .uncorrectable) sets
    if Fails ru then .error ru else .ok (total + (corr + uncorr))

/-- The categories that the metric covers. -/
def cats : List Category := [.cache, .compute, .nonCompute, .display]

/-- The metric of all errors, of both types. -/
def aggregateAllRasErrors (sets : List ErrorSet) : Except ZeResult UInt64 :=
  cats.foldlM (addCategory sets) 0

/-! ## Each error once -/

/-- An error set that can be read. -/
structure RasReading where
  properties : RasProperties
  counts : Counts

namespace RasReading

def set (reading : RasReading) : ErrorSet := ⟨.ok reading.properties, .ok reading.counts⟩

/-- The errors that the metric covers. -/
def covered (reading : RasReading) : Nat :=
  (reading.counts .cache).toNat + (reading.counts .compute).toNat +
    (reading.counts .nonCompute).toNat + (reading.counts .display).toNat

/-- What an error set adds to a category. -/
def added (category : Category) (errorType : Option ErrorType) (reading : RasReading) : UInt64 :=
  if Skipped category errorType reading.properties.type then 0 else reading.counts category

end RasReading

/-- The loop adds up what the readings count. -/
theorem countErrors_eq (category : Category) (errorType : Option ErrorType) (readings : List RasReading)
    (counters : Counters) : ∃ counters',
      countErrors category errorType counters (readings.map RasReading.set) = (.success, counters') ∧
        counters'.total = counters.total + sumOf (RasReading.added category errorType) readings := by
  induction readings generalizing counters with
  | nil => exact ⟨counters, rfl, (UInt64.add_zero _).symm⟩
  | cons reading readings ih =>
    rw [sumOf_cons, List.map_cons, countErrors, RasReading.set, RasReading.added]
    by_cases hskip : Skipped category errorType reading.properties.type
    · obtain ⟨counters', hrun, htotal⟩ := ih counters
      refine ⟨counters', (if_pos hskip).trans hrun, ?_⟩
      rw [if_pos hskip, UInt64.zero_add, htotal]
    · obtain ⟨counters', hrun, htotal⟩ := ih (counters.add _ (reading.counts category))
      refine ⟨counters', (if_neg hskip).trans hrun, ?_⟩
      rw [if_neg hskip, htotal, Counters.add, UInt64.add_assoc]

/-- **Spec of `getErrors`.** -/
theorem getErrors_eq (category : Category) (errorType : Option ErrorType) (readings : List RasReading) :
    getErrors category errorType (readings.map RasReading.set) =
      (.success, sumOf (RasReading.added category errorType) readings) := by
  obtain ⟨counters, hrun, htotal⟩ := countErrors_eq category errorType readings {}
  rw [getErrors, getErrorsPerTile, hrun]
  exact Prod.ext rfl (htotal.trans (UInt64.zero_add _))

theorem added_of_ne_cache {category : Category} (h : category ≠ .cache) (errorType : Option ErrorType) :
    RasReading.added category errorType = fun reading => reading.counts category :=
  funext fun _ => if_neg fun hskip => h hskip.1

/-- An error of the cache is of one type. -/
theorem added_cache (reading : RasReading) :
    reading.added .cache (some .correctable) + reading.added .cache (some .uncorrectable) =
      reading.counts .cache := by
  rw [RasReading.added, RasReading.added]
  cases reading.properties.type
  · exact UInt64.add_zero _
  · exact UInt64.zero_add _

/-- How often the metric counts the errors of a category. -/
def times (category : Category) : UInt64 := if category = .cache then 1 else 2

/-- **Spec of one category.** -/
theorem addCategory_eq (readings : List RasReading) (total : UInt64) (category : Category) :
    addCategory (readings.map RasReading.set) total category =
      .ok (total + times category * sumOf (fun reading => reading.counts category) readings) := by
  rw [addCategory, getErrors_eq, getErrors_eq]
  change Except.ok (total + (_ + _)) = _
  rw [times]
  split_ifs with hcache
  · rw [hcache, ← sumOf_add, UInt64.one_mul]
    simp only [added_cache]
  · rw [added_of_ne_cache hcache, added_of_ne_cache hcache]
    congr 2
    grind

/-- The metric counts the errors of the cache once and all others twice. -/
theorem aggregateAllRasErrors_eq (readings : List RasReading) :
    aggregateAllRasErrors (readings.map RasReading.set) =
      .ok (sumOf (fun reading => reading.counts .cache) readings +
        2 * sumOf (fun reading => reading.counts .compute) readings +
        2 * sumOf (fun reading => reading.counts .nonCompute) readings +
        2 * sumOf (fun reading => reading.counts .display) readings) := by
  have hloop : addCategory (readings.map RasReading.set) = fun total category =>
      pure (total + times category * sumOf (fun reading => reading.counts category) readings) :=
    funext fun total => funext fun category => addCategory_eq readings total category
  rw [aggregateAllRasErrors, hloop]
  refine (List.foldlM_pure ..).trans (congrArg Except.ok ?_)
  simp [cats, times]

theorem sum_covered (readings : List RasReading) : (readings.map RasReading.covered).sum =
    (readings.map fun reading => (reading.counts .cache).toNat).sum +
      (readings.map fun reading => (reading.counts .compute).toNat).sum +
      (readings.map fun reading => (reading.counts .nonCompute).toNat).sum +
      (readings.map fun reading => (reading.counts .display).toNat).sum := by
  rw [← List.sum_map_add, ← List.sum_map_add, ← List.sum_map_add]
  rfl

/-- **When the metric counts each error once**: exactly if there are none but those of the cache. -/
theorem aggregateAllRasErrors_iff (readings : List RasReading)
    (h : (readings.map RasReading.covered).sum < 0x10000000000000000) :
    (∃ total, aggregateAllRasErrors (readings.map RasReading.set) = .ok total ∧
        total.toNat = (readings.map RasReading.covered).sum) ↔
      ∀ reading ∈ readings, reading.counts .compute = 0 ∧ reading.counts .nonCompute = 0 ∧
        reading.counts .display = 0 := by
  rw [aggregateAllRasErrors_eq]
  have hsum := sum_covered readings
  have htotal : (∃ total, Except.ok (ε := ZeResult)
        (sumOf (fun reading => reading.counts .cache) readings +
        2 * sumOf (fun reading => reading.counts .compute) readings +
        2 * sumOf (fun reading => reading.counts .nonCompute) readings +
        2 * sumOf (fun reading => reading.counts .display) readings) = .ok total ∧
        total.toNat = (readings.map RasReading.covered).sum) ↔
      (readings.map fun reading => (reading.counts .compute).toNat).sum = 0 ∧
        (readings.map fun reading => (reading.counts .nonCompute).toNat).sum = 0 ∧
        (readings.map fun reading => (reading.counts .display).toNat).sum = 0 := by
    simp only [Except.ok.injEq, exists_eq_left', UInt64.toNat_add, UInt64.toNat_mul, UInt64.toNat_ofNat]
    rw [toNat_sumOf (by omega), toNat_sumOf (by omega), toNat_sumOf (by omega), toNat_sumOf (by omega)]
    omega
  rw [htotal, sum_toNat_eq_zero_iff, sum_toNat_eq_zero_iff, sum_toNat_eq_zero_iff]
  exact ⟨fun hall reading hmem => ⟨hall.1 reading hmem, hall.2.1 reading hmem, hall.2.2 reading hmem⟩,
    fun hall => ⟨fun reading hmem => (hall reading hmem).1, fun reading hmem => (hall reading hmem).2.1,
      fun reading hmem => (hall reading hmem).2.2⟩⟩

/-- A set of corrected errors of one category. -/
def corrected (category : Category) (count : UInt64) : RasReading :=
  ⟨⟨.correctable, false, 0⟩, fun other => if other = category then count else 0⟩

/-- Two tiles with sets of both types, with errors of the cache and of the driver. -/
def twoTiles : List RasReading :=
  [corrected .cache 5, ⟨⟨.uncorrectable, false, 0⟩, fun c => if c = .cache then 2 else 0⟩,
    ⟨⟨.correctable, true, 1⟩, fun c => if c = .cache then 3 else if c = .driver then 4 else 0⟩,
    ⟨⟨.uncorrectable, true, 1⟩, fun c => if c = .cache then 7 else 0⟩]

theorem aggregateAllRasErrors_cache :
    ∃ total, aggregateAllRasErrors (twoTiles.map RasReading.set) = .ok total ∧
      total.toNat = (twoTiles.map RasReading.covered).sum :=
  (aggregateAllRasErrors_iff twoTiles (by decide)).mpr (by decide)

/-- One compute error is counted as two. -/
theorem aggregateAllRasErrors_compute : ¬∀ readings : List RasReading,
    (readings.map RasReading.covered).sum < 0x10000000000000000 →
      ∃ total, aggregateAllRasErrors (readings.map RasReading.set) = .ok total ∧
        total.toNat = (readings.map RasReading.covered).sum := by
  intro h
  obtain ⟨total, hrun, htotal⟩ := h [corrected .compute 1] (by decide)
  obtain rfl : 2 = total := Except.ok.inj hrun
  exact absurd htotal (by decide)

end Ras

end XpuManager
