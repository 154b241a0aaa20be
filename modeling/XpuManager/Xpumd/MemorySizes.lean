import Mathlib.Algebra.BigOperators.Group.List.Basic
import Mathlib.Algebra.Order.BigOperators.Group.List
import XpuManager.Xpumd.MemoryScraper
import XpuManager.Xpumd.WorstStatus

/-! # The memory of a device, from the receiver to the exporter

What the exporter reports of the memory modules that the receiver recorded. The receiver names the
subdevice `com.intel.subdevice_id`, the exporter looks for `subdevice_id`; sizes are added up in 64
bits, and a module without a known size has no data point. -/

namespace XpuManager

variable {F : Type} {toInt64 : F → Int64} {mappings : List HwStatusMapping}

/-! ## Adding up -/

/-- The type and subdevice of an entry. -/
abbrev MemoryKey := String × String

/-- The type and subdevice of an entry. -/
def MemoryInfo.key (m : MemoryInfo) : MemoryKey := (m.type, m.subdeviceId)

/-- The size held for a key. -/
def sizeAt (memList : List MemoryInfo) (key : MemoryKey) : UInt64 :=
  ((memList.find? fun m => m.key = key).map MemoryInfo.size).getD 0

/-- The entries for a list of sizes, each with its key. -/
def aggregated (shares : List (MemoryKey × UInt64)) : List MemoryInfo :=
  shares.foldl (fun memList s => aggregateMemoryInfo s.1.1 s.1.2 s.2 memList) []

/-- The sum of the sizes with a key. -/
def total (shares : List (MemoryKey × UInt64)) (key : MemoryKey) : Nat :=
  ((shares.filter fun s => s.1 = key).map fun s => s.2.toNat).sum

theorem aggregated_concat (shares : List (MemoryKey × UInt64)) (s : MemoryKey × UInt64) :
    aggregated (shares ++ [s]) = aggregateMemoryInfo s.1.1 s.1.2 s.2 (aggregated shares) := by
  unfold aggregated
  rw [List.foldl_concat]

/-- Adding a size makes an entry if there is none. -/
theorem keys_aggregateMemoryInfo (memType subdeviceId : String) (size : UInt64)
    (memList : List MemoryInfo) :
    (aggregateMemoryInfo memType subdeviceId size memList).map MemoryInfo.key =
      if (memType, subdeviceId) ∈ memList.map MemoryInfo.key then memList.map MemoryInfo.key
      else memList.map MemoryInfo.key ++ [(memType, subdeviceId)] := by
  induction memList with
  | nil => rfl
  | cons m memList ih =>
    rw [aggregateMemoryInfo]
    by_cases hkey : m.key = (memType, subdeviceId)
    · rw [if_pos (Prod.mk.inj hkey), if_pos (by simp [hkey])]
      rfl
    · rw [if_neg fun h => hkey (Prod.ext h.1 h.2), List.map_cons, ih, List.map_cons]
      by_cases hmem : (memType, subdeviceId) ∈ memList.map MemoryInfo.key
      · rw [if_pos hmem, if_pos (List.mem_cons_of_mem _ hmem)]
      · rw [if_neg hmem, if_neg (List.not_mem_cons_of_ne_of_not_mem (Ne.symm hkey) hmem)]
        rfl

/-- Adding a size changes the size held for its key. -/
theorem sizeAt_aggregateMemoryInfo (memType subdeviceId : String) (size : UInt64)
    (memList : List MemoryInfo) (key : MemoryKey) :
    sizeAt (aggregateMemoryInfo memType subdeviceId size memList) key =
      if (memType, subdeviceId) = key then sizeAt memList key + size else sizeAt memList key := by
  induction memList with
  | nil =>
    by_cases hkey : (memType, subdeviceId) = key
    · simp [aggregateMemoryInfo, sizeAt, MemoryInfo.key, hkey]
    · simp [aggregateMemoryInfo, sizeAt, MemoryInfo.key, hkey]
  | cons m memList ih =>
    rw [aggregateMemoryInfo]
    by_cases hm : m.key = (memType, subdeviceId)
    · rw [if_pos (Prod.mk.inj hm)]
      by_cases hkey : (memType, subdeviceId) = key
      · have hmk : m.key = key := hm.trans hkey
        simp [sizeAt, MemoryInfo.key] at hmk ⊢
        simp [hmk, hkey]
      · have hmk : m.key ≠ key := fun h => hkey (hm.symm.trans h)
        simp [sizeAt, MemoryInfo.key] at hmk ⊢
        simp [hmk, hkey]
    · rw [if_neg fun h => hm (Prod.ext h.1 h.2)]
      by_cases hmk : m.key = key
      · have hkey : (memType, subdeviceId) ≠ key := fun h => hm (hmk.trans h.symm)
        simp [sizeAt, hmk, hkey]
      · simpa [sizeAt, hmk] using ih

/-- **What a list of sizes adds up to.** There is one entry for each key, and it holds the sum of
the sizes with the key, as far as 64 bits go. -/
theorem aggregated_spec (shares : List (MemoryKey × UInt64)) :
    ((aggregated shares).map MemoryInfo.key).Nodup ∧
      (∀ key, key ∈ (aggregated shares).map MemoryInfo.key ↔ ∃ s ∈ shares, s.1 = key) ∧
        ∀ key, (sizeAt (aggregated shares) key).toNat = total shares key % 2 ^ 64 := by
  induction shares using List.reverseRecOn with
  | nil => exact ⟨List.nodup_nil, by simp [aggregated], fun _ => rfl⟩
  | append_singleton shares s ih =>
    obtain ⟨⟨memType, subdeviceId⟩, size⟩ := s
    obtain ⟨hnodup, hkeys, hsize⟩ := ih
    rw [aggregated_concat, keys_aggregateMemoryInfo]
    refine ⟨?_, fun key => ?_, fun key => ?_⟩
    · split
      case isTrue => exact hnodup
      case isFalse hmem => simpa using hnodup.concat hmem
    · have hconcat : (∃ s ∈ shares ++ [((memType, subdeviceId), size)], s.1 = key) ↔
          (∃ s ∈ shares, s.1 = key) ∨ (memType, subdeviceId) = key := by
        simp only [List.mem_append, List.mem_singleton, or_and_right, exists_or, exists_eq_left]
      rw [hconcat, ← hkeys key]
      split
      case isTrue hmem =>
        refine (or_iff_left_of_imp ?_).symm
        rintro rfl
        exact hmem
      case isFalse => rw [List.mem_append, List.mem_singleton, eq_comm]
    · rw [sizeAt_aggregateMemoryInfo, total, List.filter_append, List.map_append, List.sum_append,
        ← total]
      by_cases hkey : (memType, subdeviceId) = key
      · rw [if_pos hkey, UInt64.toNat_add, hsize key, List.filter_singleton, hkey]
        simp
      · rw [if_neg hkey, hsize key, List.filter_singleton]
        simp [hkey]

/-- In a list with one entry for each key, an entry holds the size held for its key. -/
theorem sizeAt_of_mem {memList : List MemoryInfo} (hnodup : (memList.map MemoryInfo.key).Nodup)
    {m : MemoryInfo} (hm : m ∈ memList) : sizeAt memList m.key = m.size := by
  induction memList with
  | nil => exact absurd hm List.not_mem_nil
  | cons m' memList ih =>
    rw [List.map_cons, List.nodup_cons] at hnodup
    rcases List.mem_cons.mp hm with rfl | hm
    · simp [sizeAt]
    · have hne : m'.key ≠ m.key := fun h => hnodup.1 (h ▸ List.mem_map_of_mem hm)
      simpa [sizeAt, hne] using ih hnodup.2 hm

/-! ## What the loop over a batch collects -/

/-- The device, key and size of a data point of `hw.memory.size`, if the exporter counts it. -/
def memoryShare (toInt64 : F → Int64) (dp : NumberDataPoint F) :
    Option (String × MemoryKey × UInt64) :=
  let attrs := dp.attributes
  if attrs.getStr "hw.memory.location" ≠ "device" ∨ getParentID attrs = "" then none
  else
    let size : Option Int64 := match dp.value with
      | .int v => some v
      | .double v => some (toInt64 v)
      | .empty => none
    (size.filter fun v => !decide (v < 0)).map fun v =>
      (getParentID attrs, (attrs.getStr "hw.memory.type", attrs.getStr "subdevice_id"), v.toUInt64)

/-- The sizes that data points stand for at a device. -/
def sharesAt (toInt64 : F → Int64) (pts : List (NumberDataPoint F)) (id : String) :
    List (MemoryKey × UInt64) :=
  pts.filterMap fun dp => (memoryShare toInt64 dp).bind fun e => if e.1 = id then some e.2 else none

/-- The `hw.memory.size` data points of a metric. -/
def Metric.memoryPoints (m : Metric F) : List (NumberDataPoint F) :=
  if m.name = "hw.memory.size" then m.getNumberDatapoints.getD [] else []

/-- The `hw.memory.size` data points of a batch. -/
def memoryPoints (md : Metrics F) : List (NumberDataPoint F) := md.all.flatMap Metric.memoryPoints

/-- The invariant of the loop over a batch, after the `hw.memory.size` data points `pts`: the entries
of a device are those of its data points, and no response has entries as yet. -/
structure Remembered (toInt64 : F → Int64) (pts : List (NumberDataPoint F))
    (t : MetricsTranslator) : Prop where
  memory_eq : ∀ id, (t.memory.lookup id).getD [] = aggregated (sharesAt toInt64 pts id)
  resp_new : ∀ id d, t.resp.lookup id = some d → d.info.memory = []

section Steps

variable {pts : List (NumberDataPoint F)} {t : MetricsTranslator}

theorem sharesAt_concat (dp : NumberDataPoint F) (id : String) :
    sharesAt toInt64 (pts ++ [dp]) id = sharesAt toInt64 pts id ++
      ((memoryShare toInt64 dp).bind fun e => if e.1 = id then some e.2 else none).toList := by
  rw [sharesAt, List.filterMap_append, ← sharesAt]
  rfl

/-- A data point that does not count leaves the entries alone. -/
theorem Remembered.of_none (h : Remembered toInt64 pts t) {dp : NumberDataPoint F}
    (hnone : memoryShare toInt64 dp = none) : Remembered toInt64 (pts ++ [dp]) t where
  memory_eq id := by
    rw [sharesAt_concat, hnone, h.memory_eq id, Option.bind_none, Option.toList_none,
      List.append_nil]
  resp_new := h.resp_new

/-- The entries of a device with one more size. -/
def MetricsTranslator.addSize (t : MetricsTranslator) (id : String) (key : MemoryKey)
    (size : UInt64) : MetricsTranslator :=
  let memList := aggregateMemoryInfo key.1 key.2 size ((t.memory.lookup id).getD [])
  { t with memory := t.memory.insert id memList }

/-- A data point that counts is added to the entries of its device. -/
theorem Remembered.of_some (h : Remembered toInt64 pts t) {dp : NumberDataPoint F} {id : String}
    {key : MemoryKey} {size : UInt64} (hsome : memoryShare toInt64 dp = some (id, key, size)) :
    Remembered toInt64 (pts ++ [dp]) (t.addSize id key size) where
  memory_eq id' := by
    rw [sharesAt_concat, hsome, Option.bind_some, MetricsTranslator.addSize]
    by_cases hid : id' = id
    · subst hid
      rw [AList.lookup_insert, Option.getD_some, h.memory_eq, if_pos rfl]
      exact (aggregated_concat _ (key, size)).symm
    · rw [AList.lookup_insert_ne hid, h.memory_eq, if_neg (Ne.symm hid)]
      simp
  resp_new := h.resp_new

/-- **Entering one `hw.memory.size` data point keeps the invariant.** -/
theorem Remembered.updateMemoryInfo (h : Remembered toInt64 pts t) (dp : NumberDataPoint F) :
    Remembered toInt64 (pts ++ [dp]) (updateMemoryInfo toInt64 t dp) := by
  simp only [XpuManager.updateMemoryInfo]
  split
  case isTrue hloc => exact h.of_none (by simp [memoryShare, hloc])
  case isFalse hloc =>
  split
  case isTrue hid => exact h.of_none (by simp [memoryShare, hid])
  case isFalse hid =>
    have hskip : ¬(dp.attributes.getStr "hw.memory.location" ≠ "device" ∨
        getParentID dp.attributes = "") := not_or.mpr ⟨hloc, hid⟩
    have hint (v : Int64) (hv : memoryShare toInt64 dp = ((some v).filter fun v =>
        !decide (v < 0)).map fun v => (getParentID dp.attributes,
          (dp.attributes.getStr "hw.memory.type", dp.attributes.getStr "subdevice_id"),
            v.toUInt64)) : Remembered toInt64 (pts ++ [dp]) (if v < 0 then t else
        t.addSize (getParentID dp.attributes) (dp.attributes.getStr "hw.memory.type",
          dp.attributes.getStr "subdevice_id") v.toUInt64) := by
      split
      case isTrue hneg => exact h.of_none (by rw [hv]; simp [hneg])
      case isFalse hneg => exact h.of_some (by rw [hv]; simp [Int64.not_lt.mp hneg])
    rcases hvalue : dp.value with v | v | _
    · exact hint v (by rw [memoryShare, if_neg hskip, hvalue])
    · exact hint (toInt64 v) (by rw [memoryShare, if_neg hskip, hvalue])
    · exact h.of_none (by rw [memoryShare, if_neg hskip, hvalue]; rfl)

/-- Health does not matter to the invariant. -/
theorem Remembered.updateHealthStatus (h : Remembered toInt64 pts t) (dp : NumberDataPoint F) :
    Remembered toInt64 pts (updateHealthStatus mappings t dp) := by
  have hhealth : ∀ health, Remembered toInt64 pts { t with health := health } :=
    fun _ => ⟨h.memory_eq, h.resp_new⟩
  simp only [XpuManager.updateHealthStatus]
  split
  · split
    · exact h
    · split
      · exact h
      · exact hhealth _
  · exact h

/-- Metadata brings a response without entries. -/
theorem Remembered.updateMetadata (h : Remembered toInt64 pts t) (dp : NumberDataPoint F) :
    Remembered toInt64 pts (updateMetadata t dp) := by
  simp only [XpuManager.updateMetadata]
  split
  · exact h
  · refine ⟨h.memory_eq, fun id d hd => ?_⟩
    by_cases hsame : id = dp.attributes.getStr "hw.id"
    · subst hsame
      rw [AList.lookup_insert, Option.some_inj] at hd
      subst hd
      cases hold : t.resp.lookup (dp.attributes.getStr "hw.id") with
      | none => rfl
      | some r => exact h.resp_new _ r hold
    · rw [AList.lookup_insert_ne hsame] at hd
      exact h.resp_new id d hd

/-- **One metric keeps the invariant**, with the data points it brings. -/
theorem Remembered.processMetric (h : Remembered toInt64 pts t) (m : Metric F) :
    Remembered toInt64 (pts ++ m.memoryPoints) (processMetric toInt64 mappings t m) := by
  rw [XpuManager.processMetric, Metric.memoryPoints]
  cases m.getNumberDatapoints with
  | none => simpa using h
  | some dps =>
    simp only [Option.getD_some]
    by_cases hsize : m.name = "hw.memory.size"
    · have hinfo : m.name ≠ "hw.gpu.info" := by
        rw [hsize]
        decide
      have hstatus : m.name ≠ "hw.status" := by
        rw [hsize]
        decide
      rw [if_neg hinfo, if_neg hstatus, if_pos hsize, if_pos hsize]
      clear hinfo hstatus hsize
      induction dps generalizing pts t with
      | nil => simpa using h
      | cons dp dps ih =>
        rw [List.foldl_cons, ← List.singleton_append, ← List.append_assoc]
        exact ih (h.updateMemoryInfo dp)
    · rw [if_neg hsize, if_neg hsize, List.append_nil]
      split
      case isTrue =>
        induction dps generalizing t with
        | nil => exact h
        | cons dp dps ih => exact ih (h.updateMetadata dp)
      case isFalse =>
      split
      case isTrue =>
        induction dps generalizing t with
        | nil => exact h
        | cons dp dps ih => exact ih (h.updateHealthStatus dp)
      case isFalse => exact h

end Steps

/-- **What a batch collects.** -/
theorem remembered_processAll (md : Metrics F) :
    Remembered toInt64 (memoryPoints md) (processAll toInt64 mappings md) := by
  rw [processAll_eq, memoryPoints]
  have hloop : ∀ (ms : List (Metric F)) {pts t}, Remembered toInt64 pts t →
      Remembered toInt64 (pts ++ ms.flatMap Metric.memoryPoints)
        (ms.foldl (processMetric toInt64 mappings) t) := by
    intro ms
    induction ms with
    | nil => intro pts t h; simpa using h
    | cons m ms ih =>
      intro pts t h
      rw [List.foldl_cons, List.flatMap_cons, ← List.append_assoc]
      exact ih (h.processMetric m)
  have hnew : Remembered toInt64 [] newMetricsTranslator := by
    refine ⟨fun _ => rfl, fun id d h => ?_⟩
    simp [newMetricsTranslator] at h
  exact hloop md.all hnew

/-- **The memory of a device** is, up to order, that of its data points. -/
theorem memory_of_mem_translate {md : Metrics F} {device : DeviceHealth}
    (h : device ∈ translate toInt64 mappings md) : device.info.memory.Perm
      (aggregated (sharesAt toInt64 (memoryPoints md) device.info.uuid)) := by
  have hc := @collected_processAll F toInt64 mappings md
  have hr := @remembered_processAll F toInt64 mappings md
  obtain ⟨id, hid⟩ := mem_translate_iff.mp h
  rw [lookup_filled] at hid
  obtain ⟨r, hlookup, rfl⟩ := Option.map_eq_some_iff.mp hid
  have huuid : r.info.uuid = id := (hc.resp_new id r hlookup).1
  change List.Perm (Option.getD _ _) (aggregated (sharesAt toInt64 (memoryPoints md) r.info.uuid))
  rw [huuid, ← hr.memory_eq id, hr.resp_new id r hlookup]
  cases (processAll toInt64 mappings md).memory.lookup id with
  | none => exact List.Perm.refl _
  | some memList => exact List.perm_insertionSort _ _

/-! ## What the modules stand for -/

namespace MemoryModule

variable (mem : MemoryModule)

/-- The module is located on the device. -/
def OnDevice : Prop := mem.props.location.toLower = "device"

instance : Decidable mem.OnDevice := inferInstanceAs (Decidable (_ = _))

/-- The type and subdevice of the module. -/
def key : MemoryKey :=
  (mem.props.type.toLower, subDeviceIdString mem.props.onSubdevice mem.props.subdeviceId)

/-- The size of the module, as far as it is known. -/
def size : Nat :=
  if mem.props.physicalSize = 0 then (mem.state.map fun state => state.size.toNat).getD 0
  else mem.props.physicalSize.toNat

/-- What the exporter counts of the module. -/
def share : Option (MemoryKey × UInt64) :=
  if mem.OnDevice ∧ mem.state.isSome ∧ 0 < mem.size then
    some ((mem.props.type.toLower, ""), UInt64.ofNat mem.size)
  else none

end MemoryModule

/-- A size below `2 ^ 63` is the same number with a sign. -/
theorem toInt_toInt64_of_lt {x : UInt64} (h : x.toNat < 2 ^ 63) : x.toInt64.toInt = x.toNat :=
  BitVec.toInt_eq_toNat_of_lt (show 2 * x.toNat < 2 ^ 64 by omega)

/-- The size the receiver reports, for a module whose state it can read. -/
theorem size_newMemory {mem : MemoryModule} {name : String} {device : DeviceAttributes}
    {state : MemState} (hstate : mem.state = some state) :
    (newMemory name mem.props device).size state = (UInt64.ofNat mem.size).toInt64 := by
  rw [Memory.size, MemoryModule.size, hstate]
  have hzero : (newMemory name mem.props device).physicalSize = 0 ↔ mem.props.physicalSize = 0 := by
    change mem.props.physicalSize.toInt64 = 0 ↔ mem.props.physicalSize = 0
    constructor
    · intro h
      rw [← UInt64.toUInt64_toInt64 mem.props.physicalSize, h]
      rfl
    · intro h
      rw [h]
      rfl
  by_cases hphys : mem.props.physicalSize = 0
  · rw [if_pos (hzero.mpr hphys), if_pos hphys, Option.map_some, Option.getD_some,
      UInt64.ofNat_toNat]
  · rw [if_neg fun h => hphys (hzero.mp h), if_neg hphys, UInt64.ofNat_toNat, newMemory]

/-- What the exporter looks up in the attributes of a size; it knows no `com.intel.subdevice_id`. -/
theorem getStr_sizeAttributes (m : Memory) :
    m.sizeAttributes.getStr "hw.memory.location" = m.memoryLocation ∧
      m.sizeAttributes.getStr "hw.memory.type" = m.memoryType ∧
        m.sizeAttributes.getStr "subdevice_id" = "" ∧
          getParentID m.sizeAttributes = m.hwID := ⟨rfl, rfl, rfl, rfl⟩

/-- **What the exporter counts of a data point of the receiver.** The subdevice is lost. -/
theorem memoryShare_sizePoint (toInt64 : F → Int64) {mem : MemoryModule} {device : DeviceAttributes}
    (hid : device.hwID ≠ "") (hsize : mem.size < 2 ^ 63) (ts : UInt64) (i : Nat) :
    ((mem.sizePoint device ts i).bind (memoryShare toInt64)).bind
        (fun e => if e.1 = device.hwID then some e.2 else none) = mem.share := by
  rw [MemoryModule.sizePoint, MemoryModule.share]
  rcases hstate : mem.state with _ | state
  · simp [Memory.sizePoint]
  · have hnat : (UInt64.ofNat mem.size).toNat = mem.size := by
      rw [UInt64.toNat_ofNat']
      exact Nat.mod_eq_of_lt (by omega)
    have hint : (UInt64.ofNat mem.size).toInt64.toInt = mem.size := by
      rw [toInt_toInt64_of_lt (by omega), hnat]
    have hpos : 0 < (UInt64.ofNat mem.size).toInt64 ↔ 0 < mem.size := by
      rw [Int64.lt_iff_toInt_lt, hint]
      exact Int.natCast_pos
    have hneg : ¬(UInt64.ofNat mem.size).toInt64 < 0 := by
      rw [Int64.lt_iff_toInt_lt, hint]
      exact not_lt.mpr (Int.natCast_nonneg _)
    generalize "mem-" ++ toString (i + 1) = name
    simp only [Memory.sizePoint, size_newMemory hstate, hpos, Option.isSome_some, true_and]
    by_cases hzero : 0 < mem.size
    · obtain ⟨hloc, htype, hsub, hparent⟩ := getStr_sizeAttributes (newMemory name mem.props device)
      rw [if_pos hzero, Option.bind_some, memoryShare, hloc, htype, hsub, hparent]
      have hskip : (newMemory name mem.props device).memoryLocation ≠ "device" ∨
          (newMemory name mem.props device).hwID = "" ↔ ¬mem.OnDevice := or_iff_left hid
      by_cases hdevice : mem.OnDevice
      · rw [if_neg fun h => hskip.mp h hdevice, if_pos ⟨hdevice, hzero⟩]
        generalize UInt64.ofNat mem.size = size at hneg ⊢
        simp [Option.filter_some, hneg, newMemory]
      · rw [if_pos (hskip.mpr hdevice), if_neg fun h => hdevice h.1, Option.bind_none]
    · rw [if_neg hzero, if_neg fun h => hzero h.2]
      rfl

/-- A data point counts for its parent only. -/
theorem parent_of_memoryShare {dp : NumberDataPoint F} {e : String × MemoryKey × UInt64}
    (h : memoryShare toInt64 dp = some e) : e.1 = getParentID dp.attributes := by
  rw [memoryShare] at h
  obtain ⟨-, hsome⟩ := Option.ite_none_left_eq_some.mp h
  obtain ⟨-, -, rfl⟩ := Option.map_eq_some_iff.mp hsome
  rfl

/-- Other devices' data points do not matter to a device. -/
theorem sharesAt_filter (pts : List (NumberDataPoint F)) (id : String) :
    sharesAt toInt64 (pts.filter fun dp => getParentID dp.attributes = id) id =
      sharesAt toInt64 pts id := by
  rw [sharesAt, List.filterMap_filter]
  refine List.filterMap_congr fun dp _ => ?_
  by_cases hparent : getParentID dp.attributes = id
  · rw [if_pos (decide_eq_true hparent)]
  · rw [if_neg fun h => hparent (of_decide_eq_true h)]
    cases hshare : memoryShare toInt64 dp with
    | none => rfl
    | some e => rw [Option.bind_some, parent_of_memoryShare hshare, if_neg hparent]

/-- **What the exporter counts of the data points of a device.** -/
theorem sharesAt_scrapeSizes (toInt64 : F → Int64) {device : DeviceAttributes} (hid : device.hwID ≠ "") (ts : UInt64)
    {mems : List MemoryModule} (hsize : ∀ mem ∈ mems, mem.size < 2 ^ 63) :
    sharesAt toInt64 (scrapeSizes device ts mems) device.hwID =
      mems.filterMap MemoryModule.share := by
  rw [scrapeSizes_eq, sharesAt]
  change (List.filterMap id _).filterMap _ = _
  rw [List.filterMap_filterMap]
  refine filterMap_mapIdx fun i mem hmem => ?_
  rw [← memoryShare_sizePoint toInt64 hid (hsize mem hmem) ts i, Option.bind_assoc]
  rfl

/-! ## What the exporter reports -/

/-- The sum of the sizes of the modules with a key on the device. -/
def wholeSum (mems : List MemoryModule) (key : MemoryKey) : Nat :=
  ((mems.filter fun mem => mem.OnDevice ∧ mem.key = key).map MemoryModule.size).sum

/-- The part of it that the receiver cannot read. -/
def unreadSum (mems : List MemoryModule) (key : MemoryKey) : Nat :=
  wholeSum (mems.filter fun mem => mem.state.isNone) key

/-- Some entries are those of the modules on the device: one for each type and subdevice, with the
sum of the sizes. -/
structure ReportsMemory (mems : List MemoryModule) (memory : List MemoryInfo) : Prop where
  nodup : (memory.map MemoryInfo.key).Nodup
  mem_iff : ∀ key, key ∈ memory.map MemoryInfo.key ↔ ∃ mem ∈ mems, mem.OnDevice ∧ mem.key = key
  size_eq : ∀ m ∈ memory, m.size.toNat = wholeSum mems m.key

/-- The entry of the module survives: it is not on a subdevice, has a state unless its size is zero,
and the sum of its entry is not zero and does not wrap. -/
def MemoryModule.Survives (mems : List MemoryModule) (mem : MemoryModule) : Prop :=
  mem.key.2 = "" ∧ (mem.state = none → mem.size = 0) ∧ 0 < wholeSum mems mem.key ∧
    wholeSum mems mem.key < 2 ^ 64

theorem wholeSum_cons (mem : MemoryModule) (mems : List MemoryModule) (key : MemoryKey) :
    wholeSum (mem :: mems) key =
      (if mem.OnDevice ∧ mem.key = key then mem.size else 0) + wholeSum mems key := by
  rw [wholeSum, List.filter_cons, wholeSum]
  by_cases h : mem.OnDevice ∧ mem.key = key
  · simp [h]
  · simp [h]

/-- A module's size is part of the sum for its key. -/
theorem size_le_wholeSum {mems : List MemoryModule} {mem : MemoryModule} (hmem : mem ∈ mems)
    (hdevice : mem.OnDevice) : mem.size ≤ wholeSum mems mem.key := by
  have hfilter : mem ∈ mems.filter fun m => m.OnDevice ∧ m.key = mem.key :=
    List.mem_filter.mpr ⟨hmem, by simp [hdevice]⟩
  exact List.le_sum_of_mem (List.mem_map_of_mem hfilter)

/-- A sum that is not zero has a module with a size. -/
theorem exists_of_wholeSum_pos {mems : List MemoryModule} {key : MemoryKey}
    (h : 0 < wholeSum mems key) :
    ∃ mem ∈ mems, mem.OnDevice ∧ mem.key = key ∧ 0 < mem.size := by
  induction mems with
  | nil => exact absurd h (lt_irrefl 0)
  | cons mem mems ih =>
    rw [wholeSum_cons] at h
    by_cases hmem : (mem.OnDevice ∧ mem.key = key) ∧ 0 < mem.size
    · exact ⟨mem, List.mem_cons_self, hmem.1.1, hmem.1.2, hmem.2⟩
    · have hzero : (if mem.OnDevice ∧ mem.key = key then mem.size else 0) = 0 := by
        split
        case isTrue hk => exact Nat.eq_zero_of_not_pos fun hpos => hmem ⟨hk, hpos⟩
        case isFalse => rfl
      rw [hzero, zero_add] at h
      obtain ⟨mem', hmem', hrest⟩ := ih h
      exact ⟨mem', List.mem_cons_of_mem _ hmem', hrest⟩

theorem share_eq_some_iff {mem : MemoryModule} {s : MemoryKey × UInt64} : mem.share = some s ↔
    (mem.OnDevice ∧ mem.state.isSome ∧ 0 < mem.size) ∧
      s = ((mem.props.type.toLower, ""), UInt64.ofNat mem.size) := by
  rw [MemoryModule.share, Option.ite_none_right_eq_some, Option.some_inj]
  exact and_congr_right fun _ => eq_comm

/-- Without subdevices, what is counted and what cannot be read make up the whole. -/
theorem total_add_unreadSum {mems : List MemoryModule} (hsize : ∀ mem ∈ mems, mem.size < 2 ^ 63)
    (hsub : ∀ mem ∈ mems, mem.OnDevice → mem.key.2 = "") (key : MemoryKey) :
    total (mems.filterMap MemoryModule.share) key + unreadSum mems key = wholeSum mems key := by
  induction mems with
  | nil => rfl
  | cons mem mems ih =>
    have ih := ih (fun m hm => hsize m (List.mem_cons_of_mem _ hm))
      fun m hm => hsub m (List.mem_cons_of_mem _ hm)
    rw [wholeSum_cons, ← ih, List.filterMap_cons, unreadSum, List.filter_cons]
    have hnat : (UInt64.ofNat mem.size).toNat = mem.size := by
      rw [UInt64.toNat_ofNat']
      exact Nat.mod_eq_of_lt (by have := hsize mem List.mem_cons_self; omega)
    by_cases hdevice : mem.OnDevice
    · have hkey : (mem.props.type.toLower, "") = mem.key :=
        Prod.ext rfl (hsub mem List.mem_cons_self hdevice).symm
      rw [MemoryModule.share]
      cases hstate : mem.state with
      | none =>
        simp [wholeSum_cons, hdevice, unreadSum]
        omega
      | some state =>
        by_cases hzero : 0 < mem.size
        · by_cases hk : mem.key = key
          · simp [hdevice, hzero, hkey, hk, total, hnat, unreadSum]
            omega
          · simp [hdevice, hzero, hkey, hk, total, unreadSum]
        · have hsz : mem.size = 0 := by omega
          simp [hsz, unreadSum]
    · have hnone : mem.share = none := if_neg fun h => hdevice h.1
      rw [hnone]
      cases hstate : mem.state with
      | none => simp [wholeSum_cons, hdevice, unreadSum]
      | some state => simp [hdevice, unreadSum]

/-- What is not readable is part of the sum for its key. -/
theorem size_le_unreadSum {mems : List MemoryModule} {mem : MemoryModule} (hmem : mem ∈ mems)
    (hdevice : mem.OnDevice) (hstate : mem.state = none) :
    mem.size ≤ unreadSum mems mem.key :=
  size_le_wholeSum (List.mem_filter.mpr ⟨hmem, by simp [hstate]⟩) hdevice

/-- The order of the sizes does not matter to their sum. -/
theorem total_perm {shares shares' : List (MemoryKey × UInt64)} (h : shares.Perm shares')
    (key : MemoryKey) : total shares key = total shares' key :=
  ((h.filter _).map _).sum_eq

/-- **The entries of a device** for sizes added up in any order. -/
theorem reportsMemory_iff {mems : List MemoryModule} {shares : List (MemoryKey × UInt64)}
    {memory : List MemoryInfo} (hsize : ∀ mem ∈ mems, mem.size < 2 ^ 63)
    (hshares : shares.Perm (mems.filterMap MemoryModule.share))
    (hmemory : memory.Perm (aggregated shares)) :
    ReportsMemory mems memory ↔ ∀ mem ∈ mems, mem.OnDevice → mem.Survives mems := by
  obtain ⟨hnodup, hkeys, hsizes⟩ := aggregated_spec shares
  have hkeys (key : MemoryKey) : key ∈ memory.map MemoryInfo.key ↔
      ∃ mem ∈ mems, ∃ s, mem.share = some s ∧ s.1 = key := by
    rw [(hmemory.map _).mem_iff, hkeys]
    simp only [hshares.mem_iff, List.mem_filterMap]
    constructor
    · rintro ⟨s, ⟨mem, hmem, hs⟩, hk⟩
      exact ⟨mem, hmem, s, hs, hk⟩
    · rintro ⟨mem, hmem, s, hs, hk⟩
      exact ⟨s, ⟨mem, hmem, hs⟩, hk⟩
  have hsizes (m) (hm : m ∈ memory) : m.size.toNat =
      total (mems.filterMap MemoryModule.share) m.key % 2 ^ 64 := by
    rw [← total_perm hshares, ← hsizes, sizeAt_of_mem hnodup (hmemory.mem_iff.mp hm)]
  constructor
  · intro hreports
    -- every entry is without a subdevice, so every module is
    have hcounted (mem) (hmem : mem ∈ mems) (hdevice : mem.OnDevice) :
        ∃ mem' ∈ mems, ∃ s, mem'.share = some s ∧ s.1 = mem.key :=
      (hkeys _).mp ((hreports.mem_iff _).mpr ⟨mem, hmem, hdevice, rfl⟩)
    have hsub (mem) (hmem : mem ∈ mems) (hdevice : mem.OnDevice) : mem.key.2 = "" := by
      obtain ⟨mem', -, s, hs, hk⟩ := hcounted mem hmem hdevice
      rw [← hk, (share_eq_some_iff.mp hs).2]
    intro mem hmem hdevice
    obtain ⟨mem', hmem', s, hs, hk⟩ := hcounted mem hmem hdevice
    obtain ⟨⟨hdevice', -, hpos⟩, hs⟩ := share_eq_some_iff.mp hs
    have hk' : mem'.key = mem.key := by
      rw [← hk, hs]
      exact Prod.ext rfl (hsub mem' hmem' hdevice')
    have hwhole : 0 < wholeSum mems mem.key :=
      hpos.trans_le (hk' ▸ size_le_wholeSum hmem' hdevice')
    -- the entry holds the counted part, so nothing is left uncounted and nothing wraps
    obtain ⟨m, hm, hmk⟩ := List.mem_map.mp ((hreports.mem_iff mem.key).mpr ⟨mem, hmem, hdevice, rfl⟩)
    have hsum := total_add_unreadSum hsize hsub mem.key
    have hentry := hreports.size_eq m hm
    rw [hsizes m hm, hmk] at hentry
    have hle := Nat.mod_le (total (mems.filterMap MemoryModule.share) mem.key) (2 ^ 64)
    have hlt := Nat.mod_lt (total (mems.filterMap MemoryModule.share) mem.key)
      (show 0 < 2 ^ 64 by decide)
    refine ⟨hsub mem hmem hdevice, fun hstate => ?_, hwhole, by omega⟩
    have hunread := size_le_unreadSum hmem hdevice hstate
    omega
  · intro hall
    have hsub (mem) (hmem : mem ∈ mems) (hdevice : mem.OnDevice) : mem.key.2 = "" :=
      (hall mem hmem hdevice).1
    have hmem_iff (key : MemoryKey) : key ∈ memory.map MemoryInfo.key ↔
        ∃ mem ∈ mems, mem.OnDevice ∧ mem.key = key := by
      rw [hkeys]
      constructor
      · rintro ⟨mem, hmem, s, hs, rfl⟩
        obtain ⟨⟨hdevice, -⟩, rfl⟩ := share_eq_some_iff.mp hs
        exact ⟨mem, hmem, hdevice, Prod.ext rfl (hsub mem hmem hdevice)⟩
      · rintro ⟨mem, hmem, hdevice, rfl⟩
        obtain ⟨mem', hmem', hdevice', hk, hpos⟩ :=
          exists_of_wholeSum_pos (hall mem hmem hdevice).2.2.1
        have hstate : mem'.state.isSome := by
          rw [Option.isSome_iff_ne_none]
          intro hnone
          exact absurd ((hall mem' hmem' hdevice').2.1 hnone) hpos.ne'
        refine ⟨mem', hmem', _, share_eq_some_iff.mpr ⟨⟨hdevice', hstate, hpos⟩, rfl⟩, ?_⟩
        rw [← hk]
        exact Prod.ext rfl (hsub mem' hmem' hdevice').symm
    refine ⟨(hmemory.map _).nodup_iff.mpr hnodup, hmem_iff, fun m hm => ?_⟩
    obtain ⟨mem, hmem, hdevice, hk⟩ := (hmem_iff m.key).mp (List.mem_map_of_mem hm)
    have hunread : unreadSum mems m.key = 0 := by
      refine Nat.eq_zero_of_not_pos fun hpos => ?_
      obtain ⟨mem', hmem', hdevice', -, hpos'⟩ := exists_of_wholeSum_pos hpos
      obtain ⟨hmem', hnone⟩ := List.mem_filter.mp hmem'
      exact hpos'.ne' ((hall mem' hmem' hdevice').2.1 (Option.isNone_iff_eq_none.mp hnone))
    have hsum := total_add_unreadSum hsize hsub m.key
    rw [hunread, add_zero] at hsum
    rw [hsizes m hm, hsum, ← hk]
    exact Nat.mod_eq_of_lt (hall mem hmem hdevice).2.2.2

/-- **When the exporter reports the memory of a device.** For every batch with metadata of the
device and, in any order, the data points of its memory modules: the response has a device with the
right entries if and only if every module on the device survives. -/
theorem translate_reportsMemory_iff (toInt64 : F → Int64) (mappings : List HwStatusMapping)
    (device : DeviceAttributes) (ts : UInt64) (mems : List MemoryModule) (md : Metrics F)
    (hid : device.hwID ≠ "") (hsize : ∀ mem ∈ mems, mem.size < 2 ^ 63)
    (hmeta : device.hwID ∈ metadataIds md)
    (hpoints : ((memoryPoints md).filter fun dp => getParentID dp.attributes = device.hwID).Perm
      (scrapeSizes device ts mems)) :
    (∃ d ∈ translate toInt64 mappings md, d.info.uuid = device.hwID ∧
      ReportsMemory mems d.info.memory) ↔
      ∀ mem ∈ mems, mem.OnDevice → mem.Survives mems := by
  have hshares : (sharesAt toInt64 (memoryPoints md) device.hwID).Perm
      (mems.filterMap MemoryModule.share) := by
    rw [← sharesAt_scrapeSizes toInt64 hid ts hsize, ← sharesAt_filter]
    exact hpoints.filterMap _
  constructor
  · rintro ⟨d, hd, huuid, hreports⟩
    have hmemory := memory_of_mem_translate hd
    rw [huuid] at hmemory
    exact (reportsMemory_iff hsize hshares hmemory).mp hreports
  · intro hall
    obtain ⟨d, hd, huuid⟩ := @exists_mem_translate F toInt64 mappings md _ hmeta
    have hmemory := memory_of_mem_translate hd
    rw [huuid] at hmemory
    exact ⟨d, hd, huuid, (reportsMemory_iff hsize hshares hmemory).mpr hall⟩

/-- A batch with the metadata of a device and the sizes of its modules. -/
def memoryBatch (device : DeviceAttributes) (mems : List MemoryModule) : Metrics ℤ :=
  [⟨[⟨[⟨"hw.gpu.info", .gauge [⟨[("hw.id", .string device.hwID)], 0, .int 1⟩]⟩,
    ⟨"hw.memory.size", .sum false true (scrapeSizes device 0 mems)⟩]⟩]⟩]

def sampleGpu : DeviceAttributes := ⟨"gpu0", "0000:03:00.0"⟩

/-- A module of a megabyte, on a subdevice if there is one. -/
def hbmModule (onSubdevice : UInt8) : MemoryModule :=
  ⟨⟨"HBM", onSubdevice, 1, "DEVICE", 1048576⟩, some ⟨0, 0⟩⟩

/-- Two modules that share an entry. -/
theorem translate_reportsMemory_sample :
    ∃ d ∈ translate Int64.ofInt [] (memoryBatch sampleGpu [hbmModule 0, hbmModule 0]),
      d.info.uuid = "gpu0" ∧ ReportsMemory [hbmModule 0, hbmModule 0] d.info.memory :=
  (translate_reportsMemory_iff Int64.ofInt [] sampleGpu 0 [hbmModule 0, hbmModule 0]
    (memoryBatch sampleGpu [hbmModule 0, hbmModule 0]) (by decide)
      (by simp [hbmModule, MemoryModule.size]) (by decide) (.of_eq (by decide +kernel))).mpr
        (by unfold MemoryModule.Survives; decide +kernel)

/-- **The subdevice is lost.** The entry of a module on a subdevice is not reported. -/
theorem translate_loses_subdevice :
    sampleGpu.hwID ∈ metadataIds (memoryBatch sampleGpu [hbmModule 1]) ∧
      memoryPoints (memoryBatch sampleGpu [hbmModule 1]) =
        scrapeSizes sampleGpu 0 [hbmModule 1] ∧
      ¬∃ d ∈ translate Int64.ofInt [] (memoryBatch sampleGpu [hbmModule 1]),
        d.info.uuid = "gpu0" ∧ ReportsMemory [hbmModule 1] d.info.memory := by
  refine ⟨by decide, by decide +kernel, ?_⟩
  rintro ⟨d, hd, -, hreports⟩
  have hreport : translate Int64.ofInt [] (memoryBatch sampleGpu [hbmModule 1]) =
      [⟨⟨"gpu0", "", some ⟨"", "", ""⟩, [], [⟨"hbm", "", 1048576⟩]⟩, []⟩] := by
    decide +kernel
  rw [hreport, List.mem_singleton] at hd
  subst hd
  have hmem := (hreports.mem_iff ("hbm", "1")).mpr
    ⟨_, List.mem_singleton_self _, by decide +kernel, by decide +kernel⟩
  exact absurd hmem (by decide)

end XpuManager
