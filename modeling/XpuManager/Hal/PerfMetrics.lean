import Mathlib.Algebra.Order.Field.Rat
import Mathlib.Data.List.AList
import XpuManager.Lib.Upsert
import XpuManager.Lib.WeightedMean

/-! # Performance metrics

The performance metrics of a device come in groups (`getDevicePerfMetricGroups`, `hal/core/metric.cpp`),
and a group's values in reports, one value for each metric (`readPerfMetricsData`). Floating-point numbers
are exact here. -/

namespace XpuManager

namespace PerfMetrics

open Upsert WeightedMean

/-! ## Values -/

/-- `zet_value_type_t`. -/
inductive ValueType where
  | UINT32
  | UINT64
  | FLOAT32
  | FLOAT64
  | BOOL8
  | STRING
  | UINT8
  | UINT16
  deriving DecidableEq

/-- The members of `zet_value_t`. -/
inductive Member where
  | ui32
  | ui64
  | fp32
  | fp64
  | b8
  deriving DecidableEq

/-- The number that an IEEE 754 pattern stands for. -/
def ieee754 (exponentBits mantissaBits : Nat) (bits : Nat) : ℚ :=
  let mantissa := bits % 2 ^ mantissaBits
  let exponent := bits / 2 ^ mantissaBits % 2 ^ exponentBits
  let sign : ℚ := if bits / 2 ^ (mantissaBits + exponentBits) % 2 = 0 then 1 else -1
  let scale : ℚ := 2 ^ (2 ^ (exponentBits - 1) - 1 + mantissaBits)
  if exponent = 0 then sign * (2 * mantissa) / scale
  else sign * ((2 ^ mantissaBits + mantissa) * 2 ^ exponent) / scale

/-- A member of a value of 64 bits. -/
def Member.read (value : UInt64) : Member → ℚ
  | ui32 => (value.toNat % 2 ^ 32 : Nat)
  | ui64 => value.toNat
  | fp32 => ieee754 8 23 (value.toNat % 2 ^ 32)
  | fp64 => ieee754 11 52 value.toNat
  | b8 => (value.toNat % 2 ^ 8 : Nat)

/-- The member that holds a value of the type. -/
def ValueType.member : ValueType → Option Member
  | UINT32 => some .ui32
  | UINT64 => some .ui64
  | FLOAT32 => some .fp32
  | FLOAT64 => some .fp64
  | BOOL8 => some .b8
  | _ => none

/-! ## Groups of metrics -/

def PERF_GPU_TIME_METRIC : String := "GpuTime"

/-- A metric of a group: its name, and where it is in a report. -/
structure PerfMetric where
  name : String
  resultType : ValueType
  index : Nat
  deriving DecidableEq

/-- The name of a metric's type. -/
def PerfMetric.type (metric : PerfMetric) : String :=
  if metric.resultType = .UINT64 then "uint64_t" else "double"

/-- `DeviceMetricGroups`: no two metrics of a group have the same name or the same place. -/
structure DeviceMetricGroup where
  groupName : String
  domain : UInt32
  metricCount : Nat
  targetMetrics : List PerfMetric
  names : (targetMetrics.map PerfMetric.name).Nodup
  indexes : (targetMetrics.map PerfMetric.index).Nodup
  index_lt : ∀ metric ∈ targetMetrics, metric.index < metricCount

/-- The loop over the metrics of a group in `getDevicePerfMetricGroups`: one whose properties cannot be
read is left out, and of two with the same name the last one is kept. -/
def addMetric (targetMetrics : AList fun _ : String => PerfMetric)
    (metricProps : Option (String × ValueType) × Nat) : AList fun _ : String => PerfMetric :=
  match metricProps.1 with
  | none => targetMetrics
  | some (name, resultType) => targetMetrics.insert name ⟨name, resultType, metricProps.2⟩

/-- The metrics of a group by name. -/
def metricMap (metricProps : List (Option (String × ValueType))) :
    AList fun _ : String => PerfMetric :=
  metricProps.zipIdx.foldl addMetric ∅

/-- What the map of a group's metrics keeps: the name of each metric is its key, and its place is one of
those that have been looked at. -/
theorem metricMap_spec (metricProps : List (Option (String × ValueType))) :
    (∀ entry ∈ (metricMap metricProps).entries,
      entry.2.name = entry.1 ∧ entry.2.index < metricProps.length) ∧
    ((metricMap metricProps).entries.map fun entry => entry.2.index).Nodup := by
  induction metricProps using List.reverseRecOn with
  | nil => exact ⟨fun entry hentry => absurd hentry List.not_mem_nil, List.nodup_nil⟩
  | append_singleton metricProps props ih =>
    obtain ⟨hentries, hnodup⟩ := ih
    have hstep : metricMap (metricProps ++ [props]) =
        addMetric (metricMap metricProps) (props, metricProps.length) := by
      rw [metricMap, List.zipIdx_append, List.foldl_append, Nat.zero_add]
      rfl
    rw [hstep, List.length_append, List.length_singleton, addMetric]
    split
    · exact ⟨fun entry hentry => (hentries entry hentry).imp_right Nat.lt_succ_of_lt, hnodup⟩
    · rename_i name resultType hprops
      have hsub := List.kerase_sublist name (metricMap metricProps).entries
      rw [AList.entries_insert]
      refine ⟨List.forall_mem_cons.mpr ⟨⟨rfl, Nat.lt_succ_self _⟩, fun entry hentry =>
        (hentries entry (hsub.subset hentry)).imp_right Nat.lt_succ_of_lt⟩, ?_⟩
      rw [List.map_cons, List.nodup_cons]
      refine ⟨fun hmem => ?_, hnodup.sublist (hsub.map _)⟩
      obtain ⟨entry, hentry, hindex⟩ := List.mem_map.mp hmem
      exact absurd hindex (hentries entry (hsub.subset hentry)).2.ne

/-- `getDevicePerfMetricGroups`: a group with the metrics that the driver lists, which are no more than
it has said. -/
def getDevicePerfMetricGroup (groupName : String) (domain : UInt32) (metricCount : Nat)
    (metricProps : List (Option (String × ValueType))) (h : metricProps.length ≤ metricCount) :
    DeviceMetricGroup where
  groupName := groupName
  domain := domain
  metricCount := metricCount
  targetMetrics := (metricMap metricProps).entries.map Sigma.snd
  names := by
    have hnames : ((metricMap metricProps).entries.map Sigma.snd).map PerfMetric.name =
        (metricMap metricProps).keys := by
      rw [AList.keys, List.keys, List.map_map]
      exact List.map_congr_left fun entry hentry => ((metricMap_spec metricProps).1 entry hentry).1
    rw [hnames]
    exact (metricMap metricProps).keys_nodup
  indexes := by
    rw [List.map_map]
    exact (metricMap_spec metricProps).2
  index_lt metric hmetric := by
    obtain ⟨entry, hentry, rfl⟩ := List.mem_map.mp hmetric
    exact ((metricMap_spec metricProps).1 entry hentry).2.trans_le h

/-! ## Reports -/

/-- `PerfMetricData`. -/
structure PerfMetricData where
  name : String
  type : String
  current : ℚ
  average : ℚ
  total : ℚ
  deriving DecidableEq

/-- The member that a metric is read from. -/
def readMember (name : String) : Member := if name = PERF_GPU_TIME_METRIC then .ui64 else .fp32

section

variable (group : DeviceMetricGroup) (calculatedValues : List UInt64)

/-- The value at a place of a report. -/
def valueAt (reportIdx metricIdx : Nat) : UInt64 :=
  calculatedValues.getD (reportIdx * group.metricCount + metricIdx) 0

/-- The current value of a metric, and the time of the report if the metric is that. -/
def processMetric (reportIdx : Nat) (acc : List PerfMetricData × UInt64) (metricIdx : Nat) :
    List PerfMetricData × UInt64 :=
  let value := valueAt group calculatedValues reportIdx metricIdx
  match group.targetMetrics.find? fun metric => metric.index = metricIdx with
  | none => acc
  | some metric =>
    let current := (readMember metric.name).read value
    (upsert PerfMetricData.name metric.name (fun entry => { entry with current := current })
      ⟨metric.name, metric.type, current, 0, 0⟩ acc.1,
      if metric.name = PERF_GPU_TIME_METRIC then value else acc.2)

/-- One report: what has been collected so far, and the time. -/
def processReport (acc : List PerfMetricData × UInt64) (reportIdx : Nat) :
    List PerfMetricData × UInt64 :=
  let processed := (List.range group.metricCount).foldl
    (processMetric group calculatedValues reportIdx) (acc.1, 0)
  (processed.1.map fun entry => { entry with
    total := entry.total +
      if entry.type = "time" then processed.2.toNat * entry.current else entry.current },
    acc.2 + processed.2)

/-- The loop over the reports, and the averages. -/
def processReports : List PerfMetricData :=
  let reports := calculatedValues.length / group.metricCount
  let processed := (List.range reports).foldl (processReport group calculatedValues) ([], 0)
  processed.1.map fun entry =>
    if processed.2 > 0 then { entry with average := entry.total / processed.2.toNat } else entry

end

/-- What the driver answers when a group is read. -/
structure ReadAnswers where
  dataSize : UInt32
  readData : UInt32
  valueCount : UInt32
  values : UInt32
  calculatedValues : List UInt64

/-- All calls succeed. -/
def ReadAnswers.Success (answers : ReadAnswers) : Prop :=
  answers.dataSize = 0 ∧ answers.readData = 0 ∧ answers.valueCount = 0 ∧ answers.values = 0

instance (answers : ReadAnswers) : Decidable answers.Success :=
  inferInstanceAs (Decidable (_ ∧ _ ∧ _ ∧ _))

/-- `PerfMetricGroupData`. -/
structure PerfMetricGroupData where
  name : String
  data : List PerfMetricData

/-- `readPerfMetricsData`: a group that cannot be read is left out. -/
def readPerfMetricsData (metricGroups : List (DeviceMetricGroup × ReadAnswers))
    (outputData : List PerfMetricGroupData) : List PerfMetricGroupData :=
  metricGroups.foldl (fun outputData (group, answers) =>
    if answers.Success then
      outputData ++ [⟨group.groupName, processReports group answers.calculatedValues⟩]
    else outputData) outputData

/-! ## One report -/

section

variable {group : DeviceMetricGroup} {calculatedValues : List UInt64}

/-- The metrics of a group in the order of a report. -/
def DeviceMetricGroup.reported (group : DeviceMetricGroup) : List PerfMetric :=
  (List.range group.metricCount).filterMap fun i =>
    group.targetMetrics.find? fun metric => metric.index = i

theorem find?_index {i : Nat} {metric : PerfMetric} :
    (group.targetMetrics.find? fun metric => metric.index = i) = some metric ↔
      metric ∈ group.targetMetrics ∧ metric.index = i :=
  find?_key_eq_some_iff group.indexes

theorem mem_reported {metric : PerfMetric} :
    metric ∈ group.reported ↔ metric ∈ group.targetMetrics := by
  rw [DeviceMetricGroup.reported, List.mem_filterMap]
  simp only [find?_index, List.mem_range]
  exact ⟨fun ⟨i, _, hmem, _⟩ => hmem, fun hmem => ⟨metric.index, group.index_lt metric hmem, hmem, rfl⟩⟩

theorem nodup_names_reported : (group.reported.map PerfMetric.name).Nodup := by
  have hnodup : group.reported.Nodup := by
    refine List.Nodup.filterMap (fun i j metric hi hj => ?_) List.nodup_range
    exact (find?_index.mp hi).2.symm.trans (find?_index.mp hj).2
  exact hnodup.map_on fun metric hmetric other hother =>
    List.inj_on_of_nodup_map group.names (mem_reported.mp hmetric) (mem_reported.mp hother)

/-- The value of a metric in a report, as it is read. -/
def current (group : DeviceMetricGroup) (calculatedValues : List UInt64) (reportIdx : Nat)
    (metric : PerfMetric) : ℚ :=
  (readMember metric.name).read (valueAt group calculatedValues reportIdx metric.index)

/-- The time of a report. -/
def elapsed (group : DeviceMetricGroup) (calculatedValues : List UInt64) (reportIdx : Nat) : UInt64 :=
  ((group.targetMetrics.find? fun metric => metric.name = PERF_GPU_TIME_METRIC).map fun metric =>
    valueAt group calculatedValues reportIdx metric.index).getD 0

/-- What is known of the metrics after some reports. -/
def entries (metrics : List PerfMetric) (current total : PerfMetric → ℚ) : List PerfMetricData :=
  metrics.map fun metric => ⟨metric.name, metric.type, current metric, 0, total metric⟩

/-- The loop over the places of a report is one over its metrics. -/
theorem foldl_processMetric (reportIdx : Nat) (acc : List PerfMetricData × UInt64) :
    (List.range group.metricCount).foldl (processMetric group calculatedValues reportIdx) acc =
      (group.reported.foldl (fun data metric => upsert PerfMetricData.name metric.name
          (fun entry => { entry with current := current group calculatedValues reportIdx metric })
          ⟨metric.name, metric.type, current group calculatedValues reportIdx metric, 0, 0⟩ data) acc.1,
        group.reported.foldl (fun time metric =>
          if metric.name = PERF_GPU_TIME_METRIC then
            valueAt group calculatedValues reportIdx metric.index
          else time) acc.2) := by
  rw [DeviceMetricGroup.reported]
  induction List.range group.metricCount generalizing acc with
  | nil => rfl
  | cons i is ih =>
    rw [List.foldl_cons, List.filterMap_cons, ih, processMetric]
    cases hfind : group.targetMetrics.find? fun metric => metric.index = i with
    | none => rfl
    | some metric =>
      obtain ⟨-, rfl⟩ := find?_index.mp hfind
      rfl

theorem foldl_elapsed (reportIdx : Nat) :
    group.reported.foldl (fun time metric =>
      if metric.name = PERF_GPU_TIME_METRIC then valueAt group calculatedValues reportIdx metric.index
      else time) 0 = elapsed group calculatedValues reportIdx := by
  have hfind : (group.reported.find? fun metric => metric.name = PERF_GPU_TIME_METRIC) =
      group.targetMetrics.find? fun metric => metric.name = PERF_GPU_TIME_METRIC := by
    ext metric
    rw [find?_key_eq_some_iff nodup_names_reported, find?_key_eq_some_iff group.names, mem_reported]
  rw [foldl_ite_key nodup_names_reported, hfind, elapsed]

theorem type_ne_time (metric : PerfMetric) : metric.type ≠ "time" := by
  rw [PerfMetric.type]
  split <;> decide

/-- What is added to the totals: the times are not looked at, as no metric is of that type. -/
theorem map_total (metrics : List PerfMetric) (current total : PerfMetric → ℚ) (time : UInt64) :
    ((entries metrics current total).map fun entry => { entry with
      total := entry.total +
        if entry.type = "time" then time.toNat * entry.current else entry.current }) =
      entries metrics current fun metric => total metric + current metric := by
  rw [entries, List.map_map]
  refine List.map_congr_left fun metric _ => ?_
  dsimp only [Function.comp_apply]
  rw [if_neg (type_ne_time metric)]

/-- The first report. -/
theorem processReport_nil (cumulativeTime : UInt64) (reportIdx : Nat) :
    processReport group calculatedValues ([], cumulativeTime) reportIdx =
      (entries group.reported (current group calculatedValues reportIdx)
          (current group calculatedValues reportIdx),
        cumulativeTime + elapsed group calculatedValues reportIdx) := by
  have hname (metric : PerfMetric) : PerfMetricData.name ⟨metric.name, metric.type,
      current group calculatedValues reportIdx metric, 0, 0⟩ = metric.name := rfl
  rw [processReport, foldl_processMetric, foldl_elapsed]
  dsimp only
  rw [foldl_upsert_nil hname nodup_names_reported]
  have hentries := map_total group.reported (current group calculatedValues reportIdx) 0
    (elapsed group calculatedValues reportIdx)
  simp only [Pi.zero_apply, zero_add] at hentries
  exact congrArg (·, _) hentries

/-- Any other report. -/
theorem processReport_entries (before total : PerfMetric → ℚ) (cumulativeTime : UInt64)
    (reportIdx : Nat) :
    processReport group calculatedValues (entries group.reported before total, cumulativeTime)
        reportIdx =
      (entries group.reported (current group calculatedValues reportIdx)
          (fun metric => total metric + current group calculatedValues reportIdx metric),
        cumulativeTime + elapsed group calculatedValues reportIdx) := by
  have hname (current : ℚ) (metric : PerfMetric) : PerfMetricData.name ⟨metric.name, metric.type,
      current, 0, total metric⟩ = metric.name := rfl
  rw [processReport, foldl_processMetric, foldl_elapsed]
  dsimp only
  rw [entries, foldl_upsert_map (fun metric => hname (before metric) metric)
    (fun metric => hname (current group calculatedValues reportIdx metric) metric) nodup_names_reported]
  exact congrArg (·, _) (map_total group.reported (current group calculatedValues reportIdx) total
    (elapsed group calculatedValues reportIdx))

/-! ## All reports -/

/-- The time of the reports together, as a number. -/
def elapsedTotal (group : DeviceMetricGroup) (calculatedValues : List UInt64) (reports : Nat) : Nat :=
  ∑ reportIdx ∈ Finset.range reports, (elapsed group calculatedValues reportIdx).toNat

/-- The sums and the time after some reports. -/
theorem foldl_processReport (k : Nat) :
    (List.range (k + 1)).foldl (processReport group calculatedValues) ([], 0) =
      (entries group.reported (current group calculatedValues k) (fun metric =>
          ∑ reportIdx ∈ Finset.range (k + 1), current group calculatedValues reportIdx metric),
        UInt64.ofNat (elapsedTotal group calculatedValues (k + 1))) := by
  induction k with
  | zero =>
    rw [List.range_one, List.foldl_cons, List.foldl_nil, processReport_nil, zero_add]
    simp [elapsedTotal]
  | succ k ih =>
    rw [List.range_succ, List.foldl_concat, ih, processReport_entries, elapsedTotal, elapsedTotal,
      Finset.sum_range_succ _ (k + 1), UInt64.ofNat_add, UInt64.ofNat_toNat]
    simp only [Finset.sum_range_succ _ (k + 1)]

/-- **What is computed**: the plain sum of a metric's values over the time of all reports, as a
machine word. -/
theorem processReports_eq (hreports : 0 < calculatedValues.length / group.metricCount) :
    processReports group calculatedValues = group.reported.map fun metric =>
      ⟨metric.name, metric.type,
        current group calculatedValues (calculatedValues.length / group.metricCount - 1) metric,
        (∑ reportIdx ∈ Finset.range (calculatedValues.length / group.metricCount),
            current group calculatedValues reportIdx metric) /
          ((elapsedTotal group calculatedValues (calculatedValues.length / group.metricCount)) %
            2 ^ 64 : Nat),
        ∑ reportIdx ∈ Finset.range (calculatedValues.length / group.metricCount),
          current group calculatedValues reportIdx metric⟩ := by
  obtain ⟨k, hk⟩ := Nat.exists_eq_add_of_lt hreports
  rw [zero_add] at hk
  rw [processReports, hk, foldl_processReport, Nat.add_sub_cancel, entries]
  dsimp only
  rw [List.map_map]
  refine List.map_congr_left fun metric _ => ?_
  have htime : (UInt64.ofNat (elapsedTotal group calculatedValues (k + 1))).toNat =
      elapsedTotal group calculatedValues (k + 1) % 2 ^ 64 := UInt64.toNat_ofNat' ..
  dsimp only [Function.comp_apply]
  split
  case isTrue => rw [htime]
  case isFalse hzero =>
    -- without a time the averages stay zero, which is what a division by zero gives here
    have hnone : elapsedTotal group calculatedValues (k + 1) % 2 ^ 64 = 0 := by
      rw [← htime]
      exact Nat.eq_zero_of_not_pos fun hpos => hzero (UInt64.lt_iff_toNat_lt.mpr hpos)
    rw [hnone, Nat.cast_zero, div_zero]

end

/-! ## Weighted means -/

section

variable (group : DeviceMetricGroup) (calculatedValues : List UInt64)

/-- How many reports the values are. -/
def reportCount : Nat := calculatedValues.length / group.metricCount

/-- The value of a metric in a report: the member that its type says. -/
def value (reportIdx : Nat) (metric : PerfMetric) : ℚ :=
  match metric.resultType.member with
  | none => 0
  | some member => member.read (valueAt group calculatedValues reportIdx metric.index)

/-- The time on the GPU of a report. -/
def gpuTime (reportIdx : Nat) : ℚ :=
  match group.targetMetrics.find? fun metric => metric.name = PERF_GPU_TIME_METRIC with
  | none => 0
  | some metric => value group calculatedValues reportIdx metric

/-- What is asked of the entry of a metric: its values are read from the member that its type says, the
average is their mean weighted with the time, which lies between them, and the current value is that of
the last report. -/
structure IsWeightedMean (metric : PerfMetric) (entry : PerfMetricData) : Prop where
  member : metric.resultType.member = some (readMember metric.name)
  average : entry.average = weightedMean (Finset.range (reportCount group calculatedValues))
    (gpuTime group calculatedValues) fun reportIdx => value group calculatedValues reportIdx metric
  lower : ∀ bound, (∀ reportIdx < reportCount group calculatedValues,
    bound ≤ value group calculatedValues reportIdx metric) → bound ≤ entry.average
  upper : ∀ bound, (∀ reportIdx < reportCount group calculatedValues,
    value group calculatedValues reportIdx metric ≤ bound) → entry.average ≤ bound
  current : entry.current =
    value group calculatedValues (reportCount group calculatedValues - 1) metric

/-- Every metric has such an entry. -/
def WeightedMeans (data : List PerfMetricData) : Prop :=
  ∀ metric ∈ group.targetMetrics, ∃ entry ∈ data, entry.name = metric.name ∧
    IsWeightedMean group calculatedValues metric entry

/-- The reports whose plain sums give the means: the members that are read are those of the types, the
total time is no multiple of the size of a machine word, and the sum of a metric's values over the total
time as a machine word is the sum of its values times the times over the total time. -/
structure PlainSums : Prop where
  members : ∀ metric ∈ group.targetMetrics,
    metric.resultType = if metric.name = PERF_GPU_TIME_METRIC then .UINT64 else .FLOAT32
  total : elapsedTotal group calculatedValues (reportCount group calculatedValues) % 2 ^ 64 ≠ 0
  sums : ∀ metric ∈ group.targetMetrics,
    (∑ reportIdx ∈ Finset.range (reportCount group calculatedValues),
        value group calculatedValues reportIdx metric) *
      ∑ reportIdx ∈ Finset.range (reportCount group calculatedValues),
        gpuTime group calculatedValues reportIdx =
    (∑ reportIdx ∈ Finset.range (reportCount group calculatedValues),
        gpuTime group calculatedValues reportIdx * value group calculatedValues reportIdx metric) *
      (elapsedTotal group calculatedValues (reportCount group calculatedValues) % 2 ^ 64 : Nat)

end

section

variable {group : DeviceMetricGroup} {calculatedValues : List UInt64} {metric : PerfMetric}

theorem member_eq_readMember_iff : metric.resultType.member = some (readMember metric.name) ↔
    metric.resultType = if metric.name = PERF_GPU_TIME_METRIC then .UINT64 else .FLOAT32 := by
  rw [readMember]
  split <;> cases metric.resultType <;> decide

theorem current_eq_value (h : metric.resultType.member = some (readMember metric.name))
    (reportIdx : Nat) :
    current group calculatedValues reportIdx metric = value group calculatedValues reportIdx metric := by
  rw [current, value, h]

/-- Where the time is read from the member of its type, it is what the code adds up. -/
theorem gpuTime_eq_elapsed (h : ∀ metric ∈ group.targetMetrics,
      metric.resultType = if metric.name = PERF_GPU_TIME_METRIC then .UINT64 else .FLOAT32)
    (reportIdx : Nat) : gpuTime group calculatedValues reportIdx =
      (elapsed group calculatedValues reportIdx).toNat := by
  rw [gpuTime, elapsed]
  cases hfind : group.targetMetrics.find? fun metric => metric.name = PERF_GPU_TIME_METRIC with
  | none => rfl
  | some metric =>
    obtain ⟨hmem, hname⟩ := (find?_key_eq_some_iff group.names).mp hfind
    have htype := h metric hmem
    rw [if_pos hname] at htype
    dsimp only
    rw [value, htype]
    rfl

theorem reportCount_pos
    (hpos : 0 < ∑ reportIdx ∈ Finset.range (reportCount group calculatedValues),
      gpuTime group calculatedValues reportIdx) : 0 < reportCount group calculatedValues := by
  refine Nat.pos_of_ne_zero fun hzero => ?_
  rw [hzero, Finset.range_zero, Finset.sum_empty] at hpos
  exact lt_irrefl 0 hpos

/-- The entry of a metric, where it is read from the member of its type. -/
theorem entry_of_member (hreports : 0 < reportCount group calculatedValues)
    (hmetric : metric ∈ group.targetMetrics)
    (hmember : metric.resultType.member = some (readMember metric.name)) {entry : PerfMetricData} :
    entry ∈ processReports group calculatedValues ∧ entry.name = metric.name ↔
      entry = ⟨metric.name, metric.type,
        value group calculatedValues (reportCount group calculatedValues - 1) metric,
        (∑ reportIdx ∈ Finset.range (reportCount group calculatedValues),
            value group calculatedValues reportIdx metric) /
          ((elapsedTotal group calculatedValues (reportCount group calculatedValues)) % 2 ^ 64 : Nat),
        ∑ reportIdx ∈ Finset.range (reportCount group calculatedValues),
          value group calculatedValues reportIdx metric⟩ := by
  rw [processReports_eq hreports, List.mem_map]
  simp only [← current_eq_value hmember]
  constructor
  · rintro ⟨⟨other, hother, rfl⟩, hname⟩
    rw [List.inj_on_of_nodup_map group.names (mem_reported.mp hother) hmetric hname]
    rfl
  · rintro rfl
    exact ⟨⟨metric, mem_reported.mpr hmetric, rfl⟩, rfl⟩

/-- The metric of the time, which is there if there is some time. -/
theorem exists_gpuTime
    (hpos : 0 < ∑ reportIdx ∈ Finset.range (reportCount group calculatedValues),
      gpuTime group calculatedValues reportIdx) :
    ∃ metric ∈ group.targetMetrics, ∀ reportIdx,
      value group calculatedValues reportIdx metric = gpuTime group calculatedValues reportIdx := by
  cases hfind : group.targetMetrics.find? fun metric => metric.name = PERF_GPU_TIME_METRIC with
  | none =>
    simp only [gpuTime, hfind, Finset.sum_const_zero, lt_irrefl] at hpos
  | some metric =>
    refine ⟨metric, List.mem_of_find?_eq_some hfind, fun reportIdx => ?_⟩
    simp only [gpuTime, hfind]

/-- The mean of the times, weighted with themselves, is not zero. -/
theorem weightedMean_gpuTime_ne_zero
    (hnonneg : ∀ reportIdx ∈ Finset.range (reportCount group calculatedValues),
      0 ≤ gpuTime group calculatedValues reportIdx)
    (hpos : 0 < ∑ reportIdx ∈ Finset.range (reportCount group calculatedValues),
      gpuTime group calculatedValues reportIdx) :
    weightedMean (Finset.range (reportCount group calculatedValues)) (gpuTime group calculatedValues)
      (gpuTime group calculatedValues) ≠ 0 := by
  intro hzero
  rw [weightedMean, div_eq_zero_iff, or_iff_left hpos.ne',
    Finset.sum_eq_zero_iff_of_nonneg fun reportIdx hidx =>
      mul_nonneg (hnonneg reportIdx hidx) (hnonneg reportIdx hidx)] at hzero
  exact hpos.ne' (Finset.sum_eq_zero fun reportIdx hidx => mul_self_eq_zero.mp (hzero reportIdx hidx))

/-- **Averages** are means weighted with the time exactly where the plain sums give them. -/
theorem weightedMeans_iff (hpos : 0 < ∑ reportIdx ∈ Finset.range (reportCount group calculatedValues),
      gpuTime group calculatedValues reportIdx) :
    WeightedMeans group calculatedValues (processReports group calculatedValues) ↔
      PlainSums group calculatedValues := by
  have hreports := reportCount_pos hpos
  constructor
  · intro h
    have hmember : ∀ metric ∈ group.targetMetrics,
        metric.resultType.member = some (readMember metric.name) := fun metric hmetric =>
      (h metric hmetric).elim fun entry hentry => hentry.2.2.member
    have haverage : ∀ metric ∈ group.targetMetrics,
        (∑ reportIdx ∈ Finset.range (reportCount group calculatedValues),
            value group calculatedValues reportIdx metric) /
          ((elapsedTotal group calculatedValues (reportCount group calculatedValues)) % 2 ^ 64 : Nat) =
        weightedMean (Finset.range (reportCount group calculatedValues))
          (gpuTime group calculatedValues)
          fun reportIdx => value group calculatedValues reportIdx metric := by
      intro metric hmetric
      obtain ⟨entry, hentry, hname, hmean⟩ := h metric hmetric
      obtain rfl := (entry_of_member hreports hmetric (hmember metric hmetric)).mp ⟨hentry, hname⟩
      exact hmean.average
    have hmembers : ∀ metric ∈ group.targetMetrics,
        metric.resultType = if metric.name = PERF_GPU_TIME_METRIC then .UINT64 else .FLOAT32 :=
      fun metric hmetric => member_eq_readMember_iff.mp (hmember metric hmetric)
    have htotal :
        elapsedTotal group calculatedValues (reportCount group calculatedValues) % 2 ^ 64 ≠ 0 := by
      intro hzero
      obtain ⟨metric, hmetric, htime⟩ := exists_gpuTime hpos
      have heq := haverage metric hmetric
      rw [hzero, Nat.cast_zero, div_zero] at heq
      simp only [htime] at heq
      refine weightedMean_gpuTime_ne_zero (fun reportIdx _ => ?_) hpos heq.symm
      rw [gpuTime_eq_elapsed hmembers]
      exact Nat.cast_nonneg _
    refine ⟨hmembers, htotal, fun metric hmetric => ?_⟩
    have heq := haverage metric hmetric
    rwa [weightedMean, div_eq_div_iff (Nat.cast_ne_zero.mpr htotal) hpos.ne'] at heq
  · intro h metric hmetric
    have hmember := member_eq_readMember_iff.mpr (h.members metric hmetric)
    obtain ⟨hmem, hname⟩ := (entry_of_member hreports hmetric hmember).mpr rfl
    have haverage : (∑ reportIdx ∈ Finset.range (reportCount group calculatedValues),
          value group calculatedValues reportIdx metric) /
        ((elapsedTotal group calculatedValues (reportCount group calculatedValues)) % 2 ^ 64 : Nat) =
        weightedMean (Finset.range (reportCount group calculatedValues))
          (gpuTime group calculatedValues)
          fun reportIdx => value group calculatedValues reportIdx metric := by
      rw [weightedMean, div_eq_div_iff (Nat.cast_ne_zero.mpr h.total) hpos.ne']
      exact h.sums metric hmetric
    have hnonneg : ∀ reportIdx ∈ Finset.range (reportCount group calculatedValues),
        0 ≤ gpuTime group calculatedValues reportIdx := fun reportIdx _ => by
      rw [gpuTime_eq_elapsed h.members]
      exact Nat.cast_nonneg _
    refine ⟨_, hmem, hname, hmember, haverage, fun bound hbound => ?_, fun bound hbound => ?_, rfl⟩
    · rw [haverage]
      exact le_weightedMean hnonneg hpos fun reportIdx hidx =>
        hbound reportIdx (Finset.mem_range.mp hidx)
    · rw [haverage]
      exact weightedMean_le hnonneg hpos fun reportIdx hidx =>
        hbound reportIdx (Finset.mem_range.mp hidx)

/-- **The plain sums**, for a total time below the size of a machine word: they give the means if every
report has a time of 0 or 1, and the values of those with a time of 0 add up to 0. -/
theorem plainSums_iff (hpos : 0 < ∑ reportIdx ∈ Finset.range (reportCount group calculatedValues),
      gpuTime group calculatedValues reportIdx)
    (hlt : elapsedTotal group calculatedValues (reportCount group calculatedValues) < 2 ^ 64) :
    PlainSums group calculatedValues ↔
      (∀ metric ∈ group.targetMetrics,
        metric.resultType = if metric.name = PERF_GPU_TIME_METRIC then .UINT64 else .FLOAT32) ∧
      (∀ reportIdx ∈ Finset.range (reportCount group calculatedValues),
        gpuTime group calculatedValues reportIdx = 0 ∨
          gpuTime group calculatedValues reportIdx = 1) ∧
      ∀ metric ∈ group.targetMetrics,
        ∑ reportIdx ∈ Finset.range (reportCount group calculatedValues) with
          gpuTime group calculatedValues reportIdx = 0,
            value group calculatedValues reportIdx metric = 0 := by
  have htotal (h : ∀ metric ∈ group.targetMetrics,
        metric.resultType = if metric.name = PERF_GPU_TIME_METRIC then .UINT64 else .FLOAT32) :
      ((elapsedTotal group calculatedValues (reportCount group calculatedValues) % 2 ^ 64 : Nat) : ℚ) =
        ∑ reportIdx ∈ Finset.range (reportCount group calculatedValues),
          gpuTime group calculatedValues reportIdx := by
    rw [Nat.mod_eq_of_lt hlt, elapsedTotal, Nat.cast_sum]
    exact Finset.sum_congr rfl fun reportIdx _ => (gpuTime_eq_elapsed h reportIdx).symm
  constructor
  · intro h
    have hsums (metric : PerfMetric) (hmetric : metric ∈ group.targetMetrics) :=
      mul_right_cancel₀ hpos.ne' ((h.sums metric hmetric).trans (by rw [htotal h.members]))
    -- the time is itself a metric, so its sum is that of its squares
    have htimes : ∀ reportIdx ∈ Finset.range (reportCount group calculatedValues),
        gpuTime group calculatedValues reportIdx = 0 ∨
          gpuTime group calculatedValues reportIdx = 1 := by
      obtain ⟨metric, hmetric, htime⟩ := exists_gpuTime hpos
      have hsquares := hsums metric hmetric
      simp only [htime, gpuTime_eq_elapsed h.members] at hsquares ⊢
      exact_mod_cast sum_eq_sum_sq_iff.mp (by exact_mod_cast hsquares)
    exact ⟨h.members, htimes, fun metric hmetric =>
      (sum_eq_sum_mul_iff htimes).mp (hsums metric hmetric)⟩
  · rintro ⟨hmembers, htimes, hzero⟩
    refine ⟨hmembers, fun hnone => ?_, fun metric hmetric => ?_⟩
    · rw [← htotal hmembers, hnone] at hpos
      exact absurd hpos (by simp)
    · rw [htotal hmembers, ← (sum_eq_sum_mul_iff htimes).mpr (hzero metric hmetric)]

end

/-- Every group that can be read is added to the data. -/
theorem readPerfMetricsData_eq (metricGroups : List (DeviceMetricGroup × ReadAnswers))
    (outputData : List PerfMetricGroupData) :
    readPerfMetricsData metricGroups outputData = outputData ++
      (metricGroups.filter fun read => read.2.Success).map fun read =>
        ⟨read.1.groupName, processReports read.1 read.2.calculatedValues⟩ := by
  induction metricGroups generalizing outputData with
  | nil => exact (List.append_nil outputData).symm
  | cons read metricGroups ih =>
    rw [readPerfMetricsData, List.foldl_cons]
    refine (ih _).trans ?_
    dsimp only
    by_cases hsuccess : read.2.Success
    · rw [if_pos hsuccess, List.filter_cons_of_pos (by simpa using hsuccess), List.append_assoc]
      rfl
    · rw [if_neg hsuccess, List.filter_cons_of_neg (by simpa using hsuccess)]

/-- **The averages of all groups** that can be read, in any reports with some time, are means weighted
with the time exactly where the plain sums give them. -/
theorem readPerfMetricsData_iff (metricGroups : List (DeviceMetricGroup × ReadAnswers))
    (outputData : List PerfMetricGroupData) :
    ∃ added, readPerfMetricsData metricGroups outputData = outputData ++ added ∧
      List.Forall₂ (fun (read : DeviceMetricGroup × ReadAnswers) (data : PerfMetricGroupData) =>
        data.name = read.1.groupName ∧
        (0 < ∑ reportIdx ∈ Finset.range (reportCount read.1 read.2.calculatedValues),
            gpuTime read.1 read.2.calculatedValues reportIdx →
          (WeightedMeans read.1 read.2.calculatedValues data.data ↔
            PlainSums read.1 read.2.calculatedValues)))
        (metricGroups.filter fun read => read.2.Success) added := by
  refine ⟨_, readPerfMetricsData_eq metricGroups outputData, ?_⟩
  rw [List.forall₂_map_right_iff]
  exact List.forall₂_same.mpr fun read _ => ⟨rfl, weightedMeans_iff⟩

/-- The time on the GPU, and how much of it was used. -/
def euGroup : DeviceMetricGroup where
  groupName := "Eu"
  domain := 0
  metricCount := 2
  targetMetrics := [⟨"GpuTime", .UINT64, 0⟩, ⟨"EuActive", .FLOAT32, 1⟩]
  names := by decide
  indexes := by decide
  index_lt := by decide

/-- One report of 1000 ns and 50 %, for which the average is 0.05 %. -/
theorem weightedMeans_euGroup :
    (0 < ∑ reportIdx ∈ Finset.range (reportCount euGroup [1000, 0x42480000]),
      gpuTime euGroup [1000, 0x42480000] reportIdx) ∧
    ¬WeightedMeans euGroup [1000, 0x42480000] (processReports euGroup [1000, 0x42480000]) := by
  have hpos : 0 < ∑ reportIdx ∈ Finset.range (reportCount euGroup [1000, 0x42480000]),
      gpuTime euGroup [1000, 0x42480000] reportIdx := by decide +kernel
  refine ⟨hpos, fun h => ?_⟩
  have hsums := ((weightedMeans_iff hpos).mp h).sums ⟨"EuActive", .FLOAT32, 1⟩ (by decide)
  exact absurd hsums (by decide +kernel)

/-- Where the report is of 1 ns the average is the mean. -/
theorem readPerfMetricsData_iff_one :
    ∃ data, readPerfMetricsData [(euGroup, ⟨0, 0, 0, 0, [1, 0x42480000]⟩)] [] = [data] ∧
      WeightedMeans euGroup [1, 0x42480000] data.data := by
  obtain ⟨added, hadded, hall⟩ :=
    readPerfMetricsData_iff [(euGroup, ⟨0, 0, 0, 0, [1, 0x42480000]⟩)] []
  obtain ⟨data, rest, ⟨-, hdata⟩, hrest, rfl⟩ := List.forall₂_cons_left_iff.mp hall
  obtain rfl := List.forall₂_nil_left_iff.mp hrest
  refine ⟨data, hadded, (hdata (by decide +kernel)).mpr ⟨by decide, by decide, ?_⟩⟩
  refine List.forall_mem_cons.mpr ⟨by decide +kernel, List.forall_mem_cons.mpr ⟨by decide +kernel, ?_⟩⟩
  exact fun metric hmetric => absurd hmetric List.not_mem_nil

end PerfMetrics

end XpuManager
