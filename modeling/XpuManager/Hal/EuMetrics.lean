import Mathlib.Algebra.Order.BigOperators.Group.List
import Mathlib.Data.List.Infix
import Mathlib.Tactic.GCongr
import Mathlib.Tactic.Ring
import XpuManager.Lib.Resources
import XpuManager.Lib.Rounding

/-! # Metrics of the execution units

How busy the execution units of a device are (`getEuActiveStallIdleCore`, `hal/core/metric.cpp`). A metric
group is activated and read for a while, and its reports are weighted with the time on the GPU. All that
was opened is closed by hand on each way out. -/

namespace XpuManager

namespace EuMetrics

open Resources Rounding

/-! ## Floating-point values -/

/-- A value of a `float`, or of a `double` that it is multiplied with: a finite one is a multiple of the
least `float`, which is `2 ^ -149`. -/
inductive Double where
  | nan
  | infinite (negative : Bool)
  | finite (n : Int)
  deriving DecidableEq

/-- One, as a multiple of the least `float`. -/
def one : Nat := 2 ^ 149

namespace Double

/-- The member `fp32` of a `zet_value_t`. -/
def fp32 (value : UInt64) : Double :=
  let bits := value.toNat % 2 ^ 32
  let mantissa := bits % 2 ^ 23
  let exponent := bits / 2 ^ 23 % 2 ^ 8
  let negative := bits / 2 ^ 31 = 1
  if exponent = 255 then if mantissa = 0 then infinite negative else nan
  else
    let magnitude : Nat := if exponent = 0 then mantissa else (2 ^ 23 + mantissa) * 2 ^ (exponent - 1)
    finite (if negative then -magnitude else magnitude)

/-- Not a number is not less than anything, and nothing is less than it. -/
def lt : Double → Double → Bool
  | nan, _ | _, nan => false
  | infinite negative, infinite negative' => negative && !negative'
  | infinite negative, finite _ => negative
  | finite _, infinite negative => !negative
  | finite n, finite n' => n < n'

/-- `std::max`. -/
def max (a b : Double) : Double := if a.lt b then b else a

/-- A percentage is too high to be one. -/
def exceeds100 (a : Double) : Bool := (finite (100 * one)).lt a

/-- A time, which is rounded to a `double`, times a value, which is rounded too. -/
def times (time : UInt64) : Double → Double
  | nan => nan
  | infinite negative => if time = 0 then nan else infinite negative
  | finite n =>
    let magnitude := roundBits 53 (roundBits 53 time.toNat * n.natAbs)
    finite (if n < 0 then -magnitude else magnitude)

/-- The cast to `uint64_t`, which is undefined for what does not fit. -/
def toUInt64 : Double → Option UInt64
  | finite n => if 0 ≤ n.tdiv one ∧ n.tdiv one < 2 ^ 64 then some (.ofNat (n.tdiv one).toNat) else none
  | _ => none

end Double

/-! ## The group of metrics -/

def ZET_METRIC_GROUP_SAMPLING_TYPE_FLAG_TIME_BASED : UInt32 := 2

/-- What the driver says of a metric group, unless it fails: its name and sampling type, and the names of
its metrics. -/
structure MetricGroup where
  properties : Option (String × UInt32)
  metrics : Option (List (Option String))
  deriving DecidableEq

/-- The metrics that are needed. -/
def hasEuMetrics (metrics : List (Option String)) : Bool :=
  (metrics.contains (some "EuActive") || metrics.contains (some "XveActive") ||
    metrics.contains (some "XVE_ACTIVE")) &&
  (metrics.contains (some "EuStall") || metrics.contains (some "XveStall") ||
    metrics.contains (some "XVE_STALL")) && metrics.contains (some "GpuTime")

/-- The group has the metrics of the execution units, sampled over time. -/
def MetricGroup.isEuGroup (group : MetricGroup) : Bool :=
  match group.properties with
  | none => false
  | some (groupName, samplingType) =>
    decide ("ComputeBasic".toList <:+: groupName.toList) &&
      samplingType &&& ZET_METRIC_GROUP_SAMPLING_TYPE_FLAG_TIME_BASED ≠ 0 &&
      group.metrics.any hasEuMetrics

/-- `findEuMetricGroupLocked`: the group of the device that is cached, or the first that there is. Groups
are known by their places. -/
def findEuMetricGroupLocked (cached : Option Nat) (metricGroups : Option (List MetricGroup)) :
    Option Nat :=
  match cached with
  | some group => some group
  | none => metricGroups.bind (List.findIdx? MetricGroup.isEuGroup)

/-! ## Reports -/

/-- What is read from a report. -/
structure Report where
  euStall : Double
  euActive : Double
  xveStall : Double
  xveActive : Double
  gpuElapsedTime : UInt64
  deriving DecidableEq

/-- A report before its values are looked at. -/
def Report.empty : Report := ⟨.finite 0, .finite 0, .finite 0, .finite 0, 0⟩

/-- A metric by its name, if its properties can be read. -/
def Report.set (report : Report) (value : UInt64) : Option String → Report
  | none => report
  | some name =>
    if name = "GpuBusy" then report
    else if name = "EuActive" then { report with euActive := .fp32 value }
    else if name = "EuStall" then { report with euStall := .fp32 value }
    else if name = "XveActive" ∨ name = "XVE_ACTIVE" then { report with xveActive := .fp32 value }
    else if name = "XveStall" ∨ name = "XVE_STALL" then { report with xveStall := .fp32 value }
    else if name = "GpuTime" then { report with gpuElapsedTime := value }
    else report

/-- The values that the driver has calculated, and the metrics, whose names it is asked for again in each
report. -/
structure Values where
  metricValues : List UInt64
  numMetrics : UInt32
  names : (report metricIdx : Nat) → Option String

namespace Values

/-- How many reports there are. -/
def numReports (values : Values) : Nat := values.metricValues.length / values.numMetrics.toNat

/-- One report, from its values. -/
def report (values : Values) (report : Nat) : Report :=
  (List.range values.numMetrics.toNat).foldl (fun current metricIdx =>
    current.set (values.metricValues.getD (report * values.numMetrics.toNat + metricIdx) 0)
      (values.names report metricIdx)) .empty

/-- All reports. -/
def reports (values : Values) : List Report := (List.range values.numReports).map values.report

end Values

namespace Report

/-- The active share: the larger one of the two metrics. -/
def currentEuActive (report : Report) : Double := report.euActive.max report.xveActive

/-- The stalled share: the larger one of the two metrics. -/
def currentEuStall (report : Report) : Double := report.euStall.max report.xveStall

/-- Both are at most 100, or no numbers. -/
def accepted (report : Report) : Bool :=
  !(report.currentEuActive.exceeds100 || report.currentEuStall.exceeds100)

/-- The stalled time, as a machine word. -/
def weightedStall (report : Report) : Option UInt64 :=
  (report.currentEuStall.times report.gpuElapsedTime).toUInt64

/-- The active time, as a machine word. -/
def weightedActive (report : Report) : Option UInt64 :=
  (report.currentEuActive.times report.gpuElapsedTime).toUInt64

end Report

/-- The sums over all reports. -/
structure Totals where
  euStall : UInt64
  euActive : UInt64
  gpuElapsedTime : UInt64
  deriving DecidableEq

/-- None if a cast is undefined. -/
def Totals.add (totals : Totals) (report : Report) : Option Totals :=
  if report.accepted then do
    let stall ← report.weightedStall
    let active ← report.weightedActive
    pure ⟨totals.euStall + stall, totals.euActive + active,
      totals.gpuElapsedTime + report.gpuElapsedTime⟩
  else some totals

/-- What the function returns. -/
structure EuMetricsData where
  euActive : UInt64
  euStall : UInt64
  euIdle : UInt64
  subdeviceId : UInt32
  scaleFactor : Nat
  deriving DecidableEq

/-- The percentages, times the scale factor. -/
def Totals.data (totals : Totals) (subdeviceId : UInt32) : EuMetricsData :=
  let euActive := totals.euActive / totals.gpuElapsedTime
  let euStall := totals.euStall / totals.gpuElapsedTime
  let euBusy := euActive + euStall
  let euIdle := if euBusy > 100 then 0 else 100 - euBusy
  { euActive := euActive * 1000, euStall := euStall * 1000, euIdle := euIdle * 1000,
    subdeviceId := subdeviceId, scaleFactor := 1000 }

/-! ## The calls -/

/-- The results of the calls, each of which is made once at most. -/
structure Results where
  contextCreate : UInt32
  activate : UInt32
  streamerOpen : UInt32
  readSize : UInt32
  read : UInt32
  streamerClose : UInt32
  deactivate : UInt32
  calculateCount : UInt32
  calculate : UInt32
  metricCount : UInt32
  metricGet : UInt32
  contextDestroy : UInt32
  deriving DecidableEq

def ZE_RESULT_SUCCESS : UInt32 := 0
def ZE_RESULT_ERROR_UNSUPPORTED_FEATURE : UInt32 := 0x78000003
def ZE_RESULT_ERROR_UNKNOWN : UInt32 := 0x7ffffffe

/-- What is opened: the context, which `targetMetricContexts` keeps for the device, the activation of the
metric group, and the streamer. -/
inductive Resource where
  | context
  | activation
  | streamer
  deriving DecidableEq

/-- How a call ends. -/
inductive Outcome where
  | undefined
  | error (result : UInt32)
  | success (data : EuMetricsData)
  deriving DecidableEq

abbrev Handles := Table Resource Resource

section

variable (results : Results)

/-- A call that creates a resource. -/
def create (handles : Handles) (resource : Resource) (result : UInt32) : Handles :=
  handles.create resource resource (result = ZE_RESULT_SUCCESS)

/-- A call that takes the handle of a resource. -/
def use (handles : Handles) (resource : Resource) (result : UInt32) : Handles :=
  handles.log (.use resource (handles.handle resource)) (result = ZE_RESULT_SUCCESS)

/-- A call that destroys a resource. -/
def destroy (handles : Handles) (resource : Resource) (result : UInt32) : Handles :=
  handles.log (.destroy resource (handles.handle resource)) (result = ZE_RESULT_SUCCESS)

/-- A call that takes no handle of these. -/
def other (handles : Handles) (result : UInt32) : Handles :=
  handles.log .other (result = ZE_RESULT_SUCCESS)

/-- The end of each way out: the context is destroyed if it was created. -/
def destroyContext (contextCreate : Bool) (handles : Handles) : Handles :=
  if contextCreate then (destroy handles .context results.contextDestroy).put .context none else handles

variable (values : Values) (subdeviceId : UInt32)

/-- The reports, after all calls: the division by the number of metrics is not guarded. -/
def processReports (contextCreate : Bool) (handles : Handles) : Handles × Outcome :=
  if values.numMetrics = 0 then (handles, .undefined)
  else if values.numReports = 0 then
    (destroyContext results contextCreate handles, .error ZE_RESULT_ERROR_UNKNOWN)
  else
    match values.reports.foldlM Totals.add ⟨0, 0, 0⟩ with
    | none => (handles, .undefined)
    | some totals =>
      if totals.gpuElapsedTime = 0 then
        (destroyContext results contextCreate handles, .error ZE_RESULT_ERROR_UNKNOWN)
      else (destroyContext results contextCreate handles, .success (totals.data subdeviceId))

/-- The values, and the metrics. -/
def calculate (contextCreate : Bool) (handles : Handles) : Handles × Outcome :=
  let handles := other handles results.calculateCount
  if results.calculateCount ≠ ZE_RESULT_SUCCESS then
    (destroyContext results contextCreate handles, .error results.calculateCount)
  else
    let handles := other handles results.calculate
    if results.calculate ≠ ZE_RESULT_SUCCESS then
      (destroyContext results contextCreate handles, .error results.calculate)
    else
      let handles := other handles results.metricCount
      if results.metricCount ≠ ZE_RESULT_SUCCESS then
        (destroyContext results contextCreate handles, .error results.metricCount)
      else
        let handles := other handles results.metricGet
        if results.metricGet ≠ ZE_RESULT_SUCCESS then
          (destroyContext results contextCreate handles, .error results.metricGet)
        else processReports results values subdeviceId contextCreate handles

/-- The streamer is read, and closed. -/
def readStreamer (contextCreate : Bool) (handles : Handles) : Handles × Outcome :=
  let handles := create handles .streamer results.streamerOpen
  if results.streamerOpen ≠ ZE_RESULT_SUCCESS then
    let handles := destroy handles .activation results.deactivate
    (destroyContext results contextCreate handles, .error results.streamerOpen)
  else
    let handles := use handles .streamer results.readSize
    if results.readSize ≠ ZE_RESULT_SUCCESS then
      let handles := destroy handles .streamer results.streamerClose
      let handles := destroy handles .activation results.deactivate
      (destroyContext results contextCreate handles, .error results.readSize)
    else
      let handles := use handles .streamer results.read
      if results.read ≠ ZE_RESULT_SUCCESS then
        let handles := destroy handles .streamer results.streamerClose
        let handles := destroy handles .activation results.deactivate
        (destroyContext results contextCreate handles, .error results.read)
      else
        let handles := destroy handles .streamer results.streamerClose
        let handles := destroy handles .activation results.deactivate
        calculate results values subdeviceId contextCreate handles

/-- The metric group is activated. -/
def activate (contextCreate : Bool) (handles : Handles) : Handles × Outcome :=
  let handles := create handles .activation results.activate
  if results.activate ≠ ZE_RESULT_SUCCESS then
    (destroyContext results contextCreate handles, .error results.activate)
  else readStreamer results values subdeviceId contextCreate handles

/-- Before the call: the device may have a context of another call. -/
def start (context : Option Nat) : Handles where
  calls := []
  handles := fun resource => if resource = .context then context.map .stale else none

/-- `getEuActiveStallIdleCore`, with what it calls. -/
def getEuActiveStallIdleCore (cached : Option Nat) (metricGroups : Option (List MetricGroup))
    (context : Option Nat) : Handles × Outcome :=
  match findEuMetricGroupLocked cached metricGroups with
  | none => (start context, .error ZE_RESULT_ERROR_UNSUPPORTED_FEATURE)
  | some _ =>
    if ((start context).handles .context).isSome then
      activate results values subdeviceId false (start context)
    else
      let handles := create (start context) .context results.contextCreate
      if results.contextCreate ≠ ZE_RESULT_SUCCESS then (handles, .error results.contextCreate)
      else activate results values subdeviceId true handles

end

/-! ## What is promised -/

/-- The percentages are at most 100, and all of them are 100 unless the first two are more. -/
structure Percentages (data : EuMetricsData) : Prop where
  euActive : data.euActive.toNat ≤ 100 * data.scaleFactor
  euStall : data.euStall.toNat ≤ 100 * data.scaleFactor
  euIdle : data.euActive.toNat + data.euStall.toNat ≤ 100 * data.scaleFactor →
    data.euActive.toNat + data.euStall.toNat + data.euIdle.toNat = 100 * data.scaleFactor

/-- All that was opened is closed, and the map is as it was. -/
structure NoTrace (context : Option Nat) (handles : Handles) : Prop where
  balanced : Balanced handles.calls
  context : handles.handles .context = context.map .stale

/-- No trace is left, nothing undefined is done, and the percentages are right. -/
structure Spec (context : Option Nat) (run : Handles × Outcome) : Prop where
  noTrace : NoTrace context run.1
  defined : run.2 ≠ .undefined
  percentages : ∀ data, run.2 = .success data → Percentages data

/-- All calls succeed until the values are there. -/
structure Reached (results : Results) (cached : Option Nat) (metricGroups : Option (List MetricGroup))
    (context : Option Nat) : Prop where
  group : findEuMetricGroupLocked cached metricGroups ≠ none
  contextCreate : context = none → results.contextCreate = ZE_RESULT_SUCCESS
  activate : results.activate = ZE_RESULT_SUCCESS
  streamerOpen : results.streamerOpen = ZE_RESULT_SUCCESS
  readSize : results.readSize = ZE_RESULT_SUCCESS
  read : results.read = ZE_RESULT_SUCCESS
  calculateCount : results.calculateCount = ZE_RESULT_SUCCESS
  calculate : results.calculate = ZE_RESULT_SUCCESS
  metricCount : results.metricCount = ZE_RESULT_SUCCESS
  metricGet : results.metricGet = ZE_RESULT_SUCCESS

/-- There is a metric, and what is cast to `uint64_t` fits. -/
structure Values.Defined (values : Values) : Prop where
  numMetrics : values.numMetrics ≠ 0
  casts : ∀ report ∈ values.reports, report.accepted →
    report.weightedStall.isSome ∧ report.weightedActive.isSome

/-- The sums over the accepted reports fit in 64 bits. -/
structure Values.SumsFit (values : Values) : Prop where
  euStall : ((values.reports.filter Report.accepted).map fun report =>
    (report.weightedStall.getD 0).toNat).sum < 2 ^ 64
  euActive : ((values.reports.filter Report.accepted).map fun report =>
    (report.weightedActive.getD 0).toNat).sum < 2 ^ 64
  gpuElapsedTime : ((values.reports.filter Report.accepted).map fun report =>
    report.gpuElapsedTime.toNat).sum < 2 ^ 64

/-! ## The percentages -/

variable {values : Values} {report : Report} {totals next : Totals}

/-- Both roundings together add less than one in a hundred. -/
theorem rounded_div_le {time n : Nat} (hn : n ≤ 100 * one) :
    2 ^ 106 * (roundBits 53 (roundBits 53 time * n) / one) ≤ 100 * (2 ^ 53 + 1) ^ 2 * time := by
  have hone : 0 < one := by decide
  have htime := roundBits_le 53 time
  have hproduct := roundBits_le 53 (roundBits 53 time * n)
  generalize roundBits 53 time = rounded at htime hproduct ⊢
  generalize roundBits 53 (rounded * n) = product at hproduct ⊢
  have hdiv := Nat.div_mul_le_self product one
  refine Nat.le_of_mul_le_mul_right (c := one) ?_ hone
  calc 2 ^ 106 * (product / one) * one
      = 2 ^ 53 * (2 ^ 53 * (product / one * one)) := by ring
    _ ≤ 2 ^ 53 * ((2 ^ 53 + 1) * (rounded * n)) :=
      Nat.mul_le_mul_left _ ((Nat.mul_le_mul_left _ hdiv).trans hproduct)
    _ = (2 ^ 53 + 1) * (2 ^ 53 * rounded) * n := by ring
    _ ≤ (2 ^ 53 + 1) * ((2 ^ 53 + 1) * time) * (100 * one) := by gcongr
    _ = 100 * (2 ^ 53 + 1) ^ 2 * time * one := by ring

theorem toUInt64_finite {n : Int} {weighted : UInt64} (h : (Double.finite n).toUInt64 = some weighted) :
    weighted.toNat = (n.tdiv one).toNat := by
  rw [Double.toUInt64] at h
  split at h
  next hfits =>
    obtain rfl := Option.some_inj.mp h
    have hlt : (n.tdiv one).toNat < 2 ^ 64 := by
      have := hfits.2
      omega
    exact UInt64.toNat_ofNat_of_lt' hlt
  next => cases h

/-- A value of at most 100 weighs no more than 100 times as much as the time, but for the rounding. -/
theorem times_toUInt64_le {a : Double} {time weighted : UInt64} (ha : a.exceeds100 = false)
    (h : (a.times time).toUInt64 = some weighted) :
    2 ^ 106 * weighted.toNat ≤ 100 * (2 ^ 53 + 1) ^ 2 * time.toNat := by
  cases a with
  | nan => cases h
  | infinite negative =>
    rw [Double.times] at h
    split at h <;> cases h
  | finite n =>
    have hn : n ≤ 100 * one := by simpa [Double.exceeds100, Double.lt] using ha
    rw [toUInt64_finite h]
    by_cases hneg : n < 0
    · rw [if_pos hneg, Int.neg_tdiv, ← Int.ofNat_tdiv, Int.toNat_neg_natCast, Nat.mul_zero]
      exact Nat.zero_le _
    · rw [if_neg hneg, ← Int.ofNat_tdiv, Int.toNat_natCast]
      exact rounded_div_le (by omega)

/-- The sums of the accepted reports, as long as they fit. -/
theorem foldlM_add_toNat (field : Totals → UInt64) (weight : Report → UInt64)
    (hadd : ∀ totals report next, report.accepted → Totals.add totals report = some next →
      field next = field totals + weight report) (reports : List Report)
    (h : reports.foldlM Totals.add totals = some next)
    (hfits : (field totals).toNat +
      ((reports.filter Report.accepted).map fun report => (weight report).toNat).sum < 2 ^ 64) :
    (field next).toNat = (field totals).toNat +
      ((reports.filter Report.accepted).map fun report => (weight report).toNat).sum := by
  induction reports generalizing totals with
  | nil =>
    obtain rfl : totals = next := Option.some_inj.mp h
    rfl
  | cons report reports ih =>
    rw [List.foldlM_cons, Option.bind_eq_bind, Option.bind_eq_some_iff] at h
    obtain ⟨middle, hmiddle, hrest⟩ := h
    rw [List.filter_cons] at hfits ⊢
    split at hfits
    next haccepted =>
      rw [List.map_cons, List.sum_cons] at hfits
      rw [if_pos haccepted, List.map_cons, List.sum_cons]
      have hfield := congrArg UInt64.toNat (hadd totals report middle haccepted hmiddle)
      rw [UInt64.toNat_add, Nat.mod_eq_of_lt (by omega)] at hfield
      rw [ih hrest (by omega), hfield, Nat.add_assoc]
    next haccepted =>
      rw [if_neg haccepted]
      rw [Totals.add, if_neg haccepted, Option.some_inj] at hmiddle
      subst hmiddle
      exact ih hrest hfits

/-- What is added for an accepted report. -/
theorem add_accepted (haccepted : report.accepted) (h : Totals.add totals report = some next) :
    ∃ stall active, report.weightedStall = some stall ∧ report.weightedActive = some active ∧
      next = ⟨totals.euStall + stall, totals.euActive + active,
        totals.gpuElapsedTime + report.gpuElapsedTime⟩ := by
  rw [Totals.add, if_pos haccepted] at h
  cases hstall : report.weightedStall with
  | none => rw [hstall] at h; cases h
  | some stall =>
    cases hactive : report.weightedActive with
    | none => rw [hstall, hactive] at h; cases h
    | some active =>
      rw [hstall, hactive] at h
      exact ⟨stall, active, rfl, rfl, (Option.some_inj.mp h).symm⟩

/-- Percentages of at most 100 add up. -/
theorem percentages_data {subdeviceId : UInt32}
    (hactive : totals.euActive.toNat / totals.gpuElapsedTime.toNat ≤ 100)
    (hstall : totals.euStall.toNat / totals.gpuElapsedTime.toNat ≤ 100) :
    Percentages (totals.data subdeviceId) := by
  rw [← UInt64.toNat_div] at hactive hstall
  rw [Totals.data]
  generalize totals.euActive / totals.gpuElapsedTime = a at hactive ⊢
  generalize totals.euStall / totals.gpuElapsedTime = s at hstall ⊢
  have hbusy : (a + s).toNat = a.toNat + s.toNat := by
    rw [UInt64.toNat_add]
    exact Nat.mod_eq_of_lt (by omega)
  have hscale {x : UInt64} (hx : x.toNat ≤ 100) : (x * 1000).toNat = x.toNat * 1000 := by
    rw [UInt64.toNat_mul]
    exact Nat.mod_eq_of_lt (by change x.toNat * 1000 < 2 ^ 64; omega)
  refine ⟨?_, ?_, fun hle => ?_⟩
  · rw [hscale hactive]
    exact Nat.mul_le_mul_right 1000 hactive
  · rw [hscale hstall]
    exact Nat.mul_le_mul_right 1000 hstall
  · dsimp only at hle ⊢
    rw [hscale hactive, hscale hstall] at hle ⊢
    have hsum : a.toNat + s.toNat ≤ 100 := by omega
    have hle : (a + s).toNat ≤ (100 : UInt64).toNat := hbusy ▸ hsum
    have hidle : (100 - (a + s)).toNat = 100 - (a.toNat + s.toNat) := by
      rw [UInt64.toNat_sub_of_le _ _ hle, hbusy]
      rfl
    rw [if_neg (UInt64.not_lt.mpr hle), hscale (by omega), hidle]
    omega

theorem sum_map_le {f g : Report → Nat} {c d : Nat} (reports : List Report)
    (h : ∀ report ∈ reports, c * f report ≤ d * g report) :
    c * (reports.map f).sum ≤ d * (reports.map g).sum := by
  induction reports with
  | nil => exact Nat.le_refl 0
  | cons report reports ih =>
    rw [List.map_cons, List.map_cons, List.sum_cons, List.sum_cons, Nat.mul_add, Nat.mul_add]
    exact Nat.add_le_add (h report List.mem_cons_self)
      (ih fun other hother => h other (List.mem_cons_of_mem _ hother))

/-- A mean of values of at most 100 is at most 100, in spite of the rounding. -/
theorem quotient_le (value : Report → Double) (reports : List Report)
    (hvalue : ∀ report ∈ reports, (value report).exceeds100 = false)
    (htime : 0 < (reports.map fun report => report.gpuElapsedTime.toNat).sum) :
    (reports.map fun report =>
      (((value report).times report.gpuElapsedTime).toUInt64.getD 0).toNat).sum /
        (reports.map fun report => report.gpuElapsedTime.toNat).sum ≤ 100 := by
  have hsum := sum_map_le (c := 2 ^ 106) (d := 100 * (2 ^ 53 + 1) ^ 2)
    (f := fun report => (((value report).times report.gpuElapsedTime).toUInt64.getD 0).toNat)
    (g := fun report => report.gpuElapsedTime.toNat) reports fun report hreport => by
      cases hweighted : ((value report).times report.gpuElapsedTime).toUInt64 with
      | none => exact Nat.zero_le _
      | some weighted => exact times_toUInt64_le (hvalue report hreport) hweighted
  refine Nat.le_of_lt_succ ((Nat.div_lt_iff_lt_mul htime).mpr ?_)
  omega

/-- **The percentages are right** if the sums fit. -/
theorem percentages_of_reports {subdeviceId : UInt32} (hfits : values.SumsFit)
    (h : values.reports.foldlM Totals.add ⟨0, 0, 0⟩ = some totals)
    (htime : totals.gpuElapsedTime ≠ 0) : Percentages (totals.data subdeviceId) := by
  have hstall := foldlM_add_toNat Totals.euStall (fun report => report.weightedStall.getD 0)
    (fun totals report next haccepted hadd => by
      obtain ⟨stall, active, hstall, -, rfl⟩ := add_accepted haccepted hadd
      rw [hstall]
      rfl) values.reports h (by simpa using hfits.euStall)
  have hactive := foldlM_add_toNat Totals.euActive (fun report => report.weightedActive.getD 0)
    (fun totals report next haccepted hadd => by
      obtain ⟨stall, active, -, hactive, rfl⟩ := add_accepted haccepted hadd
      rw [hactive]
      rfl) values.reports h (by simpa using hfits.euActive)
  have helapsed := foldlM_add_toNat Totals.gpuElapsedTime Report.gpuElapsedTime
    (fun totals report next haccepted hadd => by
      obtain ⟨stall, active, -, -, rfl⟩ := add_accepted haccepted hadd
      rfl) values.reports h (by simpa using hfits.gpuElapsedTime)
  simp only [UInt64.toNat_zero, Nat.zero_add] at hstall hactive helapsed
  have hpos : 0 < totals.gpuElapsedTime.toNat :=
    Nat.pos_of_ne_zero fun hzero => htime (UInt64.toNat_inj.mp hzero)
  have haccepted : ∀ report ∈ values.reports.filter Report.accepted,
      report.currentEuActive.exceeds100 = false ∧ report.currentEuStall.exceeds100 = false := by
    intro report hreport
    simpa [Report.accepted] using (List.mem_filter.mp hreport).2
  rw [helapsed] at hpos
  refine percentages_data ?_ ?_
  · rw [hactive, helapsed]
    exact quotient_le Report.currentEuActive _ (fun report hreport => (haccepted report hreport).1) hpos
  · rw [hstall, helapsed]
    exact quotient_le Report.currentEuStall _ (fun report hreport => (haccepted report hreport).2) hpos

/-! ## The ways out -/

variable {results : Results} {context : Option Nat} {contextCreate : Bool} {handles : Handles}
  {owners : Set Resource} {resource : Resource} {subdeviceId : UInt32}

/-- Some resources are open, and the map has the context that it had, or one that was created. -/
structure Held (context : Option Nat) (contextCreate : Bool) (handles : Handles)
    (owners : Set Resource) : Prop where
  owns : Owns id handles owners
  kept : contextCreate = false → handles.handles .context = context.map .stale
  created : contextCreate = true → context = none

/-- What has to be destroyed in the end. -/
def ownContext (contextCreate : Bool) : Set Resource := {r | contextCreate = true ∧ r = .context}

namespace Held

theorem other (h : Held context contextCreate handles owners) (result : UInt32) :
    Held context contextCreate (EuMetrics.other handles result) owners :=
  ⟨h.owns.other _, h.kept, h.created⟩

theorem use (h : Held context contextCreate handles owners) (hmem : resource ∈ owners)
    (result : UInt32) : Held context contextCreate (EuMetrics.use handles resource result) owners :=
  ⟨h.owns.use hmem _, h.kept, h.created⟩

theorem destroy (h : Held context contextCreate handles (insert resource owners))
    (hmem : resource ∉ owners) (result : UInt32) :
    Held context contextCreate (EuMetrics.destroy handles resource result) owners := by
  refine ⟨?_, h.kept, h.created⟩
  have howns := h.owns.destroy (Set.mem_insert resource owners) (result = ZE_RESULT_SUCCESS)
  rwa [Set.insert_sdiff_self_of_notMem hmem] at howns

theorem create (h : Held context contextCreate handles owners) (hmem : resource ∉ owners)
    (hne : resource ≠ .context) {result : UInt32} (hresult : result = ZE_RESULT_SUCCESS) :
    Held context contextCreate (EuMetrics.create handles resource result) (insert resource owners) := by
  rw [EuMetrics.create, decide_eq_true hresult]
  exact ⟨h.owns.create_ok hmem, fun hkept => (Function.update_of_ne hne.symm _ _).trans (h.kept hkept),
    h.created⟩

theorem create_failed (h : Held context contextCreate handles owners) (resource : Resource)
    {result : UInt32} (hresult : result ≠ ZE_RESULT_SUCCESS) :
    Held context contextCreate (EuMetrics.create handles resource result) owners := by
  rw [EuMetrics.create, decide_eq_false hresult]
  exact ⟨h.owns.create_failed _ _, h.kept, h.created⟩

end Held

/-- No trace is left on a way out. -/
theorem Held.destroyContext (h : Held context contextCreate handles (ownContext contextCreate)) :
    NoTrace context (destroyContext results contextCreate handles) := by
  cases contextCreate with
  | false =>
    have hnone : ownContext false = ∅ := by simp [ownContext]
    exact ⟨(hnone ▸ h.owns).balanced, h.kept rfl⟩
  | true =>
    have hown : ownContext true = insert Resource.context ∅ := by simp [ownContext]
    have hclosed := (hown ▸ h).destroy (Set.notMem_empty _) results.contextDestroy
    refine ⟨(hclosed.owns.put (Set.notMem_empty _) none).balanced, ?_⟩
    simp [EuMetrics.destroyContext, Table.put, h.created rfl]

variable (values subdeviceId)

/-- What each part of the code does with what it is given: it leaves no trace, unless it does something
undefined. -/
theorem processReports_noTrace
    (h : Held context contextCreate handles (ownContext contextCreate))
    (hdefined : (processReports results values subdeviceId contextCreate handles).2 ≠ .undefined) :
    NoTrace context (processReports results values subdeviceId contextCreate handles).1 := by
  rw [processReports] at hdefined ⊢
  split
  next hzero =>
    rw [if_pos hzero] at hdefined
    exact absurd rfl hdefined
  next hnonzero =>
    rw [if_neg hnonzero] at hdefined
    split
    next => exact h.destroyContext
    next hreports =>
      rw [if_neg hreports] at hdefined
      split
      next hnone =>
        rw [hnone] at hdefined
        exact absurd rfl hdefined
      next => split <;> exact h.destroyContext

/-- A defined calculation gives back what it took, on every path. -/
theorem calculate_noTrace (h : Held context contextCreate handles (ownContext contextCreate))
    (hdefined : (calculate results values subdeviceId contextCreate handles).2 ≠ .undefined) :
    NoTrace context (calculate results values subdeviceId contextCreate handles).1 := by
  have h₁ := h.other results.calculateCount
  have h₂ := h₁.other results.calculate
  have h₃ := h₂.other results.metricCount
  have h₄ := h₃.other results.metricGet
  rw [calculate] at hdefined ⊢
  split
  next => exact h₁.destroyContext
  split
  next => exact h₂.destroyContext
  split
  next => exact h₃.destroyContext
  split
  next => exact h₄.destroyContext
  next hcount hcalculate hmetrics hget =>
    simp only [hcount, hcalculate, hmetrics, hget, if_false] at hdefined
    exact processReports_noTrace values subdeviceId h₄ hdefined

/-- The same from the open streamer on. -/
theorem readStreamer_noTrace
    (h : Held context contextCreate handles (insert .activation (ownContext contextCreate)))
    (hdefined : (readStreamer results values subdeviceId contextCreate handles).2 ≠ .undefined) :
    NoTrace context (readStreamer results values subdeviceId contextCreate handles).1 := by
  have hactivation : Resource.activation ∉ ownContext contextCreate := by simp [ownContext]
  have hstreamer : Resource.streamer ∉ insert Resource.activation (ownContext contextCreate) := by
    simp [ownContext]
  rw [readStreamer] at hdefined ⊢
  split
  next hopen =>
    exact ((h.create_failed .streamer hopen).destroy hactivation results.deactivate).destroyContext
  next hopen =>
    have hsuccess := not_not.mp hopen
    have h₁ := (h.create hstreamer nofun hsuccess).use (Set.mem_insert _ _) results.readSize
    have h₂ := h₁.use (Set.mem_insert _ _) results.read
    split
    next =>
      exact ((h₁.destroy hstreamer results.streamerClose).destroy hactivation
        results.deactivate).destroyContext
    next hsize =>
      have hclosed := (h₂.destroy hstreamer results.streamerClose).destroy hactivation results.deactivate
      split
      next => exact hclosed.destroyContext
      next hread =>
        simp only [hopen, hsize, hread, if_false] at hdefined
        exact calculate_noTrace values subdeviceId hclosed hdefined

theorem activate_noTrace (h : Held context contextCreate handles (ownContext contextCreate))
    (hdefined : (activate results values subdeviceId contextCreate handles).2 ≠ .undefined) :
    NoTrace context (activate results values subdeviceId contextCreate handles).1 := by
  have hactivation : Resource.activation ∉ ownContext contextCreate := by simp [ownContext]
  rw [activate] at hdefined ⊢
  split
  next hactivate => exact (h.create_failed .activation hactivate).destroyContext
  next hactivate =>
    simp only [hactivate, if_false] at hdefined
    exact readStreamer_noTrace values subdeviceId
      (h.create hactivation nofun (not_not.mp hactivate)) hdefined

/-- **No trace is left** unless something undefined is done. -/
theorem getEuActiveStallIdleCore_noTrace (cached : Option Nat) (metricGroups : Option (List MetricGroup))
    (hdefined : (getEuActiveStallIdleCore results values subdeviceId cached metricGroups context).2 ≠
      .undefined) :
    NoTrace context
      (getEuActiveStallIdleCore results values subdeviceId cached metricGroups context).1 := by
  have howns : Owns id (start context) ∅ := Owns.nil _ _
  rw [getEuActiveStallIdleCore] at hdefined ⊢
  split
  next => exact ⟨howns.balanced, rfl⟩
  next hgroup =>
    rw [hgroup] at hdefined
    cases context with
    | some existing =>
      have hempty : ownContext false = ∅ := by simp [ownContext]
      exact activate_noTrace values subdeviceId ⟨hempty ▸ howns, fun _ => rfl, nofun⟩ hdefined
    | none =>
      dsimp only at hdefined ⊢
      rw [if_neg (by decide)] at hdefined ⊢
      split
      next hcreate =>
        rw [create, decide_eq_false hcreate]
        exact ⟨(howns.create_failed .context .context).balanced, rfl⟩
      next hcreate =>
        rw [if_neg hcreate] at hdefined
        have hown : ownContext true = insert Resource.context ∅ := by simp [ownContext]
        refine activate_noTrace values subdeviceId ⟨?_, nofun, fun _ => rfl⟩ hdefined
        rw [create, decide_eq_true (not_not.mp hcreate), hown]
        exact howns.create_ok (Set.notMem_empty _)

/-- What the reports come to, if all calls succeed until then. -/
theorem outcome_of_reached {cached : Option Nat} {metricGroups : Option (List MetricGroup)}
    (h : Reached results cached metricGroups context) : ∃ contextCreate handles,
    (getEuActiveStallIdleCore results values subdeviceId cached metricGroups context).2 =
      (processReports results values subdeviceId contextCreate handles).2 := by
  obtain ⟨group, hgroup⟩ := Option.ne_none_iff_exists'.mp h.group
  have hactivate (contextCreate : Bool) (handles : Handles) : ∃ handles',
      activate results values subdeviceId contextCreate handles =
        processReports results values subdeviceId contextCreate handles' := by
    simp only [activate, readStreamer, calculate, h.activate, h.streamerOpen, h.readSize, h.read,
      h.calculateCount, h.calculate, h.metricCount, h.metricGet, ne_eq, not_true_eq_false, if_false]
    exact ⟨_, rfl⟩
  rw [getEuActiveStallIdleCore, hgroup]
  cases context with
  | some existing =>
    obtain ⟨handles', heq⟩ := hactivate false (start (some existing))
    exact ⟨false, handles', congrArg Prod.snd heq⟩
  | none =>
    obtain ⟨handles', heq⟩ := hactivate true (create (start none) .context results.contextCreate)
    refine ⟨true, handles', ?_⟩
    dsimp only
    rw [if_neg (by decide), if_neg (not_not.mpr (h.contextCreate rfl)), heq]

/-- If a call fails before, the code returns its result. -/
theorem outcome_of_not_reached {cached : Option Nat} {metricGroups : Option (List MetricGroup)}
    (h : ¬ Reached results cached metricGroups context) : ∃ result,
    (getEuActiveStallIdleCore results values subdeviceId cached metricGroups context).2 =
      .error result := by
  rw [getEuActiveStallIdleCore]
  split
  next => exact ⟨_, rfl⟩
  next hgroup =>
    have hactivate (contextCreate : Bool) (handles : Handles)
        (hcontext : context = none → results.contextCreate = ZE_RESULT_SUCCESS) : ∃ result,
        (activate results values subdeviceId contextCreate handles).2 = .error result := by
      rw [activate]
      split
      next => exact ⟨_, rfl⟩
      rw [readStreamer]
      split
      next => exact ⟨_, rfl⟩
      split
      next => exact ⟨_, rfl⟩
      split
      next => exact ⟨_, rfl⟩
      rw [calculate]
      split
      next => exact ⟨_, rfl⟩
      split
      next => exact ⟨_, rfl⟩
      split
      next => exact ⟨_, rfl⟩
      split
      next => exact ⟨_, rfl⟩
      next hactivate hopen hsize hread hcount hcalculate hmetrics hget =>
        simp only [ne_eq, not_not] at *
        exact absurd ⟨hgroup ▸ nofun, hcontext, hactivate, hopen, hsize, hread, hcount, hcalculate,
          hmetrics, hget⟩ h
    split
    next hsome => exact hactivate false _ fun hnone => by rw [hnone] at hsome; cases hsome
    next =>
      split
      next => exact ⟨_, rfl⟩
      next hcreate => exact hactivate true _ fun _ => not_not.mp hcreate

/-- The casts are those of the accepted reports. -/
theorem foldlM_add_isSome (reports : List Report) (totals : Totals) :
    (reports.foldlM Totals.add totals).isSome ↔ ∀ report ∈ reports, report.accepted →
      report.weightedStall.isSome ∧ report.weightedActive.isSome := by
  induction reports generalizing totals with
  | nil => simp
  | cons report reports ih =>
    rw [List.foldlM_cons, List.forall_mem_cons, Totals.add]
    by_cases haccepted : report.accepted
    · rw [if_pos haccepted]
      cases report.weightedStall with
      | none => simp [haccepted]
      | some stall =>
        cases report.weightedActive with
        | none => simp [haccepted]
        | some active => exact (ih _).trans (by simp)
    · rw [if_neg haccepted]
      exact (ih totals).trans (by simp [haccepted])

/-- Something undefined is done if there is no metric, or a cast does not fit. -/
theorem processReports_undefined_iff :
    (processReports results values subdeviceId contextCreate handles).2 = .undefined ↔
      ¬ values.Defined := by
  have hsome := foldlM_add_isSome values.reports ⟨0, 0, 0⟩
  rw [processReports]
  split
  next hzero => exact iff_of_true rfl fun h => h.numMetrics hzero
  next hmetrics =>
    split
    next hnone =>
      refine iff_of_false nofun (not_not.mpr ⟨hmetrics, fun report hreport => ?_⟩)
      rw [Values.reports, hnone] at hreport
      cases hreport
    next =>
      split
      next hnone =>
        rw [hnone] at hsome
        exact iff_of_true rfl fun h => absurd (hsome.mpr h.casts) nofun
      next hsums =>
        rw [hsums] at hsome
        have hdefined : values.Defined := ⟨hmetrics, hsome.mp rfl⟩
        split <;> exact iff_of_false nofun (not_not.mpr hdefined)

/-- The percentages of a success are those of its sums. -/
theorem processReports_success {data : EuMetricsData} (hfits : values.SumsFit)
    (h : (processReports results values subdeviceId contextCreate handles).2 = .success data) :
    Percentages data := by
  rw [processReports] at h
  split at h
  next => cases h
  split at h
  next => cases h
  split at h
  next => cases h
  next hsums =>
    split at h
    next => cases h
    next htime =>
      cases h
      exact percentages_of_reports hfits hsums htime

/-- **No trace is left and the percentages are right**, if the sums fit, exactly if there is a metric and
no cast is undefined once the values are there. -/
theorem getEuActiveStallIdleCore_spec_iff (results : Results) (values : Values) (subdeviceId : UInt32)
    (cached : Option Nat) (metricGroups : Option (List MetricGroup)) (context : Option Nat)
    (hfits : Reached results cached metricGroups context → values.SumsFit) :
    Spec context (getEuActiveStallIdleCore results values subdeviceId cached metricGroups context) ↔
      (Reached results cached metricGroups context → values.Defined) := by
  by_cases hreached : Reached results cached metricGroups context
  · obtain ⟨contextCreate, handles, houtcome⟩ := outcome_of_reached values subdeviceId hreached
    constructor
    · intro h _
      by_contra hundefined
      exact h.defined (houtcome.trans ((processReports_undefined_iff values subdeviceId).mpr hundefined))
    · intro h
      have hdefined : (getEuActiveStallIdleCore results values subdeviceId cached metricGroups
          context).2 ≠ .undefined := fun heq =>
        (processReports_undefined_iff values subdeviceId).mp (houtcome.symm.trans heq) (h hreached)
      exact ⟨getEuActiveStallIdleCore_noTrace values subdeviceId cached metricGroups hdefined, hdefined,
        fun data hdata => processReports_success values subdeviceId (hfits hreached)
          (houtcome.symm.trans hdata)⟩
  · obtain ⟨result, houtcome⟩ := outcome_of_not_reached values subdeviceId hreached
    have hdefined : (getEuActiveStallIdleCore results values subdeviceId cached metricGroups
        context).2 ≠ .undefined := by
      rw [houtcome]
      exact nofun
    refine iff_of_true ⟨?_, hdefined, fun data hdata => ?_⟩ fun h => absurd h hreached
    · exact getEuActiveStallIdleCore_noTrace values subdeviceId cached metricGroups hdefined
    · rw [houtcome] at hdata
      cases hdata

/-- All calls succeed. -/
def successes : Results := ⟨0, 0, 0, 0, 0, 0, 0, 0, 0, 0, 0, 0⟩

/-- One report: half of the execution units are active for a time of 1000, and a quarter stall. -/
def oneReport : Values where
  metricValues := [0x42480000, 0x41C80000, 1000]
  numMetrics := 3
  names := fun _ metricIdx => [some "EuActive", some "EuStall", some "GpuTime"].getD metricIdx none

theorem getEuActiveStallIdleCore_oneReport :
    Spec none (getEuActiveStallIdleCore successes oneReport 0 (some 0) none none) ∧
      (getEuActiveStallIdleCore successes oneReport 0 (some 0) none none).2 =
        .success ⟨50000, 25000, 25000, 0, 1000⟩ := by
  have hfits : oneReport.SumsFit := ⟨by decide, by decide, by decide⟩
  have hdefined : oneReport.Defined := ⟨by decide, by decide⟩
  refine ⟨?_, by decide⟩
  exact (getEuActiveStallIdleCore_spec_iff successes oneReport 0 (some 0) none none
    fun _ => hfits).mpr fun _ => hdefined

/-- The driver says that the group has no metrics. -/
theorem getEuActiveStallIdleCore_noMetrics :
    ¬ Spec none (getEuActiveStallIdleCore successes { oneReport with numMetrics := 0 } 0 (some 0)
      none none) := fun h => h.defined (by decide)

end EuMetrics

end XpuManager
