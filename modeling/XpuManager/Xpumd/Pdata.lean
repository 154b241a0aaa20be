import Mathlib.Data.List.Basic

/-! # Metrics data

The part of the collector's metrics data model that the status processor and the device info
exporter read and write, and the attribute filters they share (`common/attributefilter.go`).
`float64` values are of a type `F` of which no more is asked than a comparison. -/

namespace XpuManager

variable {F : Type}

/-! ## Attributes -/

/-- An attribute value; nothing but strings is told apart. -/
inductive Value where
  | string (s : String)
  | other
  deriving DecidableEq

/-- The string of a string value, and the empty string for any other value. -/
def Value.str : Value → String
  | .string s => s
  | .other => ""

/-- The attributes of a data point. -/
abbrev AttrMap := List (String × Value)

namespace AttrMap

/-- The value of a key. -/
def get (m : AttrMap) (key : String) : Option Value := m.lookup key

/-- The string of a key; a missing value reads as the empty string. -/
def getStr (m : AttrMap) (key : String) : String := ((m.get key).map Value.str).getD ""

/-- Set the value of a key. -/
def putStr (m : AttrMap) (key val : String) : AttrMap :=
  match m with
  | [] => [(key, .string val)]
  | (k, v) :: rest =>
    if key = k then (k, .string val) :: rest else (k, v) :: putStr rest key val

theorem get_cons (key k : String) (v : Value) (m : AttrMap) :
    get ((k, v) :: m) key = if key = k then some v else get m key := by
  rw [get, List.lookup_cons]
  by_cases h : key = k
  · simp [h]
  · rw [if_neg h, beq_eq_false_iff_ne.mpr h, get]

/-- After a write the key has the new value, and the other keys have theirs. -/
theorem get_putStr (m : AttrMap) (key val key' : String) : (m.putStr key val).get key' =
    if key' = key then some (.string val) else m.get key' := by
  induction m with
  | nil => rw [putStr, get_cons]
  | cons kv m ih =>
    obtain ⟨k, v⟩ := kv
    rw [putStr]
    split
    case isTrue h =>
      subst h
      rw [get_cons, get_cons]
      split <;> rfl
    case isFalse h =>
      rw [get_cons, get_cons, ih]
      by_cases hk : key' = k
      · rw [if_pos hk, if_pos hk, if_neg fun hkey => h (hkey.symm.trans hk)]
      · rw [if_neg hk, if_neg hk]

end AttrMap

/-- A map as a value: the attributes of a data point, or the zero map. -/
abbrev MapRef := Option AttrMap

/-! ## Data points and metrics -/

/-- The value of a number data point. -/
inductive NumberValue (F : Type) where
  | int (v : Int64)
  | double (v : F)
  | empty
  deriving DecidableEq

/-- A data point with its attributes. -/
structure NumberDataPoint (F : Type) where
  attributes : AttrMap
  timestamp : UInt64
  value : NumberValue F
  deriving DecidableEq

/-- The data of a metric; types other than gauge and sum have no number data points. -/
inductive MetricData (F : Type) where
  | gauge (dataPoints : List (NumberDataPoint F))
  | sum (isMonotonic : Bool) (cumulative : Bool) (dataPoints : List (NumberDataPoint F))
  | other
  deriving DecidableEq

/-- A metric with its data points. -/
structure Metric (F : Type) where
  name : String
  data : MetricData F
  deriving DecidableEq

/-- The metrics of a scope. -/
structure ScopeMetrics (F : Type) where
  metrics : List (Metric F)
  deriving DecidableEq

/-- The scopes of a resource. -/
structure ResourceMetrics (F : Type) where
  scopeMetrics : List (ScopeMetrics F)
  deriving DecidableEq

/-- A batch of metrics. -/
abbrev Metrics (F : Type) := List (ResourceMetrics F)

/-- The metrics of a batch, in the order in which a loop over resources and scopes meets them. -/
def Metrics.all (md : Metrics F) : List (Metric F) :=
  md.flatMap fun rm => rm.scopeMetrics.flatMap ScopeMetrics.metrics

namespace MetricData

/-- The data points of a metric that has number data points. -/
def getNumberDatapoints : MetricData F → Option (List (NumberDataPoint F))
  | .gauge dps => some dps
  | .sum _ _ dps => some dps
  | .other => none

/-- The metric with other number data points. -/
def setDataPoints (dps : List (NumberDataPoint F)) : MetricData F → MetricData F
  | .gauge _ => .gauge dps
  | .sum isMonotonic cumulative _ => .sum isMonotonic cumulative dps
  | .other => .other

@[simp] theorem getNumberDatapoints_setDataPoints (dps : List (NumberDataPoint F))
    (d : MetricData F) : (d.setDataPoints dps).getNumberDatapoints =
      d.getNumberDatapoints.map fun _ => dps := by
  cases d <;> rfl

end MetricData

/-- The number data points of a metric, if it has any. -/
def Metric.getNumberDatapoints (m : Metric F) : Option (List (NumberDataPoint F)) :=
  m.data.getNumberDatapoints

/-- The metric with other number data points. -/
def Metric.setDataPoints (m : Metric F) (dps : List (NumberDataPoint F)) : Metric F :=
  { m with data := m.data.setDataPoints dps }

/-! ## Refilling a batch -/

section Refill

variable {α P Q : Type}

/-- Refill a list from a supply: each element takes what it needs and leaves the rest. -/
def refillList (refill : α → List P → α × List P) : List α → List P → List α × List P
  | [], ps => ([], ps)
  | x :: xs, ps =>
    let (y, ps') := refill x ps
    let (ys, rest) := refillList refill xs ps'
    (y :: ys, rest)

/-- A refill takes from the supply as many points as there were and changes nothing else. -/
structure Refills (points : α → List P) (others : α → List Q)
    (refill : α → List P → α × List P) : Prop where
  points_eq : ∀ x ps, (points x).length ≤ ps.length →
    points (refill x ps).1 = ps.take (points x).length
  rest_eq : ∀ x ps, (refill x ps).2 = ps.drop (points x).length
  others_eq : ∀ x ps, others (refill x ps).1 = others x

/-- Refilling the elements of a list in order refills the list. -/
theorem Refills.list {points : α → List P} {others : α → List Q}
    {refill : α → List P → α × List P} (h : Refills points others refill) :
    Refills (fun xs : List α => xs.flatMap points) (fun xs => xs.flatMap others)
      (refillList refill) where
  points_eq xs ps hlen := by
    induction xs generalizing ps with
    | nil => simp [refillList]
    | cons x xs ih =>
      simp only [List.flatMap_cons, List.length_append] at hlen
      simp only [refillList, List.flatMap_cons, List.length_append]
      rw [h.points_eq x ps (by omega), h.rest_eq x ps, ih _ (by rw [List.length_drop]; omega),
        List.take_add]
  rest_eq xs ps := by
    induction xs generalizing ps with
    | nil => simp [refillList]
    | cons x xs ih =>
      simp only [refillList, List.flatMap_cons, List.length_append]
      rw [ih, h.rest_eq x ps, List.drop_drop]
  others_eq xs ps := by
    induction xs generalizing ps with
    | nil => simp [refillList]
    | cons x xs ih =>
      simp only [refillList, List.flatMap_cons]
      rw [h.others_eq x ps, ih]

end Refill

/-- The scopes of a batch, in the order in which a loop over resources and scopes meets them. -/
def Metrics.scopes (md : Metrics F) : List (ScopeMetrics F) :=
  md.flatMap ResourceMetrics.scopeMetrics

/-- Replace the scopes of a resource. -/
def ResourceMetrics.refillScopes (rm : ResourceMetrics F) (scopes : List (ScopeMetrics F)) :
    ResourceMetrics F × List (ScopeMetrics F) :=
  (⟨scopes.take rm.scopeMetrics.length⟩, scopes.drop rm.scopeMetrics.length)

/-- The batch with other scopes; every resource keeps its number of scopes. -/
def Metrics.withScopes (md : Metrics F) (scopes : List (ScopeMetrics F)) : Metrics F :=
  (refillList ResourceMetrics.refillScopes md scopes).1

/-! ## Attribute filters -/

/-- Filtering criteria for attributes: the value of the key is one of the listed values. -/
structure AttributeFilter where
  key : String
  values : List String
  deriving DecidableEq

/-- A filter is valid when it has a key and none of its values is empty. -/
def AttributeFilter.validate (f : AttributeFilter) : Except String Unit :=
  if f.key = "" then throw "filter key is required"
  else if "" ∈ f.values then throw ("filter value cannot be empty for key " ++ f.key.quote)
  else pure ()

/-- All filters of a list are valid; the first one that is not is reported. -/
def validateFilters (l : List AttributeFilter) : Except String Unit := l.forM (·.validate)

/-- Whether the attributes contain the key with one of the values. -/
def AttributeFilter.matches (f : AttributeFilter) (attrs : AttrMap) : Bool :=
  match attrs.get f.key with
  | none => false
  | some val => f.values.contains val.str

/-- Whether the attributes satisfy all filters; an empty list matches unconditionally. -/
def matchFilters (l : List AttributeFilter) (attrs : AttrMap) : Bool := l.all (·.matches attrs)

/-- A filter on a map value. `none` is a panic: reading the zero map dereferences nil. -/
def AttributeFilter.matchRef (f : AttributeFilter) : MapRef → Option Bool
  | none => none
  | some attrs => some (f.matches attrs)

/-- The loop over the filters of a list on a map value. -/
def matchFiltersRef : List AttributeFilter → MapRef → Option Bool
  | [], _ => some true
  | f :: fs, m => (f.matchRef m).bind fun ok => if ok then matchFiltersRef fs m else some false

/-- On attributes the loop decides whether all filters match. -/
@[simp] theorem matchFiltersRef_some (l : List AttributeFilter) (attrs : AttrMap) :
    matchFiltersRef l (some attrs) = some (matchFilters l attrs) := by
  induction l with
  | nil => rfl
  | cons f fs ih =>
    rw [matchFiltersRef, AttributeFilter.matchRef, Option.bind_some, matchFilters, List.all_cons]
    cases f.matches attrs with
    | true => exact ih
    | false => rfl

/-- On the zero map only the empty list does not panic. -/
@[simp] theorem matchFiltersRef_none (l : List AttributeFilter) :
    matchFiltersRef l none = if l = [] then some true else none := by
  cases l <;> rfl

end XpuManager
