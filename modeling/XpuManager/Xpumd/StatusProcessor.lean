import Mathlib.Data.List.AList
import XpuManager.Lib.Prog
import XpuManager.Xpumd.Pdata

/-! # The health status processor

The processor that derives status data points from other metrics
(`processor/intelxpustatus/processor.go`, `config.go`). For each rule it collects the attributes of
the parents, then goes through the scopes; the loop over a source metric's data points reads their
number anew in every turn, as the slice it ranges over does. Reading an attribute of the zero map
panics, which is a fault here. The state of a run counts the `range` loops over maps.

How filters are matched against the parent is a parameter `ParentMatch` of all of these; the code's
own is `matchFiltersRef`. -/

namespace XpuManager

variable {F V : Type}

/-! ## Configuration -/

/-- A condition of a state rule. -/
structure ConditionRule (F : Type) where
  /-- Value threshold. -/
  value : F
  /-- Filters to apply on parent attributes. -/
  parentFilters : List AttributeFilter

/-- When to apply a state. -/
structure StateRule (F : Type) where
  /-- The rule matches if any of the conditions match. -/
  conditions : List (ConditionRule F)
  /-- Value to set the state attribute to. -/
  stateName : String

/-- A health state rule. -/
structure HealthRule (F : Type) where
  name : String
  /-- Source metric to evaluate the state rules against. -/
  sourceMetric : String
  /-- Parent metric to get the parent attributes from. If empty, no parent filtering is applied. -/
  parentMetric : String
  /-- Metric to set the status on. -/
  statusMetric : String
  /-- Attribute of the source metric that identifies the parent. -/
  parentRefAttribute : String
  /-- Attribute of the parent metric that identifies it. -/
  parentIDAttribute : String
  /-- Attribute of the status metric to set the state on. -/
  stateAttribute : String
  copyAttributes : List String
  addAttributes : AList fun _ : String => String
  componentFilters : List AttributeFilter
  parentFilters : List AttributeFilter
  /-- The state rules in order; the last matching one is active. -/
  states : List (StateRule F)

/-- The default of an empty field. -/
def orDefault (field default : String) : String := if field = "" then default else field

/-- The rule with defaults for its empty fields. -/
def HealthRule.setDefaults (r : HealthRule F) : HealthRule F :=
  { r with
    statusMetric := orDefault r.statusMetric "hw.status"
    parentRefAttribute := orDefault r.parentRefAttribute "hw.parent"
    parentIDAttribute := orDefault r.parentIDAttribute "hw.id"
    stateAttribute := orDefault r.stateAttribute "hw.state" }

/-- An error with the place it comes from in front. -/
def wrapError (place : String) : Except String Unit → Except String Unit
  | .error err => .error (place ++ ": " ++ err)
  | .ok () => .ok ()

section Validate

variable [LE F] [DecidableLE F]

/-- A threshold is a number: not a number is what does not compare with itself. -/
def ConditionRule.validate (r : ConditionRule F) : Except String Unit :=
  if ¬r.value ≤ r.value then .error "value cannot be NaN"
  else wrapError "invalid parent filter" (validateFilters r.parentFilters)

/-- What `Validate` asks of a state. -/
def StateRule.validate (t : StateRule F) : Except String Unit :=
  if t.stateName = "" then .error "state_name cannot be empty"
  else t.conditions.forM fun c => wrapError "invalid condition rule" c.validate

/-- What `Validate` asks of a rule. -/
def HealthRule.validate (r : HealthRule F) : Except String Unit :=
  if r.name = "" then .error "rule name cannot be empty"
  else if r.sourceMetric = "" then .error "source_metric is required"
  else if r.states = [] then .error "at least one state is required"
  else do
    r.states.forM fun t => wrapError "invalid state rule" t.validate
    wrapError "invalid component filter" (validateFilters r.componentFilters)
    wrapError "invalid parent filter" (validateFilters r.parentFilters)

/-- The checks on a configuration: every rule is valid. -/
def validateConfig (rules : List (HealthRule F)) : Except String Unit :=
  rules.forM fun r => wrapError ("invalid health rule " ++ r.name.quote) r.validate

end Validate

/-! ## The language -/

/-- What the language leaves open: `float64` of an integer, and the order in which the `n`-th
`range` over a map visits its keys. -/
structure Runtime (F : Type) where
  toFloat : Int64 → F
  keyOrder : Nat → List String → List String
  keyOrder_perm : ∀ n keys, (keyOrder n keys).Perm keys

/-- The entries of a map in the order in which a `range` visits them. -/
def Runtime.entries (rt : Runtime F) (n : Nat) (m : AList fun _ : String => V) :
    List (String × V) :=
  (rt.keyOrder n m.keys).filterMap fun key => (m.lookup key).map fun v => (key, v)

/-- A `range` over a map. -/
def rangeMap (rt : Runtime F) (m : AList fun _ : String => V) : Prog Nat (List (String × V)) := do
  let n ← Prog.get
  Prog.modify (· + 1)
  pure (rt.entries n m)

/-! ## Evaluating the state rules -/

/-- How filters are matched against the attributes of a parent; `none` is a panic. -/
abbrev ParentMatch := List AttributeFilter → MapRef → Option Bool

section Evaluate

variable [LE F] [DecidableLE F] (matchParent : ParentMatch)

/-- Whether a condition holds; filters are looked at only if the threshold is reached. -/
def ConditionRule.matches (c : ConditionRule F) (value : F) (parentAttrs : MapRef) : Option Bool :=
  if c.value ≤ value then matchParent c.parentFilters parentAttrs else some false

/-- The loop over conditions: it stops at the first one that holds. -/
def anyMatches (value : F) (parentAttrs : MapRef) : List (ConditionRule F) → Option Bool
  | [] => some false
  | c :: cs => (c.matches matchParent value parentAttrs).bind fun ok =>
    if ok then some true else anyMatches value parentAttrs cs

/-- Whether a state rule applies; no conditions means unconditional match. -/
def StateRule.applies (value : F) (parentAttrs : MapRef) (rule : StateRule F) : Option Bool :=
  if rule.conditions = [] then some true
  else anyMatches matchParent value parentAttrs rule.conditions

/-- The turn of the loop over state rules: the state is set to 0 and becomes the active one if its
rule applies. -/
def evaluateRule (value : F) (parentAttrs : MapRef)
    (acc : (AList fun _ : String => UInt64) × String) (rule : StateRule F) :
    Option ((AList fun _ : String => UInt64) × String) :=
  (rule.applies matchParent value parentAttrs).map fun ok =>
    (acc.1.insert rule.stateName 0, if ok then rule.stateName else acc.2)

/-- The states of a value: 1 for the state of the last rule that applies, 0 for the others. -/
def evaluateStates (rule : HealthRule F) (value : F) (parentAttrs : MapRef) :
    Option (AList fun _ : String => UInt64) :=
  (rule.states.foldlM (evaluateRule matchParent value parentAttrs) (∅, "")).map fun acc =>
    if acc.2 ≠ "" then acc.1.insert acc.2 1 else acc.1

end Evaluate

/-! ## Status data points -/

/-- The parents of a rule by their ID. -/
abbrev Parents := AList fun _ : String => AttrMap

/-- The ID of the parent of a data point; empty if the rule has no attribute for it. -/
def HealthRule.parentID (rule : HealthRule F) (attrs : AttrMap) : String :=
  if rule.parentRefAttribute ≠ "" then attrs.getStr rule.parentRefAttribute else ""

/-- The rule's filters on the parent of a data point. -/
def HealthRule.matchesParent (matchParent : ParentMatch) (rule : HealthRule F) (parents : Parents)
    (attrs : AttrMap) : Option Bool :=
  if rule.parentRefAttribute ≠ "" then
    matchParent rule.parentFilters (parents.lookup (rule.parentID attrs))
  else some true

/-- The value of a data point as a `float64`. -/
def Runtime.value (rt : Runtime F) : NumberValue F → Option F
  | .int v => some (rt.toFloat v)
  | .double v => some v
  | .empty => none

/-- Copy one attribute, if there is one. -/
def copyAttribute (attrs m : AttrMap) (key : String) : AttrMap :=
  match attrs.get key with
  | some val => m.putStr key val.str
  | none => m

/-- The attributes copied from a source data point. -/
def HealthRule.copied (rule : HealthRule F) (attrs : AttrMap) : AttrMap :=
  rule.copyAttributes.foldl (copyAttribute attrs) []

/-- The attributes of a status data point apart from its state. -/
def HealthRule.statusAttrs (rule : HealthRule F) (attrs : AttrMap)
    (added : List (String × String)) : AttrMap :=
  added.foldl (fun m kv => m.putStr kv.1 kv.2) (rule.copied attrs)

/-- One data point for each state. -/
def createHealthMetric (rt : Runtime F) (rule : HealthRule F) (baseAttrs : AttrMap)
    (states : AList fun _ : String => UInt64) (timestamp : UInt64) :
    Prog Nat (List (NumberDataPoint F)) := do
  let entries ← rangeMap rt states
  pure (entries.map fun kv =>
    ⟨baseAttrs.putStr rule.stateAttribute kv.1, timestamp, .int kv.2.toInt64⟩)

section Process

variable [LE F] [DecidableLE F] (rt : Runtime F) (matchParent : ParentMatch)

/-- The status data points that one source data point adds. -/
def statusPointsOf (rule : HealthRule F) (parents : Parents) (dp : NumberDataPoint F) :
    Prog Nat (List (NumberDataPoint F)) :=
  if matchFilters rule.componentFilters dp.attributes = false then pure []
  else do
    let ok ← Prog.ofOption (rule.matchesParent matchParent parents dp.attributes)
    if ok = false then pure []
    else match rt.value dp.value with
      | none => pure []
      | some value => do
        let parentAttrs := parents.lookup (rule.parentID dp.attributes)
        let states ← Prog.ofOption (evaluateStates matchParent rule value parentAttrs)
        let added ← rangeMap rt rule.addAttributes
        createHealthMetric rt rule (rule.statusAttrs dp.attributes added) states dp.timestamp

/-! ## Scopes -/

/-- The data points of the metric at an index. -/
def dataPointsAt (metrics : List (Metric F)) (i : Nat) : List (NumberDataPoint F) :=
  ((metrics[i]?).bind Metric.getNumberDatapoints).getD []

/-- Append data points to the metric at an index. -/
def appendDataPoints (metrics : List (Metric F)) (i : Nat) (dps : List (NumberDataPoint F)) :
    List (Metric F) :=
  metrics.modify i fun m => m.setDataPoints (m.getNumberDatapoints.getD [] ++ dps)

/-- The index of the first metric of a name. -/
def findMetricByName (metrics : List (Metric F)) (name : String) : Option Nat :=
  metrics.findIdx? fun m => m.name = name

/-- Source and status metric of a scope, the latter appended if it was missing. Without a source
metric, or if one of the two has no number data points, there is nothing to do. -/
def prepare (rule : HealthRule F) (metrics : List (Metric F)) :
    List (Metric F) × Option (Nat × Nat) :=
  match findMetricByName metrics rule.sourceMetric with
  | none => (metrics, none)
  | some i =>
    if ((metrics[i]?).bind Metric.getNumberDatapoints).isNone then (metrics, none)
    else
      let (metrics', j) := match findMetricByName metrics rule.statusMetric with
        | some j => (metrics, j)
        | none => (metrics ++ [⟨rule.statusMetric, .sum false true []⟩], metrics.length)
      if ((metrics'[j]?).bind Metric.getNumberDatapoints).isNone then (metrics', none)
      else (metrics', some (i, j))

/-- The turn of the loop over source data points: the `k`-th one, if there is one. -/
def pointTurn (rule : HealthRule F) (parents : Parents) (i j : Nat) :
    Nat × List (Metric F) → Prog Nat ((Nat × List (Metric F)) ⊕ List (Metric F))
  | (k, metrics) =>
    match (dataPointsAt metrics i)[k]? with
    | none => pure (.inr metrics)
    | some dp => do
      let dps ← statusPointsOf rt matchParent rule parents dp
      pure (.inl (k + 1, appendDataPoints metrics j dps))

/-- Update the metrics of one scope. -/
def updateMetrics (fuel : Nat) (rule : HealthRule F) (parents : Parents) (sm : ScopeMetrics F) :
    Prog Nat (ScopeMetrics F) :=
  match prepare rule sm.metrics with
  | (metrics, none) => pure ⟨metrics⟩
  | (metrics, some (i, j)) => do
    let metrics' ← Prog.loop (pointTurn rt matchParent rule parents i j) fuel (0, metrics)
    pure ⟨metrics'⟩

/-! ## Batches -/

/-- The parent of one data point; one without ID is skipped, and so is a second one of an ID. -/
def collectParent (rule : HealthRule F) (parents : Parents) (dp : NumberDataPoint F) : Parents :=
  let id := dp.attributes.getStr rule.parentIDAttribute
  if id = "" then parents
  else match parents.lookup id with
    | some _ => parents
    | none => parents.insert id dp.attributes

/-- The parents in a scope. -/
def collectParentMetadata (rule : HealthRule F) (parents : Parents) (sm : ScopeMetrics F) :
    Parents :=
  if rule.parentMetric = "" then parents
  else sm.metrics.foldl (fun parents m =>
    if m.name ≠ rule.parentMetric then parents
    else (m.getNumberDatapoints.getD []).foldl (collectParent rule) parents) parents

/-- The first pass: the parents in all scopes. -/
def collectParents (rule : HealthRule F) (scopes : List (ScopeMetrics F)) : Parents :=
  scopes.foldl (collectParentMetadata rule) ∅

/-- Both passes of a rule over the scopes of a batch. -/
def processScopes (fuel : Nat) (rule : HealthRule F) (scopes : List (ScopeMetrics F)) :
    Prog Nat (List (ScopeMetrics F)) :=
  Prog.mapList (updateMetrics rt matchParent fuel rule (collectParents rule scopes)) scopes

/-- One rule on a batch. -/
def process (fuel : Nat) (rule : HealthRule F) (md : Metrics F) : Prog Nat (Metrics F) := do
  let scopes ← processScopes rt matchParent fuel rule md.scopes
  pure (md.withScopes scopes)

/-- All rules on a batch, one after the other. -/
def processMetrics (fuel : Nat) : List (HealthRule F) → Metrics F → Prog Nat (Metrics F)
  | [], md => pure md
  | rule :: rules, md => process rt matchParent fuel rule md >>= processMetrics fuel rules

end Process

end XpuManager
