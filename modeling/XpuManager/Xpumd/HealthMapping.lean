import Mathlib.Data.List.AList
import Mathlib.Order.Basic
import XpuManager.Xpumd.Pdata

/-! # Health status mappings

The configuration of the device info exporter (`exporter/intelxpuinfo/config.go`): which health
status an `hw.state` of a component stands for. The text template of a health domain is a library's;
a compiled template is the function that renders attribute values, or fails to. -/

namespace XpuManager

/-! ## Severities -/

/-- Health status of a health domain. -/
inductive SeverityLevel where
  | unknown
  | ok
  | warning
  | critical
  | failed
  deriving DecidableEq, Repr

/-- The number of a severity level. -/
def SeverityLevel.toNat : SeverityLevel → Nat
  | .unknown => 0
  | .ok => 1
  | .warning => 2
  | .critical => 3
  | .failed => 4

theorem SeverityLevel.toNat_injective : Function.Injective SeverityLevel.toNat := by
  intro a b h
  cases a <;> cases b <;> first | rfl | cases h

instance : LinearOrder SeverityLevel :=
  LinearOrder.lift' SeverityLevel.toNat SeverityLevel.toNat_injective

/-- The names of the severities in a configuration. -/
def severityNames : List (String × SeverityLevel) :=
  [("unknown", .unknown), ("ok", .ok), ("warning", .warning), ("critical", .critical),
    ("failed", .failed)]

/-! ## Mappings -/

/-- What one `hw.state` value stands for. -/
structure HwStateMapping where
  severity : String
  reason : String
  message : String
  /-- Compiled from `severity` during validation. -/
  severityLevel : SeverityLevel

/-- A compiled text template: the text it renders from named values, unless rendering fails. -/
abbrev Template := AList (fun _ : String => String) → Option String

/-- A mapping of the attributes of a data point to a health status. -/
structure HwStatusMapping where
  filters : List AttributeFilter
  healthDomain : String
  stateMapping : List (String × HwStateMapping)
  showAllStates : Bool
  /-- Compiled from `healthDomain` during validation. -/
  healthDomainTmpl : Template

namespace HwStatusMapping

/-- The name of an attribute as a template variable: dots become underscores. -/
def variableName (key : String) : String := key.map fun c => if c = '.' then '_' else c

/-- The values a template is rendered from. -/
def templateData (attrs : AttrMap) : AList (fun _ : String => String) :=
  attrs.foldl (fun data kv => data.insert (variableName kv.1) kv.2.str) ∅

/-- The health domain of a data point; rendering may fail, and an empty name is an error. -/
def healthDomainFor (m : HwStatusMapping) (attrs : AttrMap) : Option String :=
  match m.healthDomainTmpl (templateData attrs) with
  | none => none
  | some name => if name = "" then none else some name

/-- What an `hw.state` value stands for: its own entry, or the catch-all entry. -/
def healthStatusFor (m : HwStatusMapping) (hwState : String) : Option HwStateMapping :=
  match m.stateMapping.lookup hwState with
  | some sm => some sm
  | none => m.stateMapping.lookup "*"

end HwStatusMapping

/-- The first mapping whose filters match. -/
def matchHwStatusMapping (mappings : List HwStatusMapping) (attrs : AttrMap) :
    Option HwStatusMapping :=
  mappings.find? fun m => matchFilters m.filters attrs

/-! ## Validation -/

/-- The characters of a single-word reason. -/
def isReasonChar (c : Char) : Bool := c.isAlphanum || c = '.' || c = '_' || c = '-'

/-- The checks on one state mapping. -/
def HwStateMapping.validate (m : HwStateMapping) (hwState : String) : Except String Unit :=
  let place := "state_mapping[" ++ hwState.quote ++ "]: "
  if severityNames.lookup m.severity = none then
    throw (place ++ "invalid severity " ++ m.severity.quote ++
      ", valid values are: [critical failed ok unknown warning]")
  else if m.reason ≠ "" then
    if 64 ≤ m.reason.utf8ByteSize then
      throw (place ++ "reason " ++ m.reason.quote ++ " must be shorter than 64 characters")
    else if m.reason.all isReasonChar = false then
      throw (place ++ "reason " ++ m.reason.quote ++ " must match regex \"^[A-Za-z0-9._-]+$\"")
    else pure ()
  else pure ()

/-- A state mapping with its severity compiled. -/
def HwStateMapping.compile (m : HwStateMapping) : HwStateMapping :=
  { m with severityLevel := (severityNames.lookup m.severity).getD .unknown }

/-- The checks on one mapping, which also compile it; `parse` is the template library's parser. -/
def HwStatusMapping.validate (parse : String → Except String Template) (m : HwStatusMapping) :
    Except String HwStatusMapping := do
  match validateFilters m.filters with
  | .error err => throw ("invalid filter: " ++ err)
  | .ok () => pure ()
  if m.healthDomain = "" then throw "health_domain must be specified"
  let tmpl ← match parse m.healthDomain with
    | .error err => throw ("invalid health_domain template: " ++ err)
    | .ok tmpl => pure tmpl
  m.stateMapping.forM fun e => e.2.validate e.1
  pure { m with
    healthDomainTmpl := tmpl
    stateMapping := m.stateMapping.map fun e => (e.1, e.2.compile) }

end XpuManager
