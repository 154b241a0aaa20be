import Mathlib.Order.Lattice
import Mathlib.Tactic.MkIffOfInductiveProp
import XpuManager.E2eValidation.HealthWatcher

/-! # The policy engine

The validation tool maps events to actions (`e2e_validation/policies/engine.py`). The engine counts how
often each rule has fired, and keeps the time at which it last did for a device and a health domain. Times
are of any type, as floating-point numbers are not modelled. -/

namespace XpuManager

namespace E2eValidation

/-! ## Rules -/

variable {T A : Type} [Zero T]

/-- A rule for actions of any kind. -/
structure PolicyRule (T A : Type) [Zero T] where
  name : String
  eventTypes : List EventType
  action : A
  minSeverity : SeverityLevel := .unknown
  domains : List String := []
  bdfs : List String := []
  cooldownS : T := 0
  maxFires : Int := 0
  enabled : Bool := true

/-- How an action ends: it returns `True` or `None`, it returns `False`, or it raises an exception. -/
inductive ActionOutcome where
  | done
  | refused
  | raised (message : String)

/-- The error of a firing; `reported` is the text with the name of the rule. -/
inductive FiringError where
  | none
  | reported (ruleName : String)
  | exception (message : String)
  deriving DecidableEq

/-- What the engine keeps of a firing. -/
structure PolicyFiring (T : Type) where
  ruleName : String
  event : DeviceEvent
  timestamp : T
  success : Bool
  error : FiringError

/-- What the clock shows and the action answers when a rule is evaluated. -/
structure Answers (T : Type) where
  /-- In `_matches`. -/
  checked : T
  /-- For `_last_fire`. -/
  fired : T
  /-- For the record of the firing. -/
  stamped : T
  outcome : ActionOutcome

/-! ## The engine -/

/-- The rules, the firings and the two dictionaries of the engine. -/
structure PolicyEngine (T A : Type) [Zero T] where
  rules : List (PolicyRule T A) := []
  firings : List (PolicyFiring T) := []
  lastFire : AList (fun _ : String × String × String => T) := ∅
  fireCount : AList (fun _ : String => Nat) := ∅

/-- A rule, an event and the answers. -/
structure Evaluation (T A : Type) [Zero T] where
  rule : PolicyRule T A
  event : DeviceEvent
  answers : Answers T

namespace Evaluation

variable (f : Evaluation T A)

/-- The key of `_last_fire`. -/
def key : String × String × String := (f.rule.name, f.event.bdf, f.event.domain)

/-- The record of a firing. -/
def firing : PolicyFiring T where
  ruleName := f.rule.name
  event := f.event
  timestamp := f.answers.stamped
  success := match f.answers.outcome with
    | .done => true
    | _ => false
  error := match f.answers.outcome with
    | .done => .none
    | .refused => .reported f.rule.name
    | .raised message => .exception message

end Evaluation

namespace PolicyEngine

section Methods

variable [LT T] [Sub T] [DecidableLT T] (s : PolicyEngine T A)

/-- A rule is put behind the others. -/
def addRule (rule : PolicyRule T A) : PolicyEngine T A := { s with rules := s.rules ++ [rule] }

/-- All rules of the name are taken out; the dictionaries stay. -/
def removeRule (name : String) : PolicyEngine T A :=
  { s with rules := s.rules.filter fun rule => rule.name ≠ name }

/-- `_matches`. -/
def isMatch (f : Evaluation T A) : Bool :=
  if f.event.eventType ∉ f.rule.eventTypes then false
  else if f.event.severity < f.rule.minSeverity then false
  else if f.rule.domains ≠ [] ∧ f.event.domain ∉ f.rule.domains then false
  else if f.rule.bdfs ≠ [] ∧ f.event.bdf ∉ f.rule.bdfs then false
  else if 0 < f.rule.cooldownS ∧
      f.answers.checked - (s.lastFire.lookup f.key).getD 0 < f.rule.cooldownS then false
  else if 0 < f.rule.maxFires ∧ f.rule.maxFires ≤ (s.fireCount.lookup f.rule.name).getD 0 then false
  else true

/-- `_fire`. -/
def fire (f : Evaluation T A) : PolicyEngine T A :=
  { s with
    lastFire := s.lastFire.insert f.key f.answers.fired
    fireCount := s.fireCount.insert f.rule.name ((s.fireCount.lookup f.rule.name).getD 0 + 1)
    firings := s.firings ++ [f.firing] }

/-- The body of the loop of `handle_event`. -/
def evaluate (f : Evaluation T A) : PolicyEngine T A :=
  if ¬f.rule.enabled then s else if ¬s.isMatch f then s else s.fire f

/-- The rules that an event is evaluated against. -/
def evaluationsOf (rules : List (PolicyRule T A)) (event : DeviceEvent) (answers : Nat → Answers T) :
    List (Evaluation T A) :=
  rules.zipIdx.map fun rule => ⟨rule.1, event, answers rule.2⟩

/-- `handle_event`, with the answers for each rule. -/
def handleEvent (event : DeviceEvent) (answers : Nat → Answers T) : PolicyEngine T A :=
  (evaluationsOf s.rules event answers).foldl evaluate s

end Methods

end PolicyEngine

/-- A call of a method of the engine. -/
inductive PolicyCall (T A : Type) [Zero T] where
  | addRule (rule : PolicyRule T A)
  | removeRule (name : String)
  | handleEvent (event : DeviceEvent) (answers : Nat → Answers T)

namespace PolicyEngine

/-- What a call does. -/
def call [LT T] [Sub T] [DecidableLT T] (s : PolicyEngine T A) : PolicyCall T A → PolicyEngine T A
  | .addRule rule => s.addRule rule
  | .removeRule name => s.removeRule name
  | .handleEvent event answers => s.handleEvent event answers

/-- What the calls evaluate, one rule after the other. -/
def evaluations : List (PolicyRule T A) → List (PolicyCall T A) → List (Evaluation T A)
  | _, [] => []
  | rules, .addRule rule :: calls => evaluations (rules ++ [rule]) calls
  | rules, .removeRule name :: calls =>
    evaluations (rules.filter fun rule => rule.name ≠ name) calls
  | rules, .handleEvent event answers :: calls =>
    evaluationsOf rules event answers ++ evaluations rules calls

end PolicyEngine

/-! ## What the firings so far permit -/

/-- The time of the last firing of a rule for a device and a domain. -/
def lastFired (log : List (Evaluation T A)) (key : String × String × String) : Option T :=
  (log.filter fun f => f.key = key).getLast?.map fun f => f.answers.fired

/-- How often the rules of a name have fired. -/
def firedCount (log : List (Evaluation T A)) (name : String) : Nat :=
  (log.filter fun f => f.rule.name = name).length

/-- The rule is for the event, enough time has passed since it last fired for the device and the domain,
and it has not fired as often as it may. -/
@[mk_iff]
structure Permitted [LT T] [Sub T] (log : List (Evaluation T A)) (f : Evaluation T A) : Prop where
  enabled : f.rule.enabled = true
  eventType : f.event.eventType ∈ f.rule.eventTypes
  severity : f.rule.minSeverity ≤ f.event.severity
  domain : f.rule.domains = [] ∨ f.event.domain ∈ f.rule.domains
  bdf : f.rule.bdfs = [] ∨ f.event.bdf ∈ f.rule.bdfs
  rested : 0 < f.rule.cooldownS →
    ¬f.answers.checked - (lastFired log f.key).getD 0 < f.rule.cooldownS
  left : 0 < f.rule.maxFires → (firedCount log f.rule.name : Int) < f.rule.maxFires

instance [LT T] [Sub T] [DecidableLT T] (log : List (Evaluation T A)) (f : Evaluation T A) :
    Decidable (Permitted log f) :=
  decidable_of_iff _ (permitted_iff log f).symm

/-- One after the other, what is permitted fires. -/
def fireAll [LT T] [Sub T] [DecidableLT T] (log : List (Evaluation T A)) :
    List (Evaluation T A) → List (Evaluation T A)
  | [] => log
  | f :: fs => fireAll (if Permitted log f then log ++ [f] else log) fs

section

variable {log : List (Evaluation T A)} {f : Evaluation T A} {s : PolicyEngine T A}

theorem lastFired_snoc (key : String × String × String) : lastFired (log ++ [f]) key =
    if f.key = key then some f.answers.fired else lastFired log key := by
  unfold lastFired
  rw [List.filter_append]
  split
  case isTrue h => simp [h]
  case isFalse h => simp [h]

theorem firedCount_snoc (name : String) : firedCount (log ++ [f]) name =
    firedCount log name + if f.rule.name = name then 1 else 0 := by
  unfold firedCount
  rw [List.filter_append, List.length_append]
  split
  case isTrue h => simp [h]
  case isFalse h => simp [h]

/-! ## The engine and its firings -/

/-- The dictionaries of the engine say what its firings say. -/
structure Records (s : PolicyEngine T A) (log : List (Evaluation T A)) : Prop where
  firings : s.firings = log.map Evaluation.firing
  lastFire : ∀ key, s.lastFire.lookup key = lastFired log key
  fireCount : ∀ name, (s.fireCount.lookup name).getD 0 = firedCount log name

theorem records_empty : Records ({} : PolicyEngine T A) [] where
  firings := rfl
  lastFire _ := rfl
  fireCount _ := rfl

/-- A firing is appended to the log and to both dictionaries. -/
theorem Records.fire (h : Records s log) (f : Evaluation T A) :
    Records (s.fire f) (log ++ [f]) where
  firings := by
    rw [List.map_append, ← h.firings]
    rfl
  lastFire key := by
    rw [lastFired_snoc, PolicyEngine.fire]
    dsimp only
    split
    case isTrue hkey => rw [← hkey, AList.lookup_insert]
    case isFalse hkey => rw [AList.lookup_insert_ne (Ne.symm hkey), h.lastFire]
  fireCount name := by
    rw [firedCount_snoc, PolicyEngine.fire]
    dsimp only
    split
    case isTrue hname => rw [← hname, AList.lookup_insert, Option.getD_some, h.fireCount]
    case isFalse hname => rw [AList.lookup_insert_ne (Ne.symm hname), h.fireCount, Nat.add_zero]

variable [LT T] [Sub T] [DecidableLT T]

theorem fireAll_append (log fs gs : List (Evaluation T A)) :
    fireAll log (fs ++ gs) = fireAll (fireAll log fs) gs := by
  induction fs generalizing log with
  | nil => rfl
  | cons f fs ih => exact ih _

/-- The engine fires what its firings so far permit. -/
theorem Records.isMatch_iff (h : Records s log) :
    (f.rule.enabled = true ∧ s.isMatch f = true) ↔ Permitted log f := by
  rw [PolicyEngine.isMatch, h.lastFire, h.fireCount, permitted_iff]
  simp only [Bool.if_false_left, Bool.and_true, Bool.and_eq_true, Bool.not_eq_true',
    decide_eq_false_iff_not, not_not, not_lt, not_and_or, Int.not_le, ne_eq, imp_iff_not_or]

/-- **One rule.** -/
theorem Records.evaluate (h : Records s log) (f : Evaluation T A) :
    Records (s.evaluate f) (if Permitted log f then log ++ [f] else log) := by
  have hfires := h.isMatch_iff (f := f)
  rw [PolicyEngine.evaluate]
  split
  case isTrue hdisabled => rwa [if_neg fun hp => hdisabled hp.enabled]
  case isFalse henabled =>
    split
    case isTrue hno => rwa [if_neg fun hp => hno (hfires.mpr hp).2]
    case isFalse hyes =>
      rw [if_pos (hfires.mp ⟨not_not.mp henabled, not_not.mp hyes⟩)]
      exact h.fire f

theorem rules_foldl_evaluate (s : PolicyEngine T A) (fs : List (Evaluation T A)) :
    (fs.foldl PolicyEngine.evaluate s).rules = s.rules := by
  induction fs generalizing s with
  | nil => rfl
  | cons f fs ih =>
    rw [List.foldl_cons, ih, PolicyEngine.evaluate]
    split
    · rfl
    · split
      · rfl
      · rfl

/-- All rules, one after the other. -/
theorem Records.foldl_evaluate (h : Records s log) (fs : List (Evaluation T A)) :
    Records (fs.foldl PolicyEngine.evaluate s) (fireAll log fs) := by
  induction fs generalizing s log with
  | nil => exact h
  | cons f fs ih => exact ih (h.evaluate f)

/-- **Any calls.** -/
theorem Records.calls (h : Records s log) (calls : List (PolicyCall T A)) :
    Records (calls.foldl PolicyEngine.call s)
      (fireAll log (PolicyEngine.evaluations s.rules calls)) := by
  induction calls generalizing s log with
  | nil => exact h
  | cons c calls ih =>
    rw [List.foldl_cons]
    cases c with
    | addRule rule => exact ih ⟨h.firings, h.lastFire, h.fireCount⟩
    | removeRule name => exact ih ⟨h.firings, h.lastFire, h.fireCount⟩
    | handleEvent event answers =>
      have hrest := ih (h.foldl_evaluate (PolicyEngine.evaluationsOf s.rules event answers))
      rw [rules_foldl_evaluate] at hrest
      rw [PolicyEngine.evaluations, fireAll_append]
      exact hrest

end

/-- **The engine fires what its firings permit.** After any calls its list of firings is what one gets by
going over all evaluated rules and firing those that the firings before permit: rules that are for the
event, last fired long enough ago for its device and domain, and have fired less often than they may.
The two dictionaries say what this list says. -/
theorem run_firings [LT T] [Sub T] [DecidableLT T] (calls : List (PolicyCall T A)) :
    Records (calls.foldl PolicyEngine.call ({} : PolicyEngine T A))
      (fireAll [] (PolicyEngine.evaluations [] calls)) :=
  records_empty.calls calls

end E2eValidation

end XpuManager
