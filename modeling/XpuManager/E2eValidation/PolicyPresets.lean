import Mathlib.Algebra.BigOperators.Ring.List
import Mathlib.Algebra.BigOperators.Ring.Finset
import Mathlib.Algebra.Order.BigOperators.Group.List
import Mathlib.Algebra.Order.Ring.Int
import Mathlib.Algebra.Order.Ring.Rat
import Mathlib.Data.List.Induction
import XpuManager.E2eValidation.PolicyEngine
import XpuManager.Lib.Counting

/-! # The built-in policies

The rules that the validation tool brings along (`e2e_validation/policies/presets.py`), and how often they
may act. -/

namespace XpuManager

namespace E2eValidation

/-! ## The rules -/

/-- The built-in actions (`e2e_validation/policies/actions.py`). -/
inductive BuiltinAction where
  | coldReset
  | warmReset
  | firmwareUpdate
  | logCritical
  | logEvent
  | throttleObserved
  | throttleRecovered
  deriving DecidableEq

abbrev BuiltinRule := PolicyRule ℚ BuiltinAction

/-- The rules for errors of the microcontroller. -/
def pcodeErrorRecoveryRules : List BuiltinRule :=
  [{ name := "pcode_error_log", eventTypes := [.pcodeError], action := .logCritical },
   { name := "device_wedged_warm_reset"
     eventTypes := [.deviceWedged, .pcodeError]
     minSeverity := .critical
     action := .warmReset
     cooldownS := 15
     maxFires := 2 },
   { name := "device_wedged_cold_reset"
     eventTypes := [.deviceWedged, .pcodeError]
     minSeverity := .critical
     action := .coldReset
     cooldownS := 30
     maxFires := 1 },
   { name := "device_wedged_recovery_check"
     eventTypes := [.healthRecovered]
     action := .logEvent }]

/-- The rules for devices in survivability mode. -/
def deviceSurvivabilityRules : List BuiltinRule :=
  [{ name := "survivability_detected"
     eventTypes := [.deviceSurvivability]
     action := .logCritical },
   { name := "survivability_fw_update"
     eventTypes := [.deviceSurvivability]
     minSeverity := .critical
     action := .firmwareUpdate
     cooldownS := 60
     maxFires := 1 }]

/-- The rules for RAS errors. -/
def rasEventRules : List BuiltinRule :=
  [{ name := "ras_correctable_log", eventTypes := [.rasCorrectable], action := .logEvent },
   { name := "ras_uncorrectable_warm_reset"
     eventTypes := [.rasUncorrectable]
     minSeverity := .warning
     action := .warmReset
     cooldownS := 15 },
   { name := "ras_uncorrectable_cold_reset"
     eventTypes := [.rasUncorrectable]
     minSeverity := .critical
     action := .coldReset
     cooldownS := 30
     maxFires := 2 }]

/-- The rules for devices that are too hot. -/
def thermalThrottleRules : List BuiltinRule :=
  [{ name := "thermal_throttle"
     eventTypes := [.thermalThrottle, .healthWarning]
     domains := ["core_thermal", "memory_thermal"]
     minSeverity := .warning
     action := .throttleObserved
     cooldownS := 10 },
   { name := "thermal_critical_reset"
     eventTypes := [.thermalThrottle, .healthCritical]
     domains := ["core_thermal", "memory_thermal"]
     minSeverity := .critical
     action := .coldReset
     cooldownS := 30
     maxFires := 2 },
   { name := "thermal_recovery"
     eventTypes := [.healthRecovered]
     domains := ["core_thermal", "memory_thermal"]
     action := .throttleRecovered }]

/-- The rules for devices that take too much power. -/
def powerManagementRules : List BuiltinRule :=
  [{ name := "power_throttle"
     eventTypes := [.powerThrottle, .healthWarning]
     domains := ["power"]
     minSeverity := .warning
     action := .throttleObserved
     cooldownS := 10 },
   { name := "power_critical"
     eventTypes := [.healthCritical]
     domains := ["power"]
     minSeverity := .critical
     action := .logCritical }]

/-- The rules for devices that come and go. -/
def deviceLifecycleRules : List BuiltinRule :=
  [{ name := "device_added_log", eventTypes := [.deviceAdded], action := .logEvent },
   { name := "device_removed_log", eventTypes := [.deviceRemoved], action := .logCritical }]

/-- All default rules of the presets. -/
def allDefaultRules : List BuiltinRule :=
  pcodeErrorRecoveryRules ++ deviceSurvivabilityRules ++ rasEventRules ++ thermalThrottleRules ++
    powerManagementRules ++ deviceLifecycleRules

/-! ## How often rules fire -/

section

variable {T A : Type} [Zero T] [LT T] [Sub T]
  {log fs : List (Evaluation T A)} {f : Evaluation T A} {rules : List (PolicyRule T A)}

/-- The rules of a name have fired no more often than each of them may. -/
theorem firedCount_le {name : String} {m : Int} (h : History.Each Permitted log) (hm : 0 ≤ m)
    (hrules : ∀ f ∈ log, f.rule.name = name → 0 < f.rule.maxFires ∧ f.rule.maxFires ≤ m) :
    (firedCount log name : Int) ≤ m := by
  induction log using List.reverseRecOn with
  | nil => exact hm
  | append_singleton log f ih =>
    obtain ⟨heach, hpermitted⟩ := h.of_snoc
    rw [firedCount_snoc]
    split
    case isTrue hname =>
      obtain ⟨hpos, hle⟩ := hrules f (by simp) hname
      have hleft := hpermitted.left hpos
      rw [hname] at hleft
      push_cast
      omega
    case isFalse =>
      exact ih heach fun g hg => hrules g (List.mem_append_left _ hg)

/-- **The rules of an action fire no more often than they may together**, if each of them has a limit. -/
theorem fired_le_budget (h : History.Each Permitted log) (hnames : (rules.map PolicyRule.name).Nodup)
    (hmem : ∀ f ∈ log, f.rule ∈ rules) (p : PolicyRule T A → Bool)
    (hlimit : ∀ rule ∈ rules, p rule → 0 < rule.maxFires) :
    ((log.filter fun f => p f.rule).length : Int) ≤
      ((rules.filter p).map PolicyRule.maxFires).sum := by
  have hkinds := Counting.length_filter_le_sum log (rules.filter p) (fun rule f => f.rule.name = rule.name)
    (fun f => p f.rule) fun f hf hp => ⟨f.rule, List.mem_filter.mpr ⟨hmem f hf, hp⟩, rfl⟩
  have hcount (rule) (hrule : rule ∈ rules.filter p) :
      (firedCount log rule.name : Int) ≤ rule.maxFires := by
    obtain ⟨hrule, hp⟩ := List.mem_filter.mp hrule
    have hpos := hlimit rule hrule hp
    refine firedCount_le h hpos.le fun f hf hname => ?_
    obtain rfl := List.inj_on_of_nodup_map hnames (hmem f hf) hrule hname
    exact ⟨hpos, le_rfl⟩
  calc ((log.filter fun f => p f.rule).length : Int)
      ≤ (((rules.filter p).map fun rule => firedCount log rule.name).sum : Nat) := by
        exact_mod_cast hkinds
    _ = ((rules.filter p).map fun rule => (firedCount log rule.name : Int)).sum := by
        rw [Nat.cast_list_sum, List.map_map]
        rfl
    _ ≤ ((rules.filter p).map PolicyRule.maxFires).sum := List.sum_le_sum hcount

variable [DecidableLT T]

/-- What fires was permitted when it fired. -/
theorem each_fireAll (h : History.Each Permitted log) (fs : List (Evaluation T A)) :
    History.Each Permitted (fireAll log fs) := by
  induction fs generalizing log with
  | nil => exact h
  | cons f fs ih =>
    rw [fireAll]
    split
    case isTrue hf => exact ih (h.snoc hf)
    case isFalse => exact ih h

/-- What has fired was evaluated. -/
theorem mem_of_mem_fireAll (h : f ∈ fireAll log fs) : f ∈ log ∨ f ∈ fs := by
  induction fs generalizing log with
  | nil => exact .inl h
  | cons g fs ih =>
    obtain hlog | hfs := ih h
    · split at hlog
      case isTrue =>
        obtain hmem | hmem := List.mem_append.mp hlog
        · exact .inl hmem
        · exact .inr (List.mem_singleton.mp hmem ▸ List.mem_cons_self)
      case isFalse => exact .inl hlog
    · exact .inr (List.mem_cons_of_mem _ hfs)

end

/-- The names of the rules of an action. -/
def rulesOf (action : BuiltinAction) : List String :=
  (allDefaultRules.filter fun rule => rule.action = action).map PolicyRule.name

/-- The firings of an action. -/
def firingsOf (action : BuiltinAction) (s : PolicyEngine ℚ BuiltinAction) : List (PolicyFiring ℚ) :=
  s.firings.filter fun firing => firing.ruleName ∈ rulesOf action

/-- An engine with the built-in rules, after some events. -/
def afterEvents (events : List (DeviceEvent × (Nat → Answers ℚ))) : PolicyEngine ℚ BuiltinAction :=
  events.foldl (fun s event => s.handleEvent event.1 event.2) { rules := allDefaultRules }

theorem nodup_allDefaultRules : (allDefaultRules.map PolicyRule.name).Nodup := by decide

/-- Only the built-in rules are evaluated. -/
theorem rule_mem_of_evaluations {rules : List BuiltinRule}
    {events : List (DeviceEvent × (Nat → Answers ℚ))} {f : Evaluation ℚ BuiltinAction}
    (h : f ∈ PolicyEngine.evaluations rules (events.map fun e => .handleEvent e.1 e.2)) :
    f.rule ∈ rules := by
  induction events with
  | nil => cases h
  | cons e events ih =>
    obtain hmem | hmem := List.mem_append.mp h
    · obtain ⟨rule, hrule, rfl⟩ := List.mem_map.mp hmem
      exact List.fst_mem_of_mem_zipIdx hrule
    · exact ih hmem

/-- The firings of an action whose rules are all limited. -/
theorem firingsOf_le (action : BuiltinAction) (events : List (DeviceEvent × (Nat → Answers ℚ)))
    (hlimit : ∀ rule ∈ allDefaultRules, rule.action = action → 0 < rule.maxFires) :
    ((firingsOf action (afterEvents events)).length : Int) ≤
      ((allDefaultRules.filter fun rule => rule.action = action).map PolicyRule.maxFires).sum := by
  have hstart : Records ({ rules := allDefaultRules } : PolicyEngine ℚ BuiltinAction) [] :=
    ⟨rfl, fun _ => rfl, fun _ => rfl⟩
  have hrecords := hstart.calls (events.map fun e => .handleEvent e.1 e.2)
  rw [List.foldl_map] at hrecords
  set log := fireAll [] (PolicyEngine.evaluations allDefaultRules
    (events.map fun e => .handleEvent e.1 e.2)) with hlog
  have hmem : ∀ f ∈ log, f.rule ∈ allDefaultRules := fun f hf =>
    rule_mem_of_evaluations ((mem_of_mem_fireAll hf).resolve_left List.not_mem_nil)
  have hnames (f) (hf : f ∈ log) : f.firing.ruleName ∈ rulesOf action ↔ f.rule.action = action := by
    constructor
    · intro hname
      obtain ⟨rule, hrule, hsame⟩ := List.mem_map.mp hname
      obtain ⟨hrule, haction⟩ := List.mem_filter.mp hrule
      obtain rfl := List.inj_on_of_nodup_map nodup_allDefaultRules hrule (hmem f hf) hsame
      exact of_decide_eq_true haction
    · intro haction
      exact List.mem_map_of_mem (List.mem_filter.mpr ⟨hmem f hf, decide_eq_true haction⟩)
  have hfirings : firingsOf action (afterEvents events) =
      (log.filter fun f => f.rule.action = action).map Evaluation.firing := by
    have hlogged : (afterEvents events).firings = log.map Evaluation.firing := hrecords.firings
    rw [firingsOf, hlogged, List.filter_map]
    congr 1
    exact List.filter_congr fun f hf => decide_eq_decide.mpr (hnames f hf)
  rw [hfirings, List.length_map]
  exact fired_le_budget (each_fireAll History.each_nil _) nodup_allDefaultRules hmem
    (fun rule => rule.action = action) fun rule hrule haction =>
      hlimit rule hrule (of_decide_eq_true haction)

/-- **The resets and updates of the built-in rules.** Whatever the events and the clock, at most five cold
resets are asked for, and at most one firmware update. -/
theorem defaultRules_resets (events : List (DeviceEvent × (Nat → Answers ℚ))) :
    (firingsOf .coldReset (afterEvents events)).length ≤ 5 ∧
      (firingsOf .firmwareUpdate (afterEvents events)).length ≤ 1 := by
  have hcold := firingsOf_le .coldReset events (by decide)
  have hupdate := firingsOf_le .firmwareUpdate events (by decide)
  have hfive : ((allDefaultRules.filter fun rule => rule.action = .coldReset).map
    PolicyRule.maxFires).sum = 5 := by decide
  have hone : ((allDefaultRules.filter fun rule => rule.action = .firmwareUpdate).map
    PolicyRule.maxFires).sum = 1 := by decide
  omega

end E2eValidation

end XpuManager
