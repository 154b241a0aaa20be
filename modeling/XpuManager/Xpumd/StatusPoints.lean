import Mathlib.Data.List.Dedup
import XpuManager.Xpumd.StatusProcessor

/-! # The status data points of one source data point

What the status processor adds for one data point of a source metric, against what it is meant to
add. A point whose parent is unknown makes the code read the zero map as soon as a filter on the
parent is looked at; it was meant to fail such a filter, and a rule without parent metric was meant
not to filter parents at all. -/

namespace XpuManager

variable {F : Type} [LE F] [DecidableLE F] {rt : Runtime F} {rule : HealthRule F}
  {parents : Parents} {dp : NumberDataPoint F} {matchParent : ParentMatch} {value : F}
  {parentAttrs : MapRef}

/-! ## What is meant -/

/-- The intended match of filters on a parent: without parent metric nothing is filtered, and an
unknown parent fails every filter. -/
def intendedMatch (rule : HealthRule F) : ParentMatch := fun filters parentAttrs =>
  some (rule.parentMetric = "" || match parentAttrs with
    | none => filters.isEmpty
    | some attrs => matchFilters filters attrs)

/-- Whether a condition is meant to hold. -/
def ConditionRule.holds (rule : HealthRule F) (value : F) (parentAttrs : MapRef)
    (c : ConditionRule F) : Bool :=
  c.value ≤ value && (intendedMatch rule c.parentFilters parentAttrs).getD false

/-- Whether a state rule is meant to apply: it has no conditions, or one that holds. -/
def StateRule.meantToApply (rule : HealthRule F) (value : F) (parentAttrs : MapRef)
    (s : StateRule F) : Bool :=
  s.conditions.isEmpty || s.conditions.any (·.holds rule value parentAttrs)

/-- The state of the last rule that is meant to apply. -/
def HealthRule.activeState (rule : HealthRule F) (value : F) (parentAttrs : MapRef) :
    Option String :=
  ((rule.states.filter (·.meantToApply rule value parentAttrs)).getLast?).map (·.stateName)

/-- A source data point that is meant to be evaluated: it matches the component and the parent
filters and has a value. -/
def Eligible (rule : HealthRule F) (parents : Parents) (dp : NumberDataPoint F) : Prop :=
  matchFilters rule.componentFilters dp.attributes = true ∧
    rule.matchesParent (intendedMatch rule) parents dp.attributes = some true ∧
      dp.value ≠ .empty

omit [LE F] [DecidableLE F] in
theorem value_eq_none_iff {v : NumberValue F} : rt.value v = none ↔ v = .empty := by
  cases v <;> simp [Runtime.value]

/-! ## The zero map -/

/-- At a value, the first condition that reaches its threshold has filters on the parent. -/
def StateRule.ReadsParent (value : F) (s : StateRule F) : Prop :=
  ∃ c, s.conditions.find? (fun c => c.value ≤ value) = some c ∧ c.parentFilters ≠ []

/-- A data point makes the code read the zero map: it passes the component filters, its parent is
unknown, and the rule or a condition that is looked at has filters on the parent. -/
def ReadsMissing (rt : Runtime F) (rule : HealthRule F) (parents : Parents)
    (dp : NumberDataPoint F) : Prop :=
  matchFilters rule.componentFilters dp.attributes = true ∧
    parents.lookup (rule.parentID dp.attributes) = none ∧
      (rule.parentRefAttribute ≠ "" ∧ rule.parentFilters ≠ [] ∨
        ∃ value, rt.value dp.value = some value ∧ ∃ s ∈ rule.states, s.ReadsParent value)

/-! ## Conditions -/

/-- Filters that can be matched without a panic decide each condition. -/
theorem anyMatches_eq_some_any {cs : List (ConditionRule F)} {matched : List AttributeFilter → Bool}
    (h : ∀ filters, matchParent filters parentAttrs = some (matched filters)) :
    anyMatches matchParent value parentAttrs cs =
      some (cs.any fun c => c.value ≤ value && matched c.parentFilters) := by
  induction cs with
  | nil => rfl
  | cons c cs ih =>
    rw [anyMatches, ConditionRule.matches, List.any_cons]
    by_cases hle : c.value ≤ value
    · rw [if_pos hle, h, Option.bind_some]
      cases matched c.parentFilters with
      | true => simp [hle]
      | false => simpa [hle] using ih
    · rw [if_neg hle, Option.bind_some]
      simpa [hle] using ih

/-- With an unknown parent the first condition that reaches its threshold decides: it holds if it
has no filters, and panics otherwise. -/
theorem anyMatches_none {cs : List (ConditionRule F)} :
    anyMatches matchFiltersRef value none cs =
      match cs.find? (fun c => c.value ≤ value) with
      | none => some false
      | some c => if c.parentFilters = [] then some true else none := by
  induction cs with
  | nil => rfl
  | cons c cs ih =>
    rw [anyMatches, ConditionRule.matches, List.find?_cons]
    by_cases hle : c.value ≤ value
    · simp only [hle, if_true, decide_true, matchFiltersRef_none]
      by_cases hnil : c.parentFilters = []
      · simp [hnil]
      · simp [hnil]
    · simp only [hle, if_false, decide_false, Option.bind_some, Bool.false_eq_true]
      exact ih

/-- The intended match decides whether a state rule is meant to apply. -/
theorem applies_intended (s : StateRule F) :
    s.applies (intendedMatch rule) value parentAttrs =
      some (s.meantToApply rule value parentAttrs) := by
  rw [StateRule.applies, StateRule.meantToApply]
  split
  case isTrue hnil => simp [hnil]
  case isFalse hne =>
    rw [anyMatches_eq_some_any fun _ => rfl]
    simp [hne, ConditionRule.holds, intendedMatch]

/-- The code matches a known parent as intended. -/
theorem applies_known (hparent : rule.parentMetric ≠ "") (attrs : AttrMap) (s : StateRule F) :
    s.applies matchFiltersRef value (some attrs) =
      s.applies (intendedMatch rule) value (some attrs) := by
  rw [StateRule.applies, StateRule.applies, anyMatches_eq_some_any (matchFiltersRef_some · attrs),
    anyMatches_eq_some_any fun _ => rfl]
  simp [hparent]

/-- With an unknown parent, the code panics in a state rule that reads the parent. -/
theorem applies_unknown_of_reads {s : StateRule F} (h : s.ReadsParent value) :
    s.applies matchFiltersRef value none = none := by
  obtain ⟨c, hfind, hne⟩ := h
  have hcs : s.conditions ≠ [] := by
    intro hnil
    rw [hnil] at hfind
    cases hfind
  rw [StateRule.applies, if_neg hcs, anyMatches_none, hfind]
  simp [hne]

/-- With an unknown parent, the code decides any other state rule as intended. -/
theorem applies_unknown_of_not_reads {s : StateRule F} (h : ¬s.ReadsParent value) :
    s.applies matchFiltersRef value none = s.applies (intendedMatch rule) value none := by
  rw [applies_intended, StateRule.applies, StateRule.meantToApply]
  split
  case isTrue hnil => simp [hnil]
  case isFalse hne =>
    rw [anyMatches_none]
    cases hfind : s.conditions.find? (fun c => c.value ≤ value) with
    | none =>
      have hall := List.find?_eq_none.mp hfind
      have hany : s.conditions.any (·.holds rule value none) = false := by
        rw [List.any_eq_false]
        intro c hc
        have := hall c hc
        simp_all [ConditionRule.holds]
      simp [hne, hany]
    | some c =>
      have hnil : c.parentFilters = [] := by
        by_contra hfilters
        exact h ⟨c, hfind, hfilters⟩
      have hle : c.value ≤ value := by simpa using List.find?_some hfind
      have hany : s.conditions.any (·.holds rule value none) = true := by
        rw [List.any_eq_true]
        exact ⟨c, List.mem_of_find?_eq_some hfind, by
          simp [ConditionRule.holds, intendedMatch, hle, hnil]⟩
      simp [hnil, hany]

/-! ## States -/

/-- The loop over state rules panics as soon as one of them does. -/
theorem foldlM_evaluateRule_of_panic {rules : List (StateRule F)}
    (h : ∃ r ∈ rules, r.applies matchParent value parentAttrs = none)
    (acc : (AList fun _ : String => UInt64) × String) :
    rules.foldlM (evaluateRule matchParent value parentAttrs) acc = none := by
  induction rules generalizing acc with
  | nil =>
    obtain ⟨r, hr, -⟩ := h
    exact absurd hr List.not_mem_nil
  | cons r rules ih =>
    rw [List.foldlM_cons, evaluateRule]
    obtain ⟨r', hr', hpanic⟩ := h
    rcases List.mem_cons.mp hr' with rfl | hr'
    · rw [hpanic]
      rfl
    · cases r.applies matchParent value parentAttrs with
      | none => rfl
      | some ok => exact ih ⟨r', hr', hpanic⟩ _

/-- The loop over state rules that all decide collects their states, and the last one to apply. -/
theorem foldlM_evaluateRule {rules : List (StateRule F)} {decided : StateRule F → Bool}
    (h : ∀ r ∈ rules, r.applies matchParent value parentAttrs = some (decided r))
    (acc : (AList fun _ : String => UInt64) × String) :
    rules.foldlM (evaluateRule matchParent value parentAttrs) acc =
      some (rules.foldl (fun states r => states.insert r.stateName 0) acc.1,
        (((rules.filter decided).getLast?).map (·.stateName)).getD acc.2) := by
  induction rules generalizing acc with
  | nil => rfl
  | cons r rules ih =>
    rw [List.foldlM_cons, evaluateRule, h r List.mem_cons_self, Option.map_some]
    simp only [Option.bind_eq_bind, Option.bind_some]
    rw [ih fun r' hr' => h r' (List.mem_cons_of_mem _ hr'), List.foldl_cons, List.filter_cons]
    cases decided r with
    | false => rfl
    | true =>
      cases hrest : rules.filter decided with
      | nil => rfl
      | cons r' rest => simp [List.getLast?_cons]

omit [LE F] [DecidableLE F] in
/-- The states set to 0 are those of the rules. -/
theorem lookup_foldl_insert_zero {rules : List (StateRule F)} (name : String)
    (states : AList fun _ : String => UInt64) :
    (rules.foldl (fun states r => states.insert r.stateName 0) states).lookup name =
      if name ∈ rules.map (·.stateName) then some 0 else states.lookup name := by
  induction rules generalizing states with
  | nil => rfl
  | cons r rules ih =>
    rw [List.foldl_cons, ih, List.map_cons]
    by_cases hrest : name ∈ rules.map (·.stateName)
    · rw [if_pos hrest, if_pos (List.mem_cons_of_mem _ hrest)]
    · by_cases hr : name = r.stateName
      · subst hr
        simp [hrest, AList.lookup_insert]
      · rw [if_neg hrest, AList.lookup_insert_ne hr, if_neg (by simp_all)]

/-- **The states of a value.** When every state rule decides, the states are those of the rules:
1 for the last rule that applies, 0 for the others; a name that occurs twice does not matter. -/
theorem evaluateStates_eq_some (hnames : ∀ s ∈ rule.states, s.stateName ≠ "")
    {decided : StateRule F → Bool}
    (h : ∀ s ∈ rule.states, s.applies matchParent value parentAttrs = some (decided s)) :
    ∃ states, evaluateStates matchParent rule value parentAttrs = some states ∧
      ∀ name, states.lookup name = if name ∈ rule.states.map (·.stateName) then
        some (if ((rule.states.filter decided).getLast?).map (·.stateName) = some name then 1 else 0)
      else none := by
  rw [evaluateStates, foldlM_evaluateRule h, Option.map_some]
  refine ⟨_, rfl, fun name => ?_⟩
  have hzero := @lookup_foldl_insert_zero F rule.states name ∅
  cases hactive : ((rule.states.filter decided).getLast?).map (·.stateName) with
  | none =>
    simp only [Option.getD_none, ne_eq, not_true_eq_false, if_false]
    rw [hzero]
    simp
  | some active =>
    obtain ⟨s, hs, rfl⟩ := Option.map_eq_some_iff.mp hactive
    have hmem : s ∈ rule.states := List.mem_of_mem_filter (List.mem_of_getLast? hs)
    simp only [Option.getD_some, ne_eq, hnames s hmem, not_false_eq_true, if_true]
    by_cases hname : name = s.stateName
    · subst hname
      rw [AList.lookup_insert, if_pos (List.mem_map_of_mem hmem)]
      simp
    · rw [AList.lookup_insert_ne hname, hzero]
      simp [Ne.symm hname]

/-! ## Ranges over maps -/

section Range

variable {V : Type}

omit [LE F] [DecidableLE F] in
/-- A range visits entries of the map. -/
theorem lookup_of_mem_entries {n : Nat} {m : AList fun _ : String => V} {kv : String × V}
    (h : kv ∈ rt.entries n m) : m.lookup kv.1 = some kv.2 := by
  obtain ⟨key, -, hkey⟩ := List.mem_filterMap.mp h
  obtain ⟨v, hv, rfl⟩ := Option.map_eq_some_iff.mp hkey
  exact hv

omit [LE F] [DecidableLE F] in
/-- A range visits every key once. -/
theorem entries_keys_perm (n : Nat) (m : AList fun _ : String => V) :
    ((rt.entries n m).map Prod.fst).Perm m.keys := by
  have hkeys : ∀ keys : List String, (∀ key ∈ keys, key ∈ m) →
      (keys.filterMap fun key => (m.lookup key).map fun v => (key, v)).map Prod.fst = keys := by
    intro keys hmem
    induction keys with
    | nil => rfl
    | cons key keys ih =>
      obtain ⟨v, hv⟩ := Option.isSome_iff_exists.mp
        (AList.lookup_isSome.mpr (hmem key List.mem_cons_self))
      rw [List.filterMap_cons, hv, Option.map_some, List.map_cons,
        ih fun k hk => hmem k (List.mem_cons_of_mem _ hk)]
  rw [Runtime.entries, hkeys _ fun key hkey =>
    AList.mem_keys.mp ((rt.keyOrder_perm n m.keys).mem_iff.mp hkey)]
  exact rt.keyOrder_perm n m.keys

end Range

/-! ## Attributes of status data points -/

/-- The attributes of a status data point other than its state: those added by the rule, and those
it copies, as strings. -/
def HealthRule.derivedAttr (rule : HealthRule F) (attrs : AttrMap) (key : String) : Option Value :=
  match rule.addAttributes.lookup key with
  | some val => some (.string val)
  | none =>
    if key ∈ rule.copyAttributes then (attrs.get key).map fun val => .string val.str else none

omit [LE F] [DecidableLE F] in
/-- The attributes after the copying loop. -/
theorem get_foldl_copy (attrs : AttrMap) (keys : List String) (m : AttrMap) (key : String) :
    (keys.foldl (copyAttribute attrs) m).get key =
      if key ∈ keys then ((attrs.get key).map fun val => Value.string val.str).or (m.get key)
      else m.get key := by
  induction keys generalizing m with
  | nil => rfl
  | cons k keys ih =>
    rw [List.foldl_cons, ih, copyAttribute]
    by_cases hk : key = k
    · subst hk
      cases attrs.get key with
      | none => simp
      | some val => simp [AttrMap.get_putStr]
    · cases attrs.get k with
      | none => simp [hk]
      | some val => simp [AttrMap.get_putStr, hk]

omit [LE F] [DecidableLE F] in
/-- The attributes after the loop over the texts that are put. -/
theorem get_foldl_putStr {vals : String → Option String} {added : List (String × String)}
    (h : ∀ kv ∈ added, vals kv.1 = some kv.2) (m : AttrMap) (key : String) :
    (added.foldl (fun m kv => m.putStr kv.1 kv.2) m).get key =
      if key ∈ added.map Prod.fst then (vals key).map Value.string else m.get key := by
  induction added generalizing m with
  | nil => rfl
  | cons kv added ih =>
    rw [List.foldl_cons, ih fun kv hkv => h kv (List.mem_cons_of_mem _ hkv), AttrMap.get_putStr,
      List.map_cons]
    have hkv := h kv List.mem_cons_self
    by_cases hrest : key ∈ added.map Prod.fst
    · rw [if_pos hrest, if_pos (List.mem_cons_of_mem _ hrest)]
    · by_cases hkey : key = kv.1
      · subst hkey
        simp [hrest, hkv]
      · rw [if_neg hrest, if_neg hkey, if_neg (by simp_all)]

omit [LE F] [DecidableLE F] in
/-- **The attributes of a status data point** do not depend on the order of the range. -/
theorem get_statusAttrs (n : Nat) (attrs : AttrMap) (key : String) :
    (rule.statusAttrs attrs (rt.entries n rule.addAttributes)).get key =
      rule.derivedAttr attrs key := by
  have hadded := @get_foldl_putStr (fun key => rule.addAttributes.lookup key)
    (rt.entries n rule.addAttributes) fun kv hkv => lookup_of_mem_entries hkv
  rw [HealthRule.statusAttrs, hadded, HealthRule.copied, get_foldl_copy, HealthRule.derivedAttr]
  have hmem : key ∈ (rt.entries n rule.addAttributes).map Prod.fst ↔ key ∈ rule.addAttributes :=
    (entries_keys_perm n rule.addAttributes).mem_iff
  cases hlookup : rule.addAttributes.lookup key with
  | none =>
    have hnot : key ∉ rule.addAttributes := AList.lookup_eq_none.mp hlookup
    rw [if_neg (mt hmem.mp hnot)]
    cases attrs.get key <;> simp [AttrMap.get]
  | some val =>
    have hkey : key ∈ rule.addAttributes := AList.lookup_isSome.mp (by simp [hlookup])
    rw [if_pos (hmem.mpr hkey)]
    rfl

/-! ## One source data point -/

/-- The status data points one evaluated source data point adds: one for each state name of the
rule, with the point's timestamp and the derived attributes, and 1 for the active state only. -/
structure IsStatusGroup (rule : HealthRule F) (value : F) (parentAttrs : MapRef)
    (dp : NumberDataPoint F) (group : List (NumberDataPoint F)) : Prop where
  states_perm : (group.map fun p => p.attributes.getStr rule.stateAttribute).Perm
    (rule.states.map (·.stateName)).dedup
  state_eq : ∀ p ∈ group, p.attributes.get rule.stateAttribute =
    some (.string (p.attributes.getStr rule.stateAttribute))
  timestamp_eq : ∀ p ∈ group, p.timestamp = dp.timestamp
  value_eq : ∀ p ∈ group, p.value = .int
    (if rule.activeState value parentAttrs = some (p.attributes.getStr rule.stateAttribute)
      then 1 else 0)
  attributes_eq : ∀ p ∈ group, ∀ key, key ≠ rule.stateAttribute →
    p.attributes.get key = rule.derivedAttr dp.attributes key

/-- **A point that reads the zero map panics.** -/
theorem statusPointsOf_of_readsMissing (h : ReadsMissing rt rule parents dp) (n : Nat) :
    statusPointsOf rt matchFiltersRef rule parents dp n = (.fault, n) := by
  obtain ⟨hcomponent, hparent, hreads⟩ := h
  rw [statusPointsOf, if_neg (by simp [hcomponent]), HealthRule.matchesParent, hparent,
    matchFiltersRef_none]
  by_cases hrule : rule.parentRefAttribute ≠ "" ∧ rule.parentFilters ≠ []
  · rw [if_pos hrule.1, if_neg hrule.2]
    rfl
  · have hok : (if rule.parentRefAttribute ≠ "" then
        if rule.parentFilters = [] then some true else none else some true) = some true := by
      split
      case isTrue href =>
        have hnil : rule.parentFilters = [] := by
          by_contra hne
          exact hrule ⟨href, hne⟩
        rw [if_pos hnil]
      case isFalse => rfl
    obtain ⟨value, hvalue, s, hs, hstate⟩ := hreads.resolve_left hrule
    have hnone : evaluateStates matchFiltersRef rule value none = none := by
      rw [evaluateStates, foldlM_evaluateRule_of_panic ⟨s, hs, applies_unknown_of_reads hstate⟩]
      rfl
    rw [hok]
    simp [hvalue, hnone]

/-- **Any other point is treated as intended.** -/
theorem statusPointsOf_of_not_readsMissing
    (hparents : rule.parentMetric = "" → ∀ id, parents.lookup id = none)
    (h : ¬ReadsMissing rt rule parents dp) :
    statusPointsOf rt matchFiltersRef rule parents dp =
      statusPointsOf rt (intendedMatch rule) rule parents dp := by
  rw [statusPointsOf, statusPointsOf]
  by_cases hcomponent : matchFilters rule.componentFilters dp.attributes = false
  · rw [if_pos hcomponent, if_pos hcomponent]
  rw [if_neg hcomponent, if_neg hcomponent]
  have hcongr : ∀ value, (∀ s ∈ rule.states,
      s.applies matchFiltersRef value (parents.lookup (rule.parentID dp.attributes)) =
        s.applies (intendedMatch rule) value (parents.lookup (rule.parentID dp.attributes))) →
      evaluateStates matchFiltersRef rule value (parents.lookup (rule.parentID dp.attributes)) =
        evaluateStates (intendedMatch rule) rule value
          (parents.lookup (rule.parentID dp.attributes)) := by
    intro value happlies
    have hdecided : ∀ s ∈ rule.states, _ = some _ :=
      fun s hs => (happlies s hs).trans (applies_intended s)
    rw [evaluateStates, evaluateStates, foldlM_evaluateRule hdecided,
      foldlM_evaluateRule fun s _ => applies_intended s]
  cases hparent : parents.lookup (rule.parentID dp.attributes) with
  | some attrs =>
    -- a known parent
    have hmetric : rule.parentMetric ≠ "" := by
      intro hnil
      rw [hparents hnil] at hparent
      cases hparent
    have hmatch : rule.matchesParent matchFiltersRef parents dp.attributes =
        rule.matchesParent (intendedMatch rule) parents dp.attributes := by
      simp [HealthRule.matchesParent, hparent, intendedMatch, hmetric]
    rw [hparent] at hcongr
    have hstates := fun value => hcongr value fun s _ => applies_known hmetric attrs s
    rw [hmatch]
    simp only [hstates]
  | none =>
    have hnotRule : ¬(rule.parentRefAttribute ≠ "" ∧ rule.parentFilters ≠ []) :=
      fun hrule => h ⟨by simpa using hcomponent, hparent, .inl hrule⟩
    have hmatch : ∀ m : ParentMatch, m [] none = some true →
        rule.matchesParent m parents dp.attributes = some true := by
      intro m hm
      rw [HealthRule.matchesParent, hparent]
      split
      case isTrue href =>
        have hnil : rule.parentFilters = [] := by
          by_contra hne
          exact hnotRule ⟨href, hne⟩
        rw [hnil, hm]
      case isFalse => rfl
    rw [hmatch _ rfl, hmatch (intendedMatch rule) (by simp [intendedMatch])]
    cases hvalue : rt.value dp.value with
    | none => rfl
    | some value =>
      rw [hparent] at hcongr
      have hstates := hcongr value fun s hs => applies_unknown_of_not_reads fun hreads =>
        h ⟨by simpa using hcomponent, hparent, .inr ⟨value, hvalue, s, hs, hreads⟩⟩
      simp only [hstates]

/-- **A point that is not eligible adds nothing.** -/
theorem statusPointsOf_intended_of_not_eligible (h : ¬Eligible rule parents dp) (n : Nat) :
    statusPointsOf rt (intendedMatch rule) rule parents dp n = (.ret [], n) := by
  rw [statusPointsOf]
  split
  case isTrue => rfl
  case isFalse hcomponent =>
    have hdecides : ∃ ok, rule.matchesParent (intendedMatch rule) parents dp.attributes =
        some ok := by
      rw [HealthRule.matchesParent]
      split
      · exact ⟨_, rfl⟩
      · exact ⟨true, rfl⟩
    obtain ⟨ok, hok⟩ := hdecides
    rw [hok]
    cases ok with
    | false => rfl
    | true =>
      have hempty : dp.value = .empty := by
        by_contra hne
        exact h ⟨by simpa using hcomponent, hok, hne⟩
      rw [hempty]
      rfl

/-- **An eligible point adds its status group.** -/
theorem statusPointsOf_intended (hnames : ∀ s ∈ rule.states, s.stateName ≠ "")
    (h : Eligible rule parents dp) (n : Nat) : ∃ value group,
      rt.value dp.value = some value ∧
      statusPointsOf rt (intendedMatch rule) rule parents dp n = (.ret group, n + 2) ∧
      IsStatusGroup rule value (parents.lookup (rule.parentID dp.attributes)) dp group := by
  obtain ⟨hcomponent, hparent, hvalue⟩ := h
  obtain ⟨value, hsome⟩ := Option.ne_none_iff_exists'.mp (mt value_eq_none_iff.mp hvalue)
  generalize hattrs : parents.lookup (rule.parentID dp.attributes) = parentAttrs
  obtain ⟨states, hstates, hlookup⟩ := @evaluateStates_eq_some F _ _ rule (intendedMatch rule)
    value parentAttrs hnames _ fun s _ => applies_intended s
  refine ⟨value, (rt.entries (n + 1) states).map fun kv =>
    ⟨(rule.statusAttrs dp.attributes (rt.entries n rule.addAttributes)).putStr
      rule.stateAttribute kv.1, dp.timestamp, .int kv.2.toInt64⟩, hsome, ?_, ?_⟩
  · rw [statusPointsOf, if_neg (by simp [hcomponent]), hparent]
    simp [hsome, hattrs, hstates, rangeMap, createHealthMetric]
  · have hstate : ∀ (m : AttrMap) (name : String),
        (m.putStr rule.stateAttribute name).getStr rule.stateAttribute = name := by
      intro m name
      simp [AttrMap.getStr, AttrMap.get_putStr, Value.str]
    refine ⟨?_, ?_, ?_, ?_, ?_⟩
    · rw [List.map_map]
      have hfst : ((fun p : NumberDataPoint F => p.attributes.getStr rule.stateAttribute) ∘
          fun kv : String × UInt64 =>
            (⟨(rule.statusAttrs dp.attributes (rt.entries n rule.addAttributes)).putStr
              rule.stateAttribute kv.1, dp.timestamp, .int kv.2.toInt64⟩ : NumberDataPoint F)) =
          Prod.fst := by
        funext kv
        exact hstate _ _
      rw [hfst]
      refine (entries_keys_perm (n + 1) states).trans ?_
      rw [List.perm_ext_iff_of_nodup states.keys_nodup (List.nodup_dedup _)]
      intro name
      rw [List.mem_dedup, ← AList.mem_keys, ← AList.lookup_isSome, hlookup name]
      split <;> simp_all
    · intro p hp
      obtain ⟨kv, -, rfl⟩ := List.mem_map.mp hp
      simp only [hstate]
      rw [AttrMap.get_putStr, if_pos rfl]
    · intro p hp
      obtain ⟨kv, -, rfl⟩ := List.mem_map.mp hp
      rfl
    · intro p hp
      obtain ⟨kv, hkv, rfl⟩ := List.mem_map.mp hp
      have hval := lookup_of_mem_entries hkv
      rw [hlookup kv.1] at hval
      simp only [hstate]
      rw [HealthRule.activeState]
      split at hval
      case isTrue =>
        rw [← Option.some_inj.mp hval]
        split <;> simp_all
      case isFalse => cases hval
    · intro p hp key hkey
      obtain ⟨kv, -, rfl⟩ := List.mem_map.mp hp
      simp only [AttrMap.get_putStr, if_neg hkey]
      exact get_statusAttrs n dp.attributes key

end XpuManager
