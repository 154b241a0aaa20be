import XpuManager.Xpumd.StatusRuns

/-! # When the health status processor terminates

A rule whose source metric is its status metric appends to the slice it ranges over. A status data
point that passes the rule's own filters is then evaluated in turn, and so is one of its own status
data points, without end. -/

namespace XpuManager

variable {F : Type} [LE F] [DecidableLE F] {rt : Runtime F} {rule : HealthRule F}
  {parents : Parents} {i j k n : Nat} {metrics : List (Metric F)}

/-! ## Effects -/

/-- What a data point adds, at some order of the ranges, if it does not panic. -/
def PointAdds (rt : Runtime F) (rule : HealthRule F) (parents : Parents) (dp : NumberDataPoint F)
    (group : List (NumberDataPoint F)) : Prop :=
  ∃ n m, statusPointsOf rt matchFiltersRef rule parents dp n = (.ret group, m)

/-- A scope after a rule: the status metric has got what the data points add that the source metric
had before the rule. -/
def ScopeEffect (rt : Runtime F) (rule : HealthRule F) (parents : Parents)
    (sm sm' : ScopeMetrics F) : Prop :=
  match prepare rule sm.metrics with
  | (metrics, none) => sm' = ⟨metrics⟩
  | (metrics, some (i, j)) => ∃ groups,
      List.Forall₂ (PointAdds rt rule parents) (dataPointsAt metrics i) groups ∧
        sm' = ⟨appendDataPoints metrics j groups.flatten⟩

/-- A batch after a rule. -/
def BatchEffect (rt : Runtime F) (rule : HealthRule F) (md md' : Metrics F) : Prop :=
  ∃ scopes, List.Forall₂ (ScopeEffect rt rule (collectParents rule md.scopes)) md.scopes scopes ∧
    md' = md.withScopes scopes

/-- A batch after some rules. -/
def RulesEffect (rt : Runtime F) : List (HealthRule F) → Metrics F → Metrics F → Prop
  | [], md, md' => md' = md
  | rule :: rules, md, md' => ∃ md₁, BatchEffect rt rule md md₁ ∧ RulesEffect rt rules md₁ md'

/-! ## Status data points as source data points -/

/-- The attributes of a status data point with some state; the order of the range does not matter
to what is read from them. -/
def generatedAttrs (rt : Runtime F) (rule : HealthRule F) (attrs : AttrMap) (state : String) :
    AttrMap :=
  (rule.statusAttrs attrs (rt.entries 0 rule.addAttributes)).putStr rule.stateAttribute state

/-- The rule's filters skip a data point with these attributes. -/
def Skipped (rule : HealthRule F) (parents : Parents) (attrs : AttrMap) : Prop :=
  matchFilters rule.componentFilters attrs = false ∨
    rule.matchesParent matchFiltersRef parents attrs = some false

/-- In a scope no source data point panics and, if the rule's source metric is its status metric,
the status data points of an eligible one are skipped. -/
def Settles (rt : Runtime F) (rule : HealthRule F) (parents : Parents)
    (sm : ScopeMetrics F) : Prop :=
  ∀ metrics i j, prepare rule sm.metrics = (metrics, some (i, j)) →
    ∀ dp ∈ dataPointsAt metrics i, ¬ReadsMissing rt rule parents dp ∧
      (rule.sourceMetric = rule.statusMetric → Eligible rule parents dp →
        ∀ s ∈ rule.states, Skipped rule parents (generatedAttrs rt rule dp.attributes s.stateName))

omit [LE F] [DecidableLE F] in
theorem get_generatedAttrs (attrs : AttrMap) (state key : String) :
    (generatedAttrs rt rule attrs state).get key =
      if key = rule.stateAttribute then some (.string state) else rule.derivedAttr attrs key := by
  rw [generatedAttrs, AttrMap.get_putStr, get_statusAttrs]

omit [LE F] [DecidableLE F] in
/-- What is derived from derived attributes is what was derived before. -/
theorem derivedAttr_of_derived {attrs attrs' : AttrMap} {key : String}
    (h : attrs'.get key = rule.derivedAttr attrs key) :
    rule.derivedAttr attrs' key = rule.derivedAttr attrs key := by
  rw [HealthRule.derivedAttr, h, HealthRule.derivedAttr]
  cases rule.addAttributes.lookup key with
  | some val => rfl
  | none =>
    by_cases hkey : key ∈ rule.copyAttributes
    · cases attrs.get key with
      | none => simp
      | some val => simp [hkey, Value.str]
    · simp [hkey]

/-- Filters see no more of attributes than the values of keys. -/
theorem matchFilters_congr {attrs attrs' : AttrMap} (h : ∀ key, attrs'.get key = attrs.get key)
    (filters : List AttributeFilter) : matchFilters filters attrs' = matchFilters filters attrs := by
  have hfilter : ∀ f : AttributeFilter, f.matches attrs' = f.matches attrs := by
    intro f
    rw [AttributeFilter.matches, AttributeFilter.matches, h]
  simp [matchFilters, hfilter]

omit [LE F] [DecidableLE F] in
/-- Nor does the rule's filter on the parent. -/
theorem matchesParent_congr {attrs attrs' : AttrMap} (h : ∀ key, attrs'.get key = attrs.get key)
    (matchParent : ParentMatch) :
    rule.matchesParent matchParent parents attrs' = rule.matchesParent matchParent parents attrs := by
  have hid : rule.parentID attrs' = rule.parentID attrs := by
    rw [HealthRule.parentID, HealthRule.parentID, AttrMap.getStr, AttrMap.getStr, h]
  rw [HealthRule.matchesParent, HealthRule.matchesParent, hid]

omit [LE F] [DecidableLE F] in
theorem skipped_congr {attrs attrs' : AttrMap} (h : ∀ key, attrs'.get key = attrs.get key) :
    Skipped rule parents attrs' ↔ Skipped rule parents attrs := by
  rw [Skipped, Skipped, matchFilters_congr h, matchesParent_congr h]

/-- A skipped data point adds nothing. -/
theorem statusPointsOf_of_skipped {dp : NumberDataPoint F}
    (h : Skipped rule parents dp.attributes) (n : Nat) :
    statusPointsOf rt matchFiltersRef rule parents dp n = (.ret [], n) := by
  rw [statusPointsOf]
  rcases h with hcomponent | hparent
  · rw [if_pos hcomponent]
    rfl
  · split
    · rfl
    · rw [hparent]
      rfl

/-- A data point that adds something does not read the zero map. -/
theorem PointAdds.not_readsMissing {dp : NumberDataPoint F} {group : List (NumberDataPoint F)}
    (h : PointAdds rt rule parents dp group) : ¬ReadsMissing rt rule parents dp := by
  intro hreads
  obtain ⟨n, m, hadds⟩ := h
  rw [statusPointsOf_of_readsMissing hreads] at hadds
  cases hadds

/-- Where the zero map is not read, a data point adds its status group if it is eligible and
nothing otherwise. -/
theorem statusPointsOf_cases (hnames : ∀ s ∈ rule.states, s.stateName ≠ "")
    (hparents : rule.parentMetric = "" → ∀ id, parents.lookup id = none)
    {dp : NumberDataPoint F} (h : ¬ReadsMissing rt rule parents dp) (n : Nat) :
    (Eligible rule parents dp ∧ ∃ value group,
        statusPointsOf rt matchFiltersRef rule parents dp n = (.ret group, n + 2) ∧
          IsStatusGroup rule value (parents.lookup (rule.parentID dp.attributes)) dp group) ∨
      (¬Eligible rule parents dp ∧
        statusPointsOf rt matchFiltersRef rule parents dp n = (.ret [], n)) := by
  rw [statusPointsOf_of_not_readsMissing hparents h]
  by_cases helig : Eligible rule parents dp
  · obtain ⟨value, group, -, hgroup, hspec⟩ :=
      @statusPointsOf_intended F _ _ rt rule parents dp hnames helig n
    exact .inl ⟨helig, value, group, hgroup, hspec⟩
  · exact .inr ⟨helig, statusPointsOf_intended_of_not_eligible helig n⟩

/-- A data point with a value that is neither skipped nor panics is eligible. -/
theorem eligible_of_not_skipped {dp : NumberDataPoint F} (hskip : ¬Skipped rule parents dp.attributes)
    (hreads : ¬ReadsMissing rt rule parents dp) (hvalue : dp.value ≠ .empty) :
    Eligible rule parents dp := by
  have hcomponent : matchFilters rule.componentFilters dp.attributes = true := by
    simpa using fun h => hskip (.inl h)
  refine ⟨hcomponent, ?_, hvalue⟩
  have hnot : rule.matchesParent matchFiltersRef parents dp.attributes ≠ some false :=
    fun h => hskip (.inr h)
  rw [HealthRule.matchesParent] at hnot ⊢
  split
  case isFalse => rfl
  case isTrue href =>
    rw [if_pos href] at hnot
    cases hparent : parents.lookup (rule.parentID dp.attributes) with
    | none =>
      have hnil : rule.parentFilters = [] := by
        by_contra hne
        exact hreads ⟨hcomponent, hparent, .inl ⟨href, hne⟩⟩
      simp [hnil, intendedMatch]
    | some attrs =>
      rw [hparent, matchFiltersRef_some] at hnot
      have hmatch : matchFilters rule.parentFilters attrs = true := by
        cases hm : matchFilters rule.parentFilters attrs with
        | true => rfl
        | false => exact absurd (by rw [hm]) hnot
      simp [intendedMatch, hmatch]

/-! ## Appending -/

omit [LE F] [DecidableLE F] in
theorem getElem?_appendDataPoints (i : Nat) (dps : List (NumberDataPoint F)) :
    (appendDataPoints metrics j dps)[i]? = if j = i then
      (metrics[i]?).map fun m => m.setDataPoints (m.getNumberDatapoints.getD [] ++ dps)
    else metrics[i]? := by
  rw [appendDataPoints, List.getElem?_modify]
  split
  · rfl
  · simp

omit [LE F] [DecidableLE F] in
/-- Appending to another metric leaves a metric alone. -/
theorem dataPointsAt_append_of_ne (h : i ≠ j) (dps : List (NumberDataPoint F)) :
    dataPointsAt (appendDataPoints metrics j dps) i = dataPointsAt metrics i := by
  rw [dataPointsAt, getElem?_appendDataPoints, if_neg (Ne.symm h), dataPointsAt]

omit [LE F] [DecidableLE F] in
/-- Appending to a metric with number data points appends to these. -/
theorem dataPointsAt_append_self
    (h : ((metrics[j]?).bind Metric.getNumberDatapoints).isSome)
    (dps : List (NumberDataPoint F)) :
    dataPointsAt (appendDataPoints metrics j dps) j = dataPointsAt metrics j ++ dps := by
  rw [dataPointsAt, getElem?_appendDataPoints, if_pos rfl, dataPointsAt]
  cases hm : metrics[j]? with
  | none =>
    rw [hm] at h
    cases h
  | some m =>
    rw [hm, Option.bind_some, Metric.getNumberDatapoints] at h
    obtain ⟨old, hold⟩ := Option.isSome_iff_exists.mp h
    simp [Metric.getNumberDatapoints, Metric.setDataPoints, hold]

omit [LE F] [DecidableLE F] in
/-- Appending keeps the metrics that have number data points. -/
theorem isSome_append (dps : List (NumberDataPoint F)) :
    (((appendDataPoints metrics j dps)[i]?).bind Metric.getNumberDatapoints).isSome =
      ((metrics[i]?).bind Metric.getNumberDatapoints).isSome := by
  rw [getElem?_appendDataPoints]
  split
  · cases metrics[i]? with
    | none => rfl
    | some m =>
      simp [Metric.getNumberDatapoints, Metric.setDataPoints]
  · rfl

omit [LE F] [DecidableLE F] in
theorem Metric.setDataPoints_self (m : Metric F) :
    m.setDataPoints (m.getNumberDatapoints.getD []) = m := by
  obtain ⟨name, data⟩ := m
  cases data <;> rfl

omit [LE F] [DecidableLE F] in
@[simp] theorem appendDataPoints_nil : appendDataPoints metrics j [] = metrics := by
  rw [appendDataPoints]
  simp only [List.append_nil, Metric.setDataPoints_self]
  exact List.modify_id _ _

omit [LE F] [DecidableLE F] in
/-- Appending twice appends both. -/
theorem appendDataPoints_append (dps dps' : List (NumberDataPoint F)) :
    appendDataPoints (appendDataPoints metrics j dps) j dps' =
      appendDataPoints metrics j (dps ++ dps') := by
  rw [appendDataPoints, appendDataPoints, List.modify_modify_eq, appendDataPoints]
  congr 1
  funext m
  obtain ⟨name, data⟩ := m
  cases data <;> simp [Metric.setDataPoints, Metric.getNumberDatapoints,
    MetricData.getNumberDatapoints, MetricData.setDataPoints]

omit [LE F] [DecidableLE F] in
/-- Source and status metric of a prepared scope have number data points, and are the same metric
when the rule gives them the same name. -/
theorem prepare_spec {ms : List (Metric F)} (h : prepare rule ms = (metrics, some (i, j))) :
    ((metrics[i]?).bind Metric.getNumberDatapoints).isSome ∧
      ((metrics[j]?).bind Metric.getNumberDatapoints).isSome ∧
        (i = j ↔ rule.sourceMetric = rule.statusMetric) := by
  rw [prepare] at h
  cases hsource : findMetricByName ms rule.sourceMetric with
  | none => simp [hsource] at h
  | some i' =>
    simp only [hsource] at h
    split at h
    case isTrue => simp at h
    case isFalse hi =>
      have hi' : ((ms[i']?).bind Metric.getNumberDatapoints).isSome := by
        simpa [Option.isSome_iff_ne_none] using hi
      obtain ⟨hlt, hname⟩ := List.findIdx?_eq_some_iff_getElem.mp hsource
      cases hstatus : findMetricByName ms rule.statusMetric with
      | some j' =>
        simp only [hstatus] at h
        split at h
        case isTrue => simp at h
        case isFalse hj =>
          obtain ⟨rfl, hij⟩ := Prod.mk.inj h
          obtain ⟨rfl, rfl⟩ := Prod.mk.inj (Option.some_inj.mp hij)
          obtain ⟨hlt', hname', -⟩ := List.findIdx?_eq_some_iff_getElem.mp hstatus
          refine ⟨hi', by simpa [Option.isSome_iff_ne_none] using hj, fun hij => ?_, fun hn => ?_⟩
          · subst hij
            have h₁ : ms[i'].name = rule.sourceMetric := by simpa using hname.1
            have h₂ : ms[i'].name = rule.statusMetric := by simpa using hname'
            rw [← h₁, h₂]
          · rw [hn, hstatus] at hsource
            exact (Option.some_inj.mp hsource).symm
      | none =>
        simp only [hstatus] at h
        split at h
        case isTrue => simp at h
        case isFalse hj =>
          obtain ⟨rfl, hij⟩ := Prod.mk.inj h
          obtain ⟨rfl, rfl⟩ := Prod.mk.inj (Option.some_inj.mp hij)
          refine ⟨?_, by simpa [Option.isSome_iff_ne_none] using hj, fun hij => ?_, fun hn => ?_⟩
          · rwa [List.getElem?_append_left hlt]
          · omega
          · rw [hn, hstatus] at hsource
            cases hsource

/-! ## The loop over the source data points -/

/-- Each group was added by one of the data points. -/
theorem exists_of_mem_groups {ps : List (NumberDataPoint F)}
    {groups : List (List (NumberDataPoint F))}
    (h : List.Forall₂ (PointAdds rt rule parents) ps groups) {group : List (NumberDataPoint F)}
    (hgroup : group ∈ groups) : ∃ dp ∈ ps, PointAdds rt rule parents dp group := by
  induction h with
  | nil => exact absurd hgroup List.not_mem_nil
  | cons hdp _ ih =>
    rcases List.mem_cons.mp hgroup with rfl | hgroup
    · exact ⟨_, List.mem_cons_self, hdp⟩
    · obtain ⟨dp, hmem, hadds⟩ := ih hgroup
      exact ⟨dp, List.mem_cons_of_mem _ hmem, hadds⟩

section Loop

variable (hnames : ∀ s ∈ rule.states, s.stateName ≠ "")
  (hparents : rule.parentMetric = "" → ∀ id, parents.lookup id = none)

include hnames hparents

/-- A data point that does not read the zero map returns what it adds. -/
theorem exists_adds {dp : NumberDataPoint F} (h : ¬ReadsMissing rt rule parents dp) (n : Nat) :
    ∃ group m, statusPointsOf rt matchFiltersRef rule parents dp n = (.ret group, m) := by
  rcases statusPointsOf_cases hnames hparents h n with ⟨-, -, group, hgroup, -⟩ | ⟨-, hnone⟩
  · exact ⟨group, n + 2, hgroup⟩
  · exact ⟨[], n, hnone⟩

/-- **What a status data point carries.** It was added by an eligible data point, has a value and
reads as that point's status data point of one state of the rule. -/
theorem PointAdds.generated {dp : NumberDataPoint F} {group : List (NumberDataPoint F)}
    (h : PointAdds rt rule parents dp group) {p : NumberDataPoint F} (hp : p ∈ group) :
    Eligible rule parents dp ∧ p.value ≠ .empty ∧ ∃ s ∈ rule.states,
      ∀ key, p.attributes.get key = (generatedAttrs rt rule dp.attributes s.stateName).get key := by
  have hnot := h.not_readsMissing
  obtain ⟨n, m, hadds⟩ := h
  rcases statusPointsOf_cases hnames hparents hnot n with
    ⟨helig, value, group', hgroup, hspec⟩ | ⟨-, hnone⟩
  · rw [hgroup] at hadds
    obtain ⟨rfl, -⟩ : group' = group ∧ n + 2 = m := by simpa using hadds
    have hname : p.attributes.getStr rule.stateAttribute ∈
        (rule.states.map (·.stateName)).dedup :=
      hspec.states_perm.mem_iff.mp (List.mem_map_of_mem hp)
    obtain ⟨s, hs, hstate⟩ := List.mem_map.mp (List.mem_dedup.mp hname)
    refine ⟨helig, ?_, s, hs, fun key => ?_⟩
    · rw [hspec.value_eq p hp]
      exact fun h => by cases h
    · rw [get_generatedAttrs]
      split
      case isTrue hkey => rw [hkey, hspec.state_eq p hp, hstate]
      case isFalse hkey => exact hspec.attributes_eq p hp key hkey
  · rw [hnone] at hadds
    obtain ⟨rfl, -⟩ : [] = group ∧ n = m := by simpa using hadds
    exact absurd hp List.not_mem_nil

/-- **Passing over data points.** As long as none of the next data points reads the zero map, the
loop takes one turn for each and appends what they add. -/
theorem exists_turns {ps rest : List (NumberDataPoint F)}
    (hdrop : (dataPointsAt metrics i).drop k = ps ++ rest)
    (hsome : ((metrics[j]?).bind Metric.getNumberDatapoints).isSome)
    (hps : ∀ p ∈ ps, ¬ReadsMissing rt rule parents p) : ∃ groups m,
      List.Forall₂ (PointAdds rt rule parents) ps groups ∧
        Prog.Turns (pointTurn rt matchFiltersRef rule parents i j) ((k, metrics), n)
          ((k + ps.length, appendDataPoints metrics j groups.flatten), m) := by
  induction ps generalizing k metrics n rest with
  | nil => exact ⟨[], n, .nil, by simpa using .refl⟩
  | cons p ps ih =>
    have hnext : (dataPointsAt metrics i)[k]? = some p := by
      rw [← List.head?_drop, hdrop]
      rfl
    obtain ⟨group, n', hgroup⟩ := exists_adds hnames hparents (hps p List.mem_cons_self) n
    have hturn : Prog.Turn (pointTurn rt matchFiltersRef rule parents i j) ((k, metrics), n)
        ((k + 1, appendDataPoints metrics j group), n') := by
      rw [Prog.Turn, pointTurn_of_some hnext, Prog.bind_of_ret hgroup]
      rfl
    have hrest : ∃ rest', (dataPointsAt (appendDataPoints metrics j group) i).drop (k + 1) =
        ps ++ rest' := by
      have htail : (dataPointsAt metrics i).drop (k + 1) = ps ++ rest := by
        rw [← List.drop_drop, hdrop]
        rfl
      by_cases hij : i = j
      · subst hij
        have hlen : k + 1 ≤ (dataPointsAt metrics i).length :=
          (List.getElem?_eq_some_iff.mp hnext).1
        rw [dataPointsAt_append_self hsome, List.drop_append_of_le_length hlen, htail]
        exact ⟨rest ++ group, by rw [List.append_assoc]⟩
      · rw [dataPointsAt_append_of_ne hij]
        exact ⟨rest, htail⟩
    obtain ⟨rest', hdrop'⟩ := hrest
    obtain ⟨groups, m, hadds, hturns⟩ := @ih (k + 1) n' (appendDataPoints metrics j group) rest'
      hdrop' (by rw [isSome_append]; exact hsome) fun q hq => hps q (List.mem_cons_of_mem _ hq)
    refine ⟨group :: groups, m, .cons ⟨n, n', hgroup⟩ hadds, .head hturn ?_⟩
    rw [appendDataPoints_append] at hturns
    rw [List.length_cons, ← Nat.add_assoc, Nat.add_right_comm]
    exact hturns

/-- **A scope that settles is left.** The loop ends, and what was added is what the data points add
that were there before. -/
theorem loop_of_settles {sm : ScopeMetrics F} (hprep : prepare rule sm.metrics = (metrics, some (i, j)))
    (hsettles : Settles rt rule parents sm) (n : Nat) : ∃ fuel groups m,
      List.Forall₂ (PointAdds rt rule parents) (dataPointsAt metrics i) groups ∧
        Prog.loop (pointTurn rt matchFiltersRef rule parents i j) fuel (0, metrics) n =
          (.ret (appendDataPoints metrics j groups.flatten), m) := by
  obtain ⟨-, hsome, hsame⟩ := prepare_spec hprep
  have hps := fun dp hdp => (hsettles metrics i j hprep dp hdp).1
  obtain ⟨groups, m, hadds, hturns⟩ := exists_turns (n := n) (k := 0) hnames hparents
    (List.append_nil (dataPointsAt metrics i)).symm hsome hps
  rw [Nat.zero_add] at hturns
  -- the loop leaves at a state without a next data point
  have hleave : ∀ c ms n', Prog.Turns (pointTurn rt matchFiltersRef rule parents i j)
      ((0, metrics), n) ((c, ms), n') → (dataPointsAt ms i)[c]? = none → ∃ fuel,
        Prog.loop (pointTurn rt matchFiltersRef rule parents i j) fuel (0, metrics) n =
          (.ret ms, n') := by
    intro c ms n' hy hnone
    obtain ⟨d, hd⟩ := Prog.loop_of_turns hy
    have hturn : pointTurn rt matchFiltersRef rule parents i j (c, ms) n' =
        (.ret (.inr ms), n') := by
      rw [pointTurn_of_none hnone]
      rfl
    exact ⟨d + 1, (hd 1).trans (Prog.loop_succ_of_leave hturn)⟩
  by_cases hij : i = j
  · subst hij
    have hpoints := dataPointsAt_append_self hsome groups.flatten
    have hskip : ∀ p ∈ groups.flatten, Skipped rule parents p.attributes := by
      intro p hp
      obtain ⟨group, hgroup, hp⟩ := List.mem_flatten.mp hp
      obtain ⟨dp, hdp, hdpAdds⟩ := exists_of_mem_groups hadds hgroup
      obtain ⟨helig, -, s, hs, hattrs⟩ := hdpAdds.generated hnames hparents hp
      rw [skipped_congr hattrs]
      exact (hsettles metrics i i hprep dp hdp).2 (hsame.mp rfl) helig s hs
    have hfree : ∀ p ∈ groups.flatten, ¬ReadsMissing rt rule parents p := fun p hp =>
      PointAdds.not_readsMissing ⟨0, 0, statusPointsOf_of_skipped (hskip p hp) 0⟩
    have hdrop : (dataPointsAt (appendDataPoints metrics i groups.flatten) i).drop
        (dataPointsAt metrics i).length = groups.flatten ++ [] := by
      rw [hpoints, List.drop_left, List.append_nil]
    obtain ⟨groups', m', hadds', hturns'⟩ := exists_turns (n := m) hnames hparents hdrop
      (by rw [isSome_append]; exact hsome) hfree
    -- skipped data points add nothing
    have hnil : groups'.flatten = [] := by
      rw [List.flatten_eq_nil_iff]
      intro group hgroup
      obtain ⟨p, hp, n₁, n₂, hadd⟩ := exists_of_mem_groups hadds' hgroup
      rw [statusPointsOf_of_skipped (hskip p hp)] at hadd
      exact (by simpa using hadd : [] = group ∧ n₁ = n₂).1.symm
    rw [hnil, appendDataPoints_nil] at hturns'
    obtain ⟨fuel, hfuel⟩ := hleave _ _ _ (hturns.trans hturns') (by
      rw [hpoints, List.getElem?_eq_none]
      rw [List.length_append])
    exact ⟨fuel, groups, m', hadds, hfuel⟩
  · obtain ⟨fuel, hfuel⟩ := hleave _ _ _ hturns (by
      rw [dataPointsAt_append_of_ne hij, List.getElem?_eq_none]
      exact Nat.le_refl _)
    exact ⟨fuel, groups, m, hadds, hfuel⟩

omit hnames hparents in
/-- **What a loop has done when it returns.** Every data point of the source metric, as it is then,
has added its group. -/
theorem exists_groups_of_loop (hsome : ((metrics[j]?).bind Metric.getNumberDatapoints).isSome)
    {fuel m : Nat} {final : List (Metric F)}
    (h : Prog.loop (pointTurn rt matchFiltersRef rule parents i j) fuel (0, metrics) n =
      (.ret final, m)) : ∃ groups,
      List.Forall₂ (PointAdds rt rule parents) (dataPointsAt final i) groups ∧
        final = appendDataPoints metrics j groups.flatten := by
  -- the first `c` data points have added their groups when the loop comes to the next one
  let Passed : (Nat × List (Metric F)) → Nat → Prop := fun y _ => ∃ groups,
    List.Forall₂ (PointAdds rt rule parents) ((dataPointsAt y.2 i).take y.1) groups ∧
      y.2 = appendDataPoints metrics j groups.flatten
  have hloop : Prog.wp (Prog.loop (pointTurn rt matchFiltersRef rule parents i j) fuel (0, metrics))
      (fun o _ => ∀ final, o = .ret final → ∃ groups,
        List.Forall₂ (PointAdds rt rule parents) (dataPointsAt final i) groups ∧
          final = appendDataPoints metrics j groups.flatten) n := by
    refine Prog.loop_induct (I := Passed) ?_ ?_ ?_ ?_ ?_ ⟨[], by simp, by simp⟩
    · intro _ _ _ final hfinal
      cases hfinal
    · rintro ⟨c, ms⟩ n' y n'' ⟨groups, hadds, hms⟩ hturn
      cases hdp : (dataPointsAt ms i)[c]? with
      | none =>
        rw [pointTurn_of_none hdp] at hturn
        cases hturn
      | some dp =>
        rw [pointTurn_of_some hdp] at hturn
        obtain ⟨group, u, hgroup, hpure⟩ := Prog.bind_eq_ret_iff.mp hturn
        obtain ⟨rfl, rfl⟩ : (c + 1, appendDataPoints ms j group) = y ∧ u = n'' := by
          simpa using hpure
        have hlt : c < (dataPointsAt ms i).length := (List.getElem?_eq_some_iff.mp hdp).1
        have htake : ((dataPointsAt (appendDataPoints ms j group) i).take (c + 1)) =
            (dataPointsAt ms i).take c ++ [dp] := by
          have hold : (dataPointsAt ms i).take (c + 1) = (dataPointsAt ms i).take c ++ [dp] := by
            rw [List.take_add_one, hdp]
            rfl
          by_cases hij : i = j
          · subst hij
            have hsome' : ((ms[i]?).bind Metric.getNumberDatapoints).isSome := by
              rw [show ms = appendDataPoints metrics i groups.flatten from hms, isSome_append]
              exact hsome
            rw [dataPointsAt_append_self hsome', List.take_append_of_le_length hlt, hold]
          · rw [dataPointsAt_append_of_ne hij, hold]
        refine ⟨groups ++ [group], ?_, ?_⟩
        · change List.Forall₂ _ ((dataPointsAt (appendDataPoints ms j group) i).take (c + 1)) _
          rw [htake]
          exact List.rel_append hadds (.cons ⟨n', u, hgroup⟩ .nil)
        · change appendDataPoints ms j group = _
          rw [show ms = appendDataPoints metrics j groups.flatten from hms,
            appendDataPoints_append]
          simp
    · rintro ⟨c, ms⟩ n' a n'' ⟨groups, hadds, hms⟩ hturn final hfinal
      obtain rfl : a = final := by simpa using hfinal
      cases hdp : (dataPointsAt ms i)[c]? with
      | some dp =>
        rw [pointTurn_of_some hdp] at hturn
        obtain ⟨group, u, -, hpure⟩ := Prog.bind_eq_ret_iff.mp hturn
        cases hpure
      | none =>
        rw [pointTurn_of_none hdp] at hturn
        obtain ⟨rfl, -⟩ : ms = a ∧ n' = n'' := by simpa using hturn
        have hle : (dataPointsAt ms i).length ≤ c := List.getElem?_eq_none_iff.mp hdp
        rw [show (dataPointsAt (c, ms).2 i).take (c, ms).1 = dataPointsAt ms i from
          List.take_of_length_le hle] at hadds
        exact ⟨groups, hadds, hms⟩
    · intro _ _ _ _ _ final hfinal
      cases hfinal
    · intro _ _ _ _ _ final hfinal
      cases hfinal
  rw [Prog.wp_of_eq h] at hloop
  exact hloop final rfl

/-- **A status data point that is evaluated adds another one.** If a status data point is not
skipped, neither is one of those it adds. -/
theorem exists_not_skipped {dp p : NumberDataPoint F} {group group' : List (NumberDataPoint F)}
    (hdp : PointAdds rt rule parents dp group) (hp : p ∈ group) (hadds : PointAdds rt rule parents p group')
    (hskip : ¬Skipped rule parents p.attributes) :
    ∃ q ∈ group', ¬Skipped rule parents q.attributes := by
  obtain ⟨-, hvalue, s, hs, hattrs⟩ := hdp.generated hnames hparents hp
  have hnot := hadds.not_readsMissing
  have helig := eligible_of_not_skipped hskip hnot hvalue
  obtain ⟨n, m, hret⟩ := hadds
  rcases statusPointsOf_cases hnames hparents hnot n with ⟨-, value, g, hg, hspec⟩ | ⟨hno, -⟩
  · rw [hg] at hret
    obtain ⟨rfl, -⟩ : g = group' ∧ n + 2 = m := by simpa using hret
    -- the one with the same state reads the same
    have hmem : s.stateName ∈ g.map fun q => q.attributes.getStr rule.stateAttribute :=
      hspec.states_perm.mem_iff.mpr (List.mem_dedup.mpr (List.mem_map_of_mem hs))
    obtain ⟨q, hq, hstate⟩ := List.mem_map.mp hmem
    refine ⟨q, hq, fun hskipq => hskip ((skipped_congr fun key => ?_).mp hskipq)⟩
    rw [hattrs key, get_generatedAttrs]
    split
    case isTrue hkey => rw [hkey, hspec.state_eq q hq, hstate]
    case isFalse hkey =>
      rw [hspec.attributes_eq q hq key hkey, derivedAttr_of_derived]
      rw [hattrs key, get_generatedAttrs, if_neg hkey]
  · exact absurd helig hno

open Classical in
/-- **A scope that is left settles.** Were a status data point of the rule evaluated, the loop would
meet one more of them for each it has met. -/
theorem settles_of_loop {sm : ScopeMetrics F} (hprep : prepare rule sm.metrics = (metrics, some (i, j)))
    {fuel m : Nat} {final : List (Metric F)}
    (h : Prog.loop (pointTurn rt matchFiltersRef rule parents i j) fuel (0, metrics) n =
      (.ret final, m)) : Settles rt rule parents sm := by
  intro metrics' i' j' hprep' dp hdp
  rw [hprep] at hprep'
  obtain ⟨rfl, hij'⟩ := Prod.mk.inj hprep'
  obtain ⟨rfl, rfl⟩ := Prod.mk.inj (Option.some_inj.mp hij')
  obtain ⟨-, hsome, hsame⟩ := prepare_spec hprep
  obtain ⟨groups, hadds, rfl⟩ := exists_groups_of_loop hsome h
  by_cases hij : i = j
  · subst hij
    rw [dataPointsAt_append_self hsome] at hadds
    obtain ⟨gs, gs', hold, hnew, rfl⟩ : ∃ gs gs',
        List.Forall₂ (PointAdds rt rule parents) (dataPointsAt metrics i) gs ∧
          List.Forall₂ (PointAdds rt rule parents) groups.flatten gs' ∧ groups = gs ++ gs' := by
      refine ⟨groups.take (dataPointsAt metrics i).length,
        groups.drop (dataPointsAt metrics i).length, ?_, ?_, (List.take_append_drop _ _).symm⟩
      · simpa using List.forall₂_take (dataPointsAt metrics i).length hadds
      · simpa using List.forall₂_drop (dataPointsAt metrics i).length hadds
    let live : NumberDataPoint F → Bool := fun p => decide (¬Skipped rule parents p.attributes)
    have hmore : ∀ {ps : List (NumberDataPoint F)} {gs : List (List (NumberDataPoint F))},
        List.Forall₂ (PointAdds rt rule parents) ps gs →
        (∀ p ∈ ps, ∃ q group, PointAdds rt rule parents q group ∧ p ∈ group) →
        ps.countP live ≤ gs.flatten.countP live := by
      intro ps gs hps hsource
      induction hps with
      | nil => exact Nat.le_refl _
      | @cons p group ps gs hp _ ih =>
        have hrest := ih fun q hq => hsource q (List.mem_cons_of_mem _ hq)
        rw [List.flatten_cons, List.countP_append, List.countP_cons]
        split
        case isTrue hlive =>
          obtain ⟨q, g, hq, hpg⟩ := hsource p List.mem_cons_self
          obtain ⟨r, hr, hskip⟩ := exists_not_skipped hnames hparents hq hpg hp
            (by simpa [live] using hlive)
          have hpos : 0 < group.countP live :=
            List.countP_pos_iff.mpr ⟨r, hr, by simpa [live] using hskip⟩
          omega
        case isFalse => omega
    have hcount := hmore hnew fun p hp => by
      obtain ⟨group, hgroup, hp⟩ := List.mem_flatten.mp hp
      rcases List.mem_append.mp hgroup with hgroup | hgroup
      · obtain ⟨q, -, hq⟩ := exists_of_mem_groups hold hgroup
        exact ⟨q, group, hq, hp⟩
      · obtain ⟨q, -, hq⟩ := exists_of_mem_groups hnew hgroup
        exact ⟨q, group, hq, hp⟩
    rw [List.flatten_append, List.countP_append] at hcount
    have hzero : gs.flatten.countP live = 0 := by omega
    obtain ⟨k, hk, rfl⟩ := List.mem_iff_getElem.mp hdp
    have hk' : k < gs.length := by
      rw [← hold.length_eq]
      exact hk
    have hadd : PointAdds rt rule parents _ _ := hold.get hk hk'
    refine ⟨hadd.not_readsMissing, fun _ helig s hs => ?_⟩
    have hnot := hadd.not_readsMissing
    obtain ⟨n₁, n₂, hret⟩ := hadd
    rcases statusPointsOf_cases hnames hparents hnot n₁ with
      ⟨-, value, g, hg, hspec⟩ | ⟨hno, -⟩
    · rw [hg] at hret
      obtain ⟨rfl, -⟩ : g = _ ∧ n₁ + 2 = n₂ := by simpa using hret
      have hmem : s.stateName ∈ (gs.get ⟨k, hk'⟩).map
          fun q => q.attributes.getStr rule.stateAttribute :=
        hspec.states_perm.mem_iff.mpr (List.mem_dedup.mpr (List.mem_map_of_mem hs))
      obtain ⟨q, hq, hstate⟩ := List.mem_map.mp hmem
      have hdead := List.countP_eq_zero.mp hzero q
        (List.mem_flatten.mpr ⟨_, List.get_mem _ _, hq⟩)
      refine (skipped_congr fun key => ?_).mp (by simpa [live] using hdead)
      rw [get_generatedAttrs]
      split
      case isTrue hkey => rw [hkey, hspec.state_eq q hq, hstate]
      case isFalse hkey => exact hspec.attributes_eq q hq key hkey
    · exact absurd helig hno
  · rw [dataPointsAt_append_of_ne hij] at hadds
    obtain ⟨k, hk, rfl⟩ := List.mem_iff_getElem.mp hdp
    have hk' : k < groups.length := by
      rw [← hadds.length_eq]
      exact hk
    exact ⟨(hadds.get hk hk').not_readsMissing, fun hname => absurd (hsame.mpr hname) hij⟩

end Loop

/-! ## Scopes and batches -/

/-- **A scope is left exactly when it settles.** -/
theorem updateMetrics_of_settles (hnames : ∀ s ∈ rule.states, s.stateName ≠ "")
    (hparents : rule.parentMetric = "" → ∀ id, parents.lookup id = none) {sm : ScopeMetrics F}
    (h : Settles rt rule parents sm) (n : Nat) : ∃ fuel sm' m,
      updateMetrics rt matchFiltersRef fuel rule parents sm n = (.ret sm', m) ∧
        ScopeEffect rt rule parents sm sm' := by
  rcases hprep : prepare rule sm.metrics with ⟨metrics, _ | ⟨i, j⟩⟩
  · refine ⟨0, ⟨metrics⟩, n, ?_, ?_⟩
    · rw [updateMetrics, hprep]
      rfl
    · rw [ScopeEffect, hprep]
  · obtain ⟨fuel, groups, m, hadds, hloop⟩ := loop_of_settles hnames hparents hprep h n
    refine ⟨fuel, ⟨appendDataPoints metrics j groups.flatten⟩, m, ?_, ?_⟩
    · rw [updateMetrics, hprep]
      exact Prog.bind_of_ret hloop
    · rw [ScopeEffect, hprep]
      exact ⟨groups, hadds, rfl⟩

/-- A scope that was left settles. -/
theorem settles_of_updateMetrics (hnames : ∀ s ∈ rule.states, s.stateName ≠ "")
    (hparents : rule.parentMetric = "" → ∀ id, parents.lookup id = none)
    {fuel m : Nat} {sm sm' : ScopeMetrics F}
    (h : updateMetrics rt matchFiltersRef fuel rule parents sm n = (.ret sm', m)) :
    Settles rt rule parents sm := by
  rcases hprep : prepare rule sm.metrics with ⟨metrics, _ | ⟨i, j⟩⟩
  · intro metrics' i j hprep'
    rw [hprep] at hprep'
    cases hprep'
  · rw [updateMetrics, hprep] at h
    obtain ⟨final, m', hloop, -⟩ := Prog.bind_eq_ret_iff.mp h
    exact settles_of_loop hnames hparents hprep hloop

/-- Scopes that settle are left, one after the other. -/
theorem mapList_of_settles (hnames : ∀ s ∈ rule.states, s.stateName ≠ "")
    (hparents : rule.parentMetric = "" → ∀ id, parents.lookup id = none)
    {scopes : List (ScopeMetrics F)} (h : ∀ sm ∈ scopes, Settles rt rule parents sm) (n : Nat) :
    ∃ fuel scopes' m,
      Prog.mapList (updateMetrics rt matchFiltersRef fuel rule parents) scopes n = (.ret scopes', m) ∧
        List.Forall₂ (ScopeEffect rt rule parents) scopes scopes' := by
  induction scopes generalizing n with
  | nil => exact ⟨0, [], n, rfl, .nil⟩
  | cons sm scopes ih =>
    obtain ⟨fuel, sm', m, hsm, heffect⟩ :=
      updateMetrics_of_settles hnames hparents (h sm List.mem_cons_self) n
    obtain ⟨fuel', scopes', m', hrest, heffects⟩ :=
      ih (fun sm' hsm' => h sm' (List.mem_cons_of_mem _ hsm')) m
    refine ⟨fuel + fuel', sm' :: scopes', m', ?_, .cons heffect heffects⟩
    refine Prog.mapList_cons_eq_ret_iff.mpr ⟨sm', m, scopes', updateMetrics_add hsm, ?_, rfl⟩
    rw [Nat.add_comm]
    exact Prog.mapList_of_ret (fun _ _ _ _ hret => updateMetrics_add hret) hrest

/-- Scopes that were left settle. -/
theorem settles_of_mapList (hnames : ∀ s ∈ rule.states, s.stateName ≠ "")
    (hparents : rule.parentMetric = "" → ∀ id, parents.lookup id = none) {fuel m : Nat}
    {scopes scopes' : List (ScopeMetrics F)}
    (h : Prog.mapList (updateMetrics rt matchFiltersRef fuel rule parents) scopes n =
      (.ret scopes', m)) : ∀ sm ∈ scopes, Settles rt rule parents sm := by
  induction scopes generalizing n scopes' with
  | nil => exact fun sm hsm => absurd hsm List.not_mem_nil
  | cons sm scopes ih =>
    obtain ⟨a, t, bs, hsm, hrest, -⟩ := Prog.mapList_cons_eq_ret_iff.mp h
    intro sm' hsm'
    rcases List.mem_cons.mp hsm' with rfl | hsm'
    · exact settles_of_updateMetrics hnames hparents hsm
    · exact ih hrest sm' hsm'

/-- All scopes of a batch settle under a rule. -/
def AllSettle (rt : Runtime F) (rule : HealthRule F) (md : Metrics F) : Prop :=
  ∀ sm ∈ md.scopes, Settles rt rule (collectParents rule md.scopes) sm

/-- A batch that returns does so with more fuel as well. -/
theorem process_add {fuel : Nat} {md md' : Metrics F} {m : Nat}
    (h : process rt matchFiltersRef fuel rule md n = (.ret md', m)) (k : Nat) :
    process rt matchFiltersRef (fuel + k) rule md n = (.ret md', m) := by
  obtain ⟨scopes, u, hscopes, hpure⟩ := Prog.bind_eq_ret_iff.mp h
  exact Prog.bind_eq_ret_iff.mpr
    ⟨scopes, u, Prog.mapList_of_ret (fun _ _ _ _ hret => updateMetrics_add hret) hscopes, hpure⟩

theorem processMetrics_add {fuel : Nat} {rules : List (HealthRule F)} {md md' : Metrics F}
    {n m : Nat} (h : processMetrics rt matchFiltersRef fuel rules md n = (.ret md', m)) (k : Nat) :
    processMetrics rt matchFiltersRef (fuel + k) rules md n = (.ret md', m) := by
  induction rules generalizing md n with
  | nil => exact h
  | cons rule rules ih =>
    obtain ⟨md₁, u, hprocess, hrest⟩ := Prog.bind_eq_ret_iff.mp h
    exact Prog.bind_eq_ret_iff.mpr ⟨md₁, u, process_add hprocess k, ih hrest⟩

/-- **A rule returns on a batch whose scopes all settle**, with the effect it is to have. -/
theorem process_of_allSettle (hvalid : rule.validate = .ok ()) {md : Metrics F}
    (h : AllSettle rt rule md) (n : Nat) : ∃ fuel md' m,
      process rt matchFiltersRef fuel rule md n = (.ret md', m) ∧ BatchEffect rt rule md md' := by
  obtain ⟨fuel, scopes, m, hret, heffects⟩ := mapList_of_settles (stateName_ne_of_validate hvalid)
    (fun hempty => lookup_collectParents_of_empty hempty md.scopes) h n
  exact ⟨fuel, md.withScopes scopes, m, Prog.bind_of_ret hret, scopes, heffects, rfl⟩

/-- A batch on which a rule returns has scopes that all settle. -/
theorem allSettle_of_process (hvalid : rule.validate = .ok ()) {fuel m : Nat} {md md' : Metrics F}
    (h : process rt matchFiltersRef fuel rule md n = (.ret md', m)) : AllSettle rt rule md := by
  obtain ⟨scopes, u, hret, -⟩ := Prog.bind_eq_ret_iff.mp h
  exact settles_of_mapList (stateName_ne_of_validate hvalid)
    (fun hempty => lookup_collectParents_of_empty hempty md.scopes) hret

/-! ## All rules -/

/-- **When the rules terminate.** For every valid configuration, batch and order of ranges: the
rules return on the batch, every status data point derived from one that was there before its rule
started, if and only if in the batch before each rule all scopes settle under it. -/
theorem processMetrics_terminates_iff (rt : Runtime F) {rules : List (HealthRule F)}
    (hvalid : validateConfig rules = .ok ()) (md : Metrics F) (n : Nat) :
    (∃ fuel md' m, processMetrics rt matchFiltersRef fuel rules md n = (.ret md', m) ∧
      RulesEffect rt rules md md') ↔
      ∀ before rule after, rules = before ++ rule :: after → ∀ fuel md' m,
        processMetrics rt matchFiltersRef fuel before md n = (.ret md', m) →
          AllSettle rt rule md' := by
  have hrules := of_forM_wrapError hvalid
  constructor
  · rintro ⟨fuel, final, m, hret, -⟩ before rule after hsplit fuel' md' m' hbefore
    have hrule : rule.validate = .ok () := hrules rule (by rw [hsplit]; simp)
    rw [hsplit] at hret
    clear hsplit hrules hvalid
    induction before generalizing md n with
    | nil =>
      obtain ⟨rfl, rfl⟩ : md = md' ∧ n = m' := by simpa [processMetrics] using hbefore
      obtain ⟨md₁, u, hprocess, -⟩ := Prog.bind_eq_ret_iff.mp hret
      exact allSettle_of_process hrule hprocess
    | cons r before ih =>
      obtain ⟨md₁, u, hprocess, hrest⟩ := Prog.bind_eq_ret_iff.mp hret
      obtain ⟨md₂, u', hprocess', hrest'⟩ := Prog.bind_eq_ret_iff.mp hbefore
      -- with the fuel of both runs the first rule gives the same batch
      have hsame := (process_add hprocess fuel').symm.trans
        (Nat.add_comm fuel' fuel ▸ process_add hprocess' fuel)
      obtain ⟨rfl, rfl⟩ : md₁ = md₂ ∧ u = u' := by simpa using hsame
      exact ih md₁ u hrest hrest'
  · intro h
    induction rules generalizing md n with
    | nil => exact ⟨0, md, n, rfl, rfl⟩
    | cons rule rules ih =>
      have hfirst := h [] rule rules rfl 0 md n rfl
      obtain ⟨fuel, md₁, m, hprocess, heffect⟩ :=
        process_of_allSettle (hrules rule List.mem_cons_self) hfirst n
      have hvalid' : validateConfig rules = .ok () := by
        rw [validateConfig, List.forM_eq_forM, List.forM_cons, hrules rule List.mem_cons_self]
          at hvalid
        exact hvalid
      obtain ⟨fuel', md', m', hrest, heffects⟩ := ih hvalid' md₁ m
        (fun r hr => hrules r (List.mem_cons_of_mem _ hr))
        fun before r after hsplit k md' m' hbefore =>
          h (rule :: before) r after (by rw [hsplit]; rfl) (fuel + k) md' m'
            (Prog.bind_eq_ret_iff.mpr ⟨md₁, m, process_add hprocess k,
              Nat.add_comm k fuel ▸ processMetrics_add hbefore fuel⟩)
      refine ⟨fuel + fuel', md', m', Prog.bind_eq_ret_iff.mpr ⟨md₁, m,
        process_add hprocess fuel', ?_⟩, md₁, heffect, heffects⟩
      rw [Nat.add_comm]
      exact processMetrics_add hrest fuel

/-! ## A rule that feeds itself -/

/-- A rule on the status metric itself: it is valid, source and status metric have one name. -/
def selfFeedingRule : HealthRule ℤ := { temperatureRule [] with sourceMetric := "hw.status" }

/-- A batch with one status data point. -/
def statusBatch : Metrics ℤ := [⟨[⟨[⟨"hw.status", .gauge [hotPoint]⟩]⟩]⟩]

/-- The status data points of the rule pass the rule's own filters. -/
theorem not_allSettle_selfFeeding : ¬AllSettle sampleRuntime selfFeedingRule statusBatch := by
  intro h
  have hsettles := h ⟨[⟨"hw.status", .gauge [hotPoint]⟩]⟩ List.mem_cons_self
  obtain ⟨-, hskip⟩ := hsettles [⟨"hw.status", .gauge [hotPoint]⟩] 0 0 rfl hotPoint
    List.mem_cons_self
  rcases hskip rfl ⟨rfl, rfl, by decide⟩ ⟨[], "ok"⟩ List.mem_cons_self with hcomponent | hparent
  · exact absurd hcomponent (by decide)
  · exact absurd hparent (by decide)

/-- **A valid rule can run forever.** -/
theorem processMetrics_runs_forever :
    ¬∀ rules : List (HealthRule ℤ), validateConfig rules = .ok () → ∀ md n, ∃ fuel md' m,
      processMetrics sampleRuntime matchFiltersRef fuel rules md n = (.ret md', m) := by
  intro h
  obtain ⟨fuel, md', m, hret⟩ := h [selfFeedingRule] rfl statusBatch 0
  obtain ⟨md₁, u, hprocess, -⟩ := Prog.bind_eq_ret_iff.mp hret
  exact not_allSettle_selfFeeding (@allSettle_of_process ℤ _ _ _ selfFeedingRule _ rfl _ _ _ _ hprocess)

/-- A rule on another metric returns, with the effect it is to have. -/
theorem processMetrics_terminates_iff_sample :
    validateConfig [temperatureRule []] = .ok () ∧ ∃ fuel md' m,
      processMetrics sampleRuntime matchFiltersRef fuel [temperatureRule []] temperatureBatch 0 =
        (.ret md', m) ∧ RulesEffect sampleRuntime [temperatureRule []] temperatureBatch md' := by
  refine ⟨rfl, (processMetrics_terminates_iff sampleRuntime rfl temperatureBatch 0).mpr ?_⟩
  intro before rule after hsplit fuel md' m hbefore
  cases before with
  | cons r before => simp at hsplit
  | nil =>
    obtain ⟨rfl, -⟩ := List.cons_eq_cons.mp hsplit
    obtain ⟨rfl, -⟩ : temperatureBatch = md' ∧ 0 = m := by simpa [processMetrics] using hbefore
    refine fun sm _ metrics i j _ dp _ => ⟨?_, fun hname => absurd hname (by decide)⟩
    exact temperatureRule_not_readsMissing _ dp

end XpuManager
