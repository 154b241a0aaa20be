import XpuManager.Xpumd.StatusPoints

/-! # Runs of the health status processor

What one rule does on a batch, at every data point its loops come to. -/

namespace XpuManager

variable {F : Type} [LE F] [DecidableLE F] {rt : Runtime F} {matchParent : ParentMatch}
  {rule : HealthRule F} {parents : Parents} {i j n : Nat} {md : Metrics F}

/-! ## Turns -/

/-- The loop ends when no data point is left. -/
theorem pointTurn_of_none {x : Nat × List (Metric F)} (h : (dataPointsAt x.2 i)[x.1]? = none) :
    pointTurn rt matchParent rule parents i j x = pure (.inr x.2) := by
  rw [pointTurn, h]

/-- A turn adds the status data points of the next data point and goes on. -/
theorem pointTurn_of_some {x : Nat × List (Metric F)} {dp : NumberDataPoint F}
    (h : (dataPointsAt x.2 i)[x.1]? = some dp) :
    pointTurn rt matchParent rule parents i j x =
      statusPointsOf rt matchParent rule parents dp >>= fun dps =>
        pure (.inl (x.1 + 1, appendDataPoints x.2 j dps)) := by
  rw [pointTurn, h]

/-- A scope that returns does so with more fuel as well. -/
theorem updateMetrics_add {fuel k : Nat} {sm sm' : ScopeMetrics F} {m : Nat}
    (h : updateMetrics rt matchParent fuel rule parents sm n = (.ret sm', m)) :
    updateMetrics rt matchParent (fuel + k) rule parents sm n = (.ret sm', m) := by
  rw [updateMetrics] at h ⊢
  rcases hprep : prepare rule sm.metrics with ⟨metrics, _ | ⟨i, j⟩⟩
  · rwa [hprep] at h
  · rw [hprep] at h
    obtain ⟨metrics', m', hloop, hpure⟩ := Prog.bind_eq_ret_iff.mp h
    have hne : ∀ t, Prog.loop (pointTurn rt matchParent rule parents i j) fuel (0, metrics) n ≠
        (.cut, t) := by
      intro t ht
      rw [hloop] at ht
      cases ht
    exact Prog.bind_eq_ret_iff.mpr
      ⟨metrics', m', (Prog.loop_add_of_ne_cut hne k).trans hloop, hpure⟩

/-! ## What is visited -/

/-- On a batch, the loop over the `i`-th metric of the scope behind the scopes `before`, which adds to
the `j`-th one, comes to the state `x`: the index of the next data point, the metrics of the scope and
the ranges so far. The scopes before it have returned. -/
def VisitsIn (rt : Runtime F) (matchParent : ParentMatch) (rule : HealthRule F) (md : Metrics F)
    (n : Nat) (before : List (ScopeMetrics F)) (i j : Nat) (x : (Nat × List (Metric F)) × Nat) : Prop :=
  ∃ sm after fuel done m metrics, md.scopes = before ++ sm :: after ∧
    Prog.mapList (updateMetrics rt matchParent fuel rule (collectParents rule md.scopes)) before n =
      (.ret done, m) ∧
    prepare rule sm.metrics = (metrics, some (i, j)) ∧
    Prog.Turns (pointTurn rt matchParent rule (collectParents rule md.scopes) i j)
      ((0, metrics), m) x

/-- The same for some scope of the batch. -/
def Visits (rt : Runtime F) (matchParent : ParentMatch) (rule : HealthRule F) (md : Metrics F)
    (n i j : Nat) (x : (Nat × List (Metric F)) × Nat) : Prop :=
  ∃ before, VisitsIn rt matchParent rule md n before i j x

/-- On a batch, some loop comes to the data point `dp`. -/
def VisitsPoint (rt : Runtime F) (matchParent : ParentMatch) (rule : HealthRule F)
    (md : Metrics F) (n : Nat) (dp : NumberDataPoint F) : Prop :=
  ∃ i j x, Visits rt matchParent rule md n i j x ∧ (dataPointsAt x.1.2 i)[x.1.1]? = some dp

omit [LE F] [DecidableLE F] in
/-- Without parent metric no parent is known. -/
theorem lookup_collectParents_of_empty (h : rule.parentMetric = "")
    (scopes : List (ScopeMetrics F)) (id : String) :
    (collectParents rule scopes).lookup id = none := by
  have hscope : collectParentMetadata rule = fun parents (_ : ScopeMetrics F) => parents := by
    funext parents sm
    rw [collectParentMetadata, if_pos h]
  rw [collectParents, hscope]
  induction scopes with
  | nil => rfl
  | cons sm scopes ih => exact ih

/-- A visited data point that reads the zero map makes the run fault, with fuel enough. -/
theorem process_faults_of_visits {dp : NumberDataPoint F}
    (h : VisitsPoint rt matchFiltersRef rule md n dp)
    (hreads : ReadsMissing rt rule (collectParents rule md.scopes) dp) :
    ∃ fuel, (process rt matchFiltersRef fuel rule md n).1 = .fault := by
  obtain ⟨i, j, x, ⟨before, sm, after, fuel, done, m, metrics, hscopes, hbefore, hprep, hturns⟩,
    hdp⟩ := h
  obtain ⟨k, hk⟩ := Prog.loop_of_turns hturns
  have hturn : pointTurn rt matchFiltersRef rule (collectParents rule md.scopes) i j x.1 x.2 =
      (.fault, x.2) := by
    rw [pointTurn_of_some hdp]
    exact Prog.bind_of_fault (statusPointsOf_of_readsMissing hreads x.2)
  refine ⟨fuel + (k + 1), ?_⟩
  have hloop : Prog.loop (pointTurn rt matchFiltersRef rule (collectParents rule md.scopes) i j)
      (fuel + (k + 1)) (0, metrics) m = (.fault, x.2) := by
    rw [show fuel + (k + 1) = k + (fuel + 1) by omega, hk (fuel + 1),
      Prog.loop_succ_of_fault hturn]
  have hscope : updateMetrics rt matchFiltersRef (fuel + (k + 1)) rule
      (collectParents rule md.scopes) sm m = (.fault, x.2) := by
    rw [updateMetrics, hprep]
    exact Prog.bind_of_fault hloop
  have hprefix := Prog.mapList_of_ret (fun _ _ _ _ hret => updateMetrics_add hret)
    hbefore (g := updateMetrics rt matchFiltersRef (fuel + (k + 1)) rule
      (collectParents rule md.scopes))
  have hall : processScopes rt matchFiltersRef (fuel + (k + 1)) rule md.scopes n =
      (.fault, x.2) := by
    rw [processScopes]
    generalize hps : collectParents rule md.scopes = ps at hprefix hscope
    rw [hscopes, Prog.mapList_append_of_ret hprefix, Prog.mapList,
      Prog.bind_of_fault (Prog.bind_of_fault hscope)]
  rw [process, Prog.bind_of_fault hall]

/-! ## The zero map -/

/-- The states of a value are always known when filters are matched as intended. -/
theorem evaluateStates_intended (value : F) (parentAttrs : MapRef) : ∃ states,
    evaluateStates (intendedMatch rule) rule value parentAttrs = some states := by
  rw [evaluateStates, foldlM_evaluateRule fun s _ => applies_intended s]
  exact ⟨_, rfl⟩

/-- What is meant to happen to one data point never faults. -/
theorem statusPointsOf_intended_faultless (dp : NumberDataPoint F) :
    Prog.Faultless (statusPointsOf rt (intendedMatch rule) rule parents dp) := by
  have hrange : ∀ {V : Type} (m : AList fun _ : String => V), Prog.Faultless (rangeMap rt m) :=
    fun _ _ h => by cases h
  by_cases helig : Eligible rule parents dp
  · obtain ⟨hcomponent, hparent, hvalue⟩ := helig
    obtain ⟨value, hsome⟩ :=
      Option.ne_none_iff_exists'.mp (mt (@value_eq_none_iff F rt _).mp hvalue)
    obtain ⟨states, hstates⟩ := @evaluateStates_intended F _ _ rule value
      (parents.lookup (rule.parentID dp.attributes))
    rw [statusPointsOf, if_neg (by simp [hcomponent]), hparent]
    simp only [Prog.ofOption_some, Prog.pure_bind, hsome, hstates, Bool.true_eq_false, if_false]
    exact Prog.Faultless.bind (hrange _) fun _ =>
      Prog.Faultless.bind (hrange _) fun _ => Prog.Faultless.pure _
  · intro m
    rw [statusPointsOf_intended_of_not_eligible helig]
    exact fun h => by cases h

/-- **What is meant to happen never faults.** -/
theorem process_intended_faultless (fuel : Nat) :
    Prog.Faultless (process rt (intendedMatch rule) fuel rule md) := by
  refine Prog.Faultless.bind (Prog.Faultless.mapList (fun sm => ?_) md.scopes) fun _ =>
    Prog.Faultless.pure _
  rw [updateMetrics]
  rcases prepare rule sm.metrics with ⟨metrics, _ | ⟨i, j⟩⟩
  · exact Prog.Faultless.pure _
  · refine Prog.Faultless.bind (Prog.Faultless.loop (fun x => ?_) fuel _) fun _ =>
      Prog.Faultless.pure _
    rcases hdp : (dataPointsAt x.2 i)[x.1]? with _ | dp
    · rw [pointTurn_of_none hdp]
      exact Prog.Faultless.pure _
    · rw [pointTurn_of_some hdp]
      exact Prog.Faultless.bind (statusPointsOf_intended_faultless dp) fun _ =>
        Prog.Faultless.pure _

/-- A turn at a data point that does not read the zero map is as intended. -/
theorem pointTurn_eq_intended {x : Nat × List (Metric F)}
    (h : ∀ dp, (dataPointsAt x.2 i)[x.1]? = some dp →
      ¬ReadsMissing rt rule (collectParents rule md.scopes) dp) :
    pointTurn rt (intendedMatch rule) rule (collectParents rule md.scopes) i j x =
      pointTurn rt matchFiltersRef rule (collectParents rule md.scopes) i j x := by
  rcases hdp : (dataPointsAt x.2 i)[x.1]? with _ | dp
  · rw [pointTurn_of_none hdp, pointTurn_of_none hdp]
  · rw [pointTurn_of_some hdp, pointTurn_of_some hdp, statusPointsOf_of_not_readsMissing
      (fun hempty => lookup_collectParents_of_empty hempty md.scopes) (h dp hdp)]

/-- **The zero map is never read.** For every rule, batch and order of ranges: no run of the rule
on the batch panics, and each does what is meant, if and only if none of the data points its loops
come to reads the zero map. -/
theorem process_intended_iff (rt : Runtime F) (rule : HealthRule F) (md : Metrics F) (n : Nat) :
    (∀ fuel, (process rt matchFiltersRef fuel rule md n).1 ≠ .fault ∧
      process rt matchFiltersRef fuel rule md n =
        process rt (intendedMatch rule) fuel rule md n) ↔
      ∀ dp, VisitsPoint rt matchFiltersRef rule md n dp →
        ¬ReadsMissing rt rule (collectParents rule md.scopes) dp := by
  constructor
  · intro h dp hdp hreads
    obtain ⟨fuel, hfault⟩ := process_faults_of_visits hdp hreads
    exact (h fuel).1 hfault
  · intro h fuel
    have hsame : process rt matchFiltersRef fuel rule md n =
        process rt (intendedMatch rule) fuel rule md n := by
      have hscopes : processScopes rt (intendedMatch rule) fuel rule md.scopes n =
          processScopes rt matchFiltersRef fuel rule md.scopes n := by
        refine Prog.mapList_congr fun before sm after done m hsplit hbefore => ?_
        rw [updateMetrics, updateMetrics]
        rcases hprep : prepare rule sm.metrics with ⟨metrics, _ | ⟨i, j⟩⟩
        · rfl
        · have hloop : Prog.loop
              (pointTurn rt (intendedMatch rule) rule (collectParents rule md.scopes) i j)
                fuel (0, metrics) m =
              Prog.loop (pointTurn rt matchFiltersRef rule (collectParents rule md.scopes) i j)
                fuel (0, metrics) m := by
            refine Prog.loop_congr_of_turns fun y hy => ?_
            rw [pointTurn_eq_intended fun dp hdp => h dp ⟨i, j, y,
              ⟨before, sm, after, fuel, done, m, metrics, hsplit, hbefore, hprep, hy⟩, hdp⟩]
          change Prog.bind _ _ _ = Prog.bind _ _ _
          rw [Prog.bind, hloop, Prog.bind]
      change Prog.bind _ _ _ = Prog.bind _ _ _
      rw [Prog.bind, ← hscopes, Prog.bind]
    exact ⟨by rw [hsame]; exact process_intended_faultless fuel n, hsame⟩

/-! ## Status groups -/

omit [LE F] [DecidableLE F] in
/-- A loop of checks that succeeded found every element valid. -/
theorem of_forM_wrapError {α : Type} {l : List α} {place : α → String}
    {check : α → Except String Unit}
    (h : (l.forM fun a => wrapError (place a) (check a)) = .ok ()) : ∀ a ∈ l, check a = .ok () := by
  induction l with
  | nil => exact fun a ha => absurd ha List.not_mem_nil
  | cons b l ih =>
    rw [List.forM_eq_forM, List.forM_cons] at h
    intro a ha
    cases hb : check b with
    | error err =>
      rw [hb] at h
      cases h
    | ok u =>
      rw [hb] at h
      rcases List.mem_cons.mp ha with rfl | ha
      · exact hb
      · exact ih h a ha

/-- The names of the states of a valid rule are not empty. -/
theorem stateName_ne_of_validate (h : rule.validate = .ok ()) :
    ∀ s ∈ rule.states, s.stateName ≠ "" := by
  rw [HealthRule.validate] at h
  split at h
  · cases h
  split at h
  · cases h
  split at h
  · cases h
  cases hstates : rule.states.forM fun t => wrapError "invalid state rule" t.validate with
  | error err =>
    rw [hstates] at h
    cases h
  | ok u =>
    intro s hs hname
    have hs' := of_forM_wrapError hstates s hs
    rw [StateRule.validate, if_pos hname] at hs'
    cases hs'

/-! ## A crash -/

/-- Integers for `float64`, and ranges in the order of insertion. -/
def sampleRuntime : Runtime ℤ := ⟨Int64.toInt, fun _ keys => keys, fun _ _ => List.Perm.refl _⟩

/-- A rule without parent metric: a temperature from 90 on is critical, under a filter. -/
def temperatureRule (filters : List AttributeFilter) : HealthRule ℤ where
  name := "temperature"
  sourceMetric := "hw.temperature"
  parentMetric := ""
  statusMetric := "hw.status"
  parentRefAttribute := "hw.parent"
  parentIDAttribute := "hw.id"
  stateAttribute := "hw.state"
  copyAttributes := []
  addAttributes := ∅
  componentFilters := []
  parentFilters := []
  states := [⟨[], "ok"⟩, ⟨[⟨90, filters⟩], "critical"⟩]

/-- The rule with a filter on the model of the parent. -/
def filteredRule : HealthRule ℤ := temperatureRule [⟨"hw.model", ["A"]⟩]

/-- A temperature of 100. -/
def hotPoint : NumberDataPoint ℤ := ⟨[("hw.parent", .string "gpu0")], 7, .int 100⟩

/-- A batch with one temperature. -/
def temperatureBatch : Metrics ℤ := [⟨[⟨[⟨"hw.temperature", .gauge [hotPoint]⟩]⟩]⟩]

/-- Without filters the temperature rule has nothing to read from the zero map. -/
theorem temperatureRule_not_readsMissing (parents : Parents) (dp : NumberDataPoint ℤ) :
    ¬ReadsMissing sampleRuntime (temperatureRule []) parents dp := by
  rintro ⟨-, -, ⟨-, hne⟩ | ⟨value, -, s, hs, c, hfind, hne⟩⟩
  · exact hne rfl
  · have hc := List.mem_of_find?_eq_some hfind
    have hstates : s ∈ [(⟨[], "ok"⟩ : StateRule ℤ), ⟨[⟨90, []⟩], "critical"⟩] := hs
    simp only [List.mem_cons, List.not_mem_nil, or_false] at hstates
    rcases hstates with rfl | rfl
    · cases hc
    · rw [List.mem_singleton.mp hc] at hne
      exact hne rfl

/-- **A filter without a parent crashes the run.** -/
theorem process_panics :
    ¬∀ rule : HealthRule ℤ, rule.validate = .ok () → ∀ md n fuel,
      (process sampleRuntime matchFiltersRef fuel rule md n).1 ≠ .fault := by
  intro h
  exact h filteredRule rfl temperatureBatch 0 1 (by decide)

end XpuManager
