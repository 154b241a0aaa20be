import XpuManager.Xpumd.StatusTermination

/-! # Every source data point has its status group

The source data points of a scope are those of the first metric of the source name: the ones of the
batch and, where that is the status metric too, those that the loop appends to it. The loop goes through
them in order, so that a data point is not evaluated if a scope before is not left, or if a data point
before it makes the run panic. -/

namespace XpuManager

variable {F : Type} [LE F] [DecidableLE F] {rt : Runtime F} {rule : HealthRule F}
  {parents : Parents} {md : Metrics F} {before : List (ScopeMetrics F)} {i j k n : Nat}
  {dp dp' : NumberDataPoint F} {metrics : List (Metric F)} {x y z : (Nat × List (Metric F)) × Nat}

/-! ## Source data points -/

/-- `dp` is the `k`-th source data point of the scope behind the scopes `before`: in the batch, or at
some state that the loop comes to. -/
inductive SourceAt (rt : Runtime F) (rule : HealthRule F) (md : Metrics F) (n : Nat)
    (before : List (ScopeMetrics F)) (i j k : Nat) (dp : NumberDataPoint F) : Prop where
  | batch {sm : ScopeMetrics F} {after : List (ScopeMetrics F)} {metrics : List (Metric F)}
      (hscopes : md.scopes = before ++ sm :: after)
      (hprep : prepare rule sm.metrics = (metrics, some (i, j)))
      (hdp : (dataPointsAt metrics i)[k]? = some dp)
  | added {x : (Nat × List (Metric F)) × Nat}
      (hx : VisitsIn rt matchFiltersRef rule md n before i j x)
      (hdp : (dataPointsAt x.1.2 i)[k]? = some dp)

/-- The loop comes to the `k`-th source data point of a scope, and the turn there appends its status
group to the status metric and goes on. -/
def Evaluated (rt : Runtime F) (rule : HealthRule F) (md : Metrics F) (n : Nat)
    (before : List (ScopeMetrics F)) (i j k : Nat) (dp : NumberDataPoint F) : Prop :=
  ∃ x value group m, VisitsIn rt matchFiltersRef rule md n before i j x ∧ x.1.1 = k ∧
    (dataPointsAt x.1.2 i)[k]? = some dp ∧ rt.value dp.value = some value ∧
    IsStatusGroup rule value
      ((collectParents rule md.scopes).lookup (rule.parentID dp.attributes)) dp group ∧
    pointTurn rt matchFiltersRef rule (collectParents rule md.scopes) i j x.1 x.2 =
      (.ret (.inl (k + 1, appendDataPoints x.1.2 j group)), m)

/-! ## Turns -/

omit [LE F] [DecidableLE F] in
theorem getElem?_mono {l l' : List (NumberDataPoint F)} (h : l <+: l') (hdp : l[k]? = some dp) :
    l'[k]? = some dp := by
  obtain ⟨hlt, rfl⟩ := List.getElem?_eq_some_iff.mp hdp
  exact List.prefix_iff_getElem?.mp h k hlt

/-- What a turn that goes on has done. -/
theorem turn_adds (h : Prog.Turn (pointTurn rt matchFiltersRef rule parents i j) x y) :
    ∃ dp group, (dataPointsAt x.1.2 i)[x.1.1]? = some dp ∧ PointAdds rt rule parents dp group ∧
      y.1 = (x.1.1 + 1, appendDataPoints x.1.2 j group) := by
  cases hdp : (dataPointsAt x.1.2 i)[x.1.1]? with
  | none =>
    rw [Prog.Turn, pointTurn_of_none hdp] at h
    cases h
  | some dp =>
    rw [Prog.Turn, pointTurn_of_some hdp] at h
    obtain ⟨group, m, hgroup, hpure⟩ := Prog.bind_eq_ret_iff.mp h
    obtain ⟨hy, -⟩ := Prog.pure_eq_ret_iff.mp hpure
    exact ⟨dp, group, rfl, ⟨x.2, m, hgroup⟩, (Sum.inl.inj hy).symm⟩

/-- The loop only appends data points. -/
theorem prefix_of_turns (h : Prog.Turns (pointTurn rt matchFiltersRef rule parents i j) x y) :
    dataPointsAt x.1.2 i <+: dataPointsAt y.1.2 i := by
  induction h with
  | refl => exact List.prefix_refl _
  | @tail y z _ hturn ih =>
    obtain ⟨dp, group, -, -, hz⟩ := turn_adds hturn
    refine ih.trans ?_
    rw [hz]
    by_cases hij : i = j
    · subst hij
      cases hsome : (y.1.2[i]?).bind Metric.getNumberDatapoints with
      | none =>
        rw [dataPointsAt, hsome]
        exact List.nil_prefix
      | some dps =>
        rw [dataPointsAt_append_self (by rw [hsome]; rfl)]
        exact List.prefix_append _ _
    · exact (dataPointsAt_append_of_ne hij group).symm ▸ List.prefix_refl _

theorem isSome_of_turns (h : Prog.Turns (pointTurn rt matchFiltersRef rule parents i j) x y) :
    ((y.1.2[j]?).bind Metric.getNumberDatapoints).isSome =
      ((x.1.2[j]?).bind Metric.getNumberDatapoints).isSome := by
  induction h with
  | refl => rfl
  | tail _ hturn ih =>
    obtain ⟨dp, group, -, -, hz⟩ := turn_adds hturn
    rw [hz, isSome_append, ih]

/-- The loop comes to every index before the one it has reached, and has gone on there. -/
theorem exists_turn_of_lt (h : Prog.Turns (pointTurn rt matchFiltersRef rule parents i j) x z)
    (hle : x.1.1 ≤ k) (hlt : k < z.1.1) :
    ∃ y z', Prog.Turns (pointTurn rt matchFiltersRef rule parents i j) x y ∧ y.1.1 = k ∧
      Prog.Turn (pointTurn rt matchFiltersRef rule parents i j) y z' := by
  induction h with
  | refl => omega
  | @tail y z hturns hturn ih =>
    obtain ⟨dp, group, -, -, hz⟩ := turn_adds hturn
    rw [hz] at hlt
    rcases Nat.lt_or_eq_of_le (Nat.le_of_lt_succ hlt) with hlt | heq
    · exact ih hlt
    · exact ⟨y, z, hturns, heq.symm, hturn⟩

/-! ## Scopes -/

/-- What the loop of a scope comes to from a state that it has come to. -/
theorem VisitsIn.trans (h : VisitsIn rt matchFiltersRef rule md n before i j x)
    (hturns : Prog.Turns (pointTurn rt matchFiltersRef rule (collectParents rule md.scopes) i j)
      x y) : VisitsIn rt matchFiltersRef rule md n before i j y := by
  obtain ⟨sm, after, fuel, done, m, metrics, hscopes, hbefore, hprep, hstart⟩ := h
  exact ⟨sm, after, fuel, done, m, metrics, hscopes, hbefore, hprep, hstart.trans hturns⟩

/-- The loop of a scope starts in one way only. -/
theorem VisitsIn.total (hx : VisitsIn rt matchFiltersRef rule md n before i j x)
    (hy : VisitsIn rt matchFiltersRef rule md n before i j y) :
    dataPointsAt x.1.2 i <+: dataPointsAt y.1.2 i ∨ dataPointsAt y.1.2 i <+: dataPointsAt x.1.2 i := by
  obtain ⟨sm, after, fuel, done, m, metrics, hscopes, hbefore, hprep, hx⟩ := hx
  obtain ⟨sm', after', fuel', done', m', metrics', hscopes', hbefore', hprep', hy⟩ := hy
  obtain ⟨rfl, -⟩ := List.cons.inj (List.append_cancel_left (hscopes.symm.trans hscopes'))
  obtain rfl : metrics = metrics' := congrArg Prod.fst (hprep.symm.trans hprep')
  -- with the fuel of both, the scopes before return the same
  have hmore := Prog.mapList_of_ret (fun _ _ _ _ hret => updateMetrics_add hret) hbefore
    (g := updateMetrics rt matchFiltersRef (fuel + fuel') rule (collectParents rule md.scopes))
  have hmore' := Prog.mapList_of_ret (fun _ _ _ _ hret => updateMetrics_add hret) hbefore'
    (g := updateMetrics rt matchFiltersRef (fuel' + fuel) rule (collectParents rule md.scopes))
  rw [Nat.add_comm, hmore] at hmore'
  obtain rfl : m = m' := congrArg Prod.snd hmore'
  exact (Prog.turns_total hx hy).imp prefix_of_turns prefix_of_turns

/-- The data points of a scope in the batch are there at every state of its loop. -/
theorem VisitsIn.batch {sm : ScopeMetrics F} {after : List (ScopeMetrics F)}
    (hx : VisitsIn rt matchFiltersRef rule md n before i j x)
    (hscopes : md.scopes = before ++ sm :: after)
    (hprep : prepare rule sm.metrics = (metrics, some (i, j))) :
    dataPointsAt metrics i <+: dataPointsAt x.1.2 i := by
  obtain ⟨sm', after', fuel, done, m, metrics', hscopes', -, hprep', hx⟩ := hx
  obtain ⟨rfl, -⟩ := List.cons.inj (List.append_cancel_left (hscopes.symm.trans hscopes'))
  obtain rfl : metrics = metrics' := congrArg Prod.fst (hprep.symm.trans hprep')
  exact prefix_of_turns hx

/-- A source data point stays where it is. -/
theorem SourceAt.unique (h : SourceAt rt rule md n before i j k dp)
    (h' : SourceAt rt rule md n before i j k dp') : dp = dp' := by
  have hagree {l l' : List (NumberDataPoint F)} (hl : l <+: l') {p p' : NumberDataPoint F}
      (hp : l[k]? = some p) (hp' : l'[k]? = some p') : p = p' :=
    Option.some.inj ((getElem?_mono hl hp).symm.trans hp')
  cases h with
  | @batch sm _ _ hscopes hprep hdp =>
    cases h' with
    | @batch sm' _ _ hscopes' hprep' hdp' =>
      obtain ⟨rfl, -⟩ := List.cons.inj (List.append_cancel_left (hscopes.symm.trans hscopes'))
      obtain rfl := congrArg Prod.fst (hprep.symm.trans hprep')
      exact Option.some.inj (hdp.symm.trans hdp')
    | added hx' hdp' => exact hagree (hx'.batch hscopes hprep) hdp hdp'
  | added hx hdp =>
    cases h' with
    | batch hscopes' hprep' hdp' => exact (hagree (hx.batch hscopes' hprep') hdp' hdp).symm
    | added hx' hdp' =>
      rcases hx.total hx' with hle | hle
      · exact hagree hle hdp hdp'
      · exact (hagree hle hdp' hdp).symm

/-- The loop of a scope has gone on at every data point that it has passed. -/
theorem VisitsIn.passed (hx : VisitsIn rt matchFiltersRef rule md n before i j x)
    (hlt : k < x.1.1) : ∃ y dp group, VisitsIn rt matchFiltersRef rule md n before i j y ∧
      y.1.1 = k ∧ (dataPointsAt y.1.2 i)[k]? = some dp ∧
      PointAdds rt rule (collectParents rule md.scopes) dp group := by
  obtain ⟨sm, after, fuel, done, m, metrics, hscopes, hbefore, hprep, hx⟩ := hx
  obtain ⟨y, z, hturns, rfl, hturn⟩ := exists_turn_of_lt hx (Nat.zero_le k) hlt
  obtain ⟨dp, group, hdp, hadds, -⟩ := turn_adds hturn
  exact ⟨y, dp, group, ⟨sm, after, fuel, done, m, metrics, hscopes, hbefore, hprep, hturns⟩, rfl,
    hdp, hadds⟩

section Valid

variable (hnames : ∀ s ∈ rule.states, s.stateName ≠ "")

include hnames

/-- **Coming to a data point.** From an earlier state the loop comes to a data point if none of those
before it reads the zero map. -/
theorem VisitsIn.reaches (hx : VisitsIn rt matchFiltersRef rule md n before i j x)
    (hle : x.1.1 ≤ k) (hdp : (dataPointsAt x.1.2 i)[k]? = some dp)
    (hfree : ∀ l < k, ∀ p, SourceAt rt rule md n before i j l p →
      ¬ReadsMissing rt rule (collectParents rule md.scopes) p) :
    ∃ y, VisitsIn rt matchFiltersRef rule md n before i j y ∧ y.1.1 = k ∧
      (dataPointsAt y.1.2 i)[k]? = some dp := by
  let ps := ((dataPointsAt x.1.2 i).drop x.1.1).take (k - x.1.1)
  have hlength : ps.length = k - x.1.1 := by
    have hlt := (List.getElem?_eq_some_iff.mp hdp).1
    simp only [ps, List.length_take, List.length_drop]
    omega
  have hps : ∀ p ∈ ps, ¬ReadsMissing rt rule (collectParents rule md.scopes) p := by
    intro p hp
    obtain ⟨l, hl, hget⟩ := List.mem_iff_getElem.mp hp
    refine hfree (x.1.1 + l) (by omega) p (.added hx ?_)
    rw [← List.getElem?_drop, ← List.getElem?_take_of_lt (show l < k - x.1.1 by omega), ← hget]
    exact List.getElem?_eq_getElem hl
  have hsome : ((x.1.2[j]?).bind Metric.getNumberDatapoints).isSome := by
    obtain ⟨sm, after, fuel, done, m, metrics, -, -, hprep, hturns⟩ := hx
    rw [isSome_of_turns hturns]
    exact (prepare_spec hprep).2.1
  obtain ⟨groups, m, -, hturns⟩ := exists_turns (n := x.2) hnames
    (fun hempty => lookup_collectParents_of_empty hempty md.scopes)
    (List.take_append_drop (k - x.1.1) _).symm hsome hps
  refine ⟨_, hx.trans hturns, ?_, getElem?_mono (prefix_of_turns hturns) hdp⟩
  change x.1.1 + ps.length = k
  omega

/-- **The loop comes to an eligible source data point** if all scopes before are left and no data point
before reads the zero map. -/
theorem SourceAt.reached (h : SourceAt rt rule md n before i j k dp)
    (hsettle : ∀ sm ∈ before, Settles rt rule (collectParents rule md.scopes) sm)
    (hfree : ∀ l < k, ∀ p, SourceAt rt rule md n before i j l p →
      ¬ReadsMissing rt rule (collectParents rule md.scopes) p) :
    ∃ y, VisitsIn rt matchFiltersRef rule md n before i j y ∧ y.1.1 = k ∧
      (dataPointsAt y.1.2 i)[k]? = some dp := by
  cases h with
  | @batch sm after metrics hscopes hprep hdp =>
    obtain ⟨fuel, done, m, hbefore, -⟩ := mapList_of_settles hnames
      (fun hempty => lookup_collectParents_of_empty hempty md.scopes) hsettle n
    have hstart : VisitsIn rt matchFiltersRef rule md n before i j ((0, metrics), m) :=
      ⟨sm, after, fuel, done, m, metrics, hscopes, hbefore, hprep, .refl⟩
    exact hstart.reaches hnames (Nat.zero_le k) hdp hfree
  | @added x hx hdp =>
    rcases Nat.lt_or_ge k x.1.1 with hlt | hle
    · obtain ⟨y, p, group, hy, hindex, hp, -⟩ := hx.passed hlt
      obtain rfl := SourceAt.unique (.added hx hdp) (.added hy hp)
      exact ⟨y, hy, hindex, hp⟩
    · exact hx.reaches hnames hle hdp hfree

end Valid

/-! ## Eligible data points -/

/-- **Every eligible source data point adds its status group.** For every valid rule, batch and order
of ranges: the loops come to every eligible source data point and append its status group to the
status metric, if and only if before each of them all scopes settle, and in its scope neither a source
data point before it nor it itself reads the zero map. -/
theorem process_evaluates_iff (rt : Runtime F) {rule : HealthRule F}
    (hvalid : rule.validate = .ok ()) (md : Metrics F) (n : Nat) :
    (∀ before i j k dp, SourceAt rt rule md n before i j k dp →
      Eligible rule (collectParents rule md.scopes) dp → Evaluated rt rule md n before i j k dp) ↔
      ∀ before i j k dp, SourceAt rt rule md n before i j k dp →
        Eligible rule (collectParents rule md.scopes) dp →
          (∀ sm ∈ before, Settles rt rule (collectParents rule md.scopes) sm) ∧
          ∀ l ≤ k, ∀ p, SourceAt rt rule md n before i j l p →
            ¬ReadsMissing rt rule (collectParents rule md.scopes) p := by
  have hnames := stateName_ne_of_validate hvalid
  have hparents := fun hempty : rule.parentMetric = "" =>
    lookup_collectParents_of_empty hempty md.scopes
  constructor
  · intro h before i j k dp hdp helig
    obtain ⟨x, value, group, m, hx, hindex, -, -, -, hturn⟩ := h before i j k dp hdp helig
    constructor
    · obtain ⟨sm, after, fuel, done, m, metrics, -, hbefore, -⟩ := hx
      exact settles_of_mapList hnames hparents hbefore
    · intro l hl p hp
      -- the loop has gone on at the data point itself as well
      have hnext := hx.trans (.single hturn : Prog.Turns _ x ((k + 1, _), m))
      obtain ⟨y, q, group, hy, -, hq, hadds⟩ := hnext.passed (Nat.lt_succ_of_le hl)
      obtain rfl := hp.unique (.added hy hq)
      exact hadds.not_readsMissing
  · intro h before i j k dp hdp helig
    obtain ⟨hsettle, hfree⟩ := h before i j k dp hdp helig
    obtain ⟨x, hx, rfl, hget⟩ := hdp.reached hnames hsettle fun l hl => hfree l (Nat.le_of_lt hl)
    obtain ⟨value, group, hvalue, hgroup, hspec⟩ :=
      @statusPointsOf_intended F _ _ rt rule _ dp hnames helig x.2
    refine ⟨x, value, group, x.2 + 2, hx, rfl, hget, hvalue, hspec, ?_⟩
    rw [pointTurn_of_some hget,
      statusPointsOf_of_not_readsMissing hparents (hfree _ (Nat.le_refl _) dp hdp),
      Prog.bind_of_ret hgroup]
    rfl

/-- Without filters on the parent every eligible source data point adds its status group, and there is
one. -/
theorem process_evaluates_iff_sample :
    (temperatureRule []).validate = .ok () ∧
      SourceAt sampleRuntime (temperatureRule []) temperatureBatch 0 [] 0 1 0 hotPoint ∧
      Eligible (temperatureRule []) (collectParents (temperatureRule []) temperatureBatch.scopes)
        hotPoint ∧
      ∀ before i j k dp, SourceAt sampleRuntime (temperatureRule []) temperatureBatch 0 before i j k dp →
        Eligible (temperatureRule []) (collectParents (temperatureRule []) temperatureBatch.scopes)
          dp → Evaluated sampleRuntime (temperatureRule []) temperatureBatch 0 before i j k dp := by
  refine ⟨rfl, .batch rfl rfl rfl, ⟨rfl, rfl, by decide⟩,
    (process_evaluates_iff sampleRuntime rfl temperatureBatch 0).mpr ?_⟩
  refine fun before i j k dp _ _ => ⟨fun sm _ metrics i j _ p _ => ⟨?_, ?_⟩, fun l _ p _ => ?_⟩
  · exact temperatureRule_not_readsMissing _ p
  · exact fun hname => absurd hname (by decide)
  · exact temperatureRule_not_readsMissing _ p

/-- **A hot component without a known parent gets no status.** The rule is valid and the data point
is eligible, but the turn panics. -/
theorem hotPoint_not_evaluated :
    ¬∀ rule : HealthRule ℤ, rule.validate = .ok () → ∀ md n before i j k dp,
      SourceAt sampleRuntime rule md n before i j k dp →
      Eligible rule (collectParents rule md.scopes) dp →
      Evaluated sampleRuntime rule md n before i j k dp := by
  intro h
  obtain ⟨x, value, group, m, -, hindex, hget, -, -, hturn⟩ := h filteredRule rfl temperatureBatch 0
    [] 0 1 0 hotPoint (.batch rfl rfl rfl) ⟨rfl, rfl, by decide⟩
  have hreads : ReadsMissing sampleRuntime filteredRule
      (collectParents filteredRule temperatureBatch.scopes) hotPoint :=
    ⟨rfl, rfl, .inr ⟨100, rfl, _, .tail _ (.head _), ⟨90, [⟨"hw.model", ["A"]⟩]⟩, rfl, by decide⟩⟩
  have hget : (dataPointsAt x.1.2 0)[x.1.1]? = some hotPoint := by rw [hindex, hget]
  rw [pointTurn_of_some hget, Prog.bind_of_fault (statusPointsOf_of_readsMissing hreads x.2)] at hturn
  cases hturn

end XpuManager
