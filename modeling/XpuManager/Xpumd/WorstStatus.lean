import XpuManager.Xpumd.Translator

/-! # The worst status of a health domain

What the translator reports for a health domain of a device against the statuses that the active
`hw.status` data points of the batch stand for. The merge takes up a worse severity but never `ok`,
so a domain whose states are only `unknown` and `ok` is reported as whichever came first. -/

namespace XpuManager

variable {F : Type} {toInt64 : F → Int64} {mappings : List HwStatusMapping}

/-! ## The statuses data points stand for -/

/-- The status that the attributes of an active data point stand for, and its key. -/
def mappedStatus (mappings : List HwStatusMapping) (attrs : AttrMap) :
    Option (HealthStatusKey × HealthStatus) := do
  let m ← matchHwStatusMapping mappings attrs
  let healthDomain ← m.healthDomainFor attrs
  let hwState := attrs.getStr "hw.state"
  let sm ← m.healthStatusFor hwState
  let reason := if sm.reason = "" then hwState else sm.reason
  some (⟨healthDomain, if m.showAllStates then hwState else ""⟩,
    ⟨healthDomain, sm.severityLevel, reason, sm.message⟩)

/-- The device, key and status of an active data point. -/
def activeState (mappings : List HwStatusMapping) (dp : NumberDataPoint F) :
    Option (String × HealthStatusKey × HealthStatus) :=
  match dp.value with
  | .int v =>
    if v = 0 ∨ getParentID dp.attributes = "" then none
    else (mappedStatus mappings dp.attributes).map fun e => (getParentID dp.attributes, e)
  | _ => none

/-- The statuses that data points stand for under a device and key, in order. -/
def statesAt (mappings : List HwStatusMapping) (pts : List (NumberDataPoint F)) (id : String)
    (key : HealthStatusKey) : List HealthStatus :=
  pts.filterMap fun dp => (activeState mappings dp).bind fun e =>
    if e.1 = id ∧ e.2.1 = key then some e.2.2 else none

/-- The statuses that data points stand for under a device and health domain. -/
abbrev domainStates (mappings : List HwStatusMapping) (pts : List (NumberDataPoint F))
    (id domain : String) : List HealthStatus :=
  statesAt mappings pts id ⟨domain, ""⟩

/-- The `hw.status` data points of a metric. -/
def Metric.statusPoints (m : Metric F) : List (NumberDataPoint F) :=
  if m.name = "hw.status" then m.getNumberDatapoints.getD [] else []

/-- The `hw.status` data points of a batch. -/
def statusPoints (md : Metrics F) : List (NumberDataPoint F) :=
  md.all.flatMap Metric.statusPoints

/-- The devices a metric has metadata of. -/
def Metric.metadataIds (m : Metric F) : List String :=
  if m.name = "hw.gpu.info" then
    ((m.getNumberDatapoints.getD []).map fun dp => dp.attributes.getStr "hw.id").filter (· ≠ "")
  else []

/-- The devices a batch has metadata of. -/
def metadataIds (md : Metrics F) : List String := md.all.flatMap Metric.metadataIds

/-- A status is named after its health domain. -/
theorem mappedStatus_name {attrs : AttrMap} {key : HealthStatusKey} {status : HealthStatus}
    (h : mappedStatus mappings attrs = some (key, status)) : status.name = key.domain := by
  simp only [mappedStatus, Option.bind_eq_bind, Option.bind_eq_some_iff, Option.some_inj] at h
  obtain ⟨m, -, healthDomain, -, sm, -, h⟩ := h
  obtain ⟨rfl, rfl⟩ := Prod.mk.inj h
  rfl

theorem name_of_mem_statesAt {pts : List (NumberDataPoint F)} {id : String}
    {key : HealthStatusKey} {status : HealthStatus} (h : status ∈ statesAt mappings pts id key) :
    status.name = key.domain := by
  simp only [statesAt, List.mem_filterMap, Option.bind_eq_some_iff, Option.ite_none_right_eq_some,
    Option.some_inj] at h
  obtain ⟨dp, -, e, he, ⟨-, rfl⟩, rfl⟩ := h
  rw [activeState] at he
  split at he
  case h_1 v =>
    split at he
    case isTrue => cases he
    case isFalse =>
      obtain ⟨⟨key, status⟩, hmapped, rfl⟩ := Option.map_eq_some_iff.mp he
      exact mappedStatus_name hmapped
  case h_2 => cases he

/-! ## Merging -/

/-- The merge of the statuses of a key: the worse one is kept, and `ok` never replaces another. -/
def mergedStatus : List HealthStatus → Option HealthStatus
  | [] => none
  | s :: ss => some (ss.foldl (keepWorse HealthStatus.severity .ok) s)

theorem mergedStatus_concat (l : List HealthStatus) (s : HealthStatus) :
    mergedStatus (l ++ [s]) =
      some (((mergedStatus l).map fun old => keepWorse HealthStatus.severity .ok old s).getD s) := by
  cases l with
  | nil => rfl
  | cons a as => simp [mergedStatus]

theorem mem_of_mergedStatus {l : List HealthStatus} {s : HealthStatus}
    (h : mergedStatus l = some s) : s ∈ l := by
  cases l with
  | nil => cases h
  | cons a as =>
    rw [← Option.some_inj.mp h]
    exact foldl_keepWorse_mem

/-- **Entering one status.** The statuses of a device change at the key of the status only, where
it is merged; statuses are named after their domain. -/
theorem lookup_updateDeviceHealthStatus {statuses : HealthStatuses} {attrs : AttrMap}
    {key : HealthStatusKey}
    (hname : ∀ s, statuses.lookup key = some s → s.name = key.domain) :
    (updateDeviceHealthStatus mappings statuses attrs).lookup key =
      match (mappedStatus mappings attrs).bind fun e => if e.1 = key then some e.2 else none with
      | none => statuses.lookup key
      | some s => some
          (((statuses.lookup key).map fun old => keepWorse HealthStatus.severity .ok old s).getD s) := by
  rw [updateDeviceHealthStatus, mappedStatus]
  rcases matchHwStatusMapping mappings attrs with _ | m
  · rfl
  simp only [Option.bind_eq_bind, Option.bind_some]
  rcases m.healthDomainFor attrs with _ | healthDomain
  · rfl
  simp only [Option.bind_some]
  rcases m.healthStatusFor (attrs.getStr "hw.state") with _ | sm
  · rfl
  simp only [Option.bind_some]
  generalize hk : (⟨healthDomain, if m.showAllStates then attrs.getStr "hw.state" else ""⟩ :
    HealthStatusKey) = k
  generalize (if sm.reason = "" then attrs.getStr "hw.state" else sm.reason) = reason
  by_cases hkey : k = key
  · subst hkey
    rw [if_pos rfl]
    have hdomain : k.domain = healthDomain := by rw [← hk]
    cases hold : statuses.lookup k with
    | none => simp [AList.lookup_insert]
    | some old =>
      have hn : old.name = healthDomain := (hname old hold).trans hdomain
      obtain ⟨name, severity, oldReason, message⟩ := old
      subst hn
      simp only [Option.map_some, Option.getD_some, keepWorse, ne_eq]
      by_cases hok : sm.severityLevel = .ok
      · simp [hok, hold]
      · by_cases hlt : severity < sm.severityLevel
        · simp [hok, hlt, AList.lookup_insert]
        · simp [hok, hlt, hold]
  · rw [if_neg hkey]
    have hne : key ≠ k := Ne.symm hkey
    split
    case h_1 => exact AList.lookup_insert_ne hne
    case h_2 =>
      split
      case isTrue =>
        split
        case isTrue => exact AList.lookup_insert_ne hne
        case isFalse => rfl
      case isFalse => rfl

/-! ## What the loop over a batch collects -/

/-- The status held for a device and key. -/
def MetricsTranslator.statusAt (t : MetricsTranslator) (id : String) (key : HealthStatusKey) :
    Option HealthStatus :=
  (t.health.lookup id).bind fun statuses => statuses.lookup key

/-- The invariant of the loop over a batch, after the `hw.status` data points `pts` and metadata of
the devices `ids`: each status held is the merge of those its key stands for, and a device has a
response, without statuses as yet, exactly when it has metadata. -/
structure Collected (mappings : List HwStatusMapping) (pts : List (NumberDataPoint F))
    (ids : List String) (t : MetricsTranslator) : Prop where
  status_eq : ∀ id key, t.statusAt id key = mergedStatus (statesAt mappings pts id key)
  mem_resp_iff : ∀ id, (∃ d, t.resp.lookup id = some d) ↔ id ∈ ids
  resp_new : ∀ id d, t.resp.lookup id = some d → d.info.uuid = id ∧ d.health = []

theorem collected_new : Collected mappings ([] : List (NumberDataPoint F)) []
    newMetricsTranslator where
  status_eq _ _ := rfl
  mem_resp_iff id := by simp [newMetricsTranslator]
  resp_new id d h := by simp [newMetricsTranslator] at h

section Steps

variable {pts : List (NumberDataPoint F)} {ids : List String} {t : MetricsTranslator}

theorem statesAt_concat (dp : NumberDataPoint F) (id : String) (key : HealthStatusKey) :
    statesAt mappings (pts ++ [dp]) id key = statesAt mappings pts id key ++
      ((activeState mappings dp).bind fun e =>
        if e.1 = id ∧ e.2.1 = key then some e.2.2 else none).toList := by
  rw [statesAt, List.filterMap_append, ← statesAt]
  rfl

/-- A data point that stands for nothing leaves the statuses alone. -/
theorem Collected.of_inactive (h : Collected mappings pts ids t) {dp : NumberDataPoint F}
    (hnone : activeState mappings dp = none) : Collected mappings (pts ++ [dp]) ids t where
  status_eq id key := by
    rw [statesAt_concat, hnone, h.status_eq id key, Option.bind_none, Option.toList_none,
      List.append_nil]
  mem_resp_iff := h.mem_resp_iff
  resp_new := h.resp_new

/-- **Entering one `hw.status` data point keeps the invariant.** -/
theorem Collected.updateHealthStatus (h : Collected mappings pts ids t)
    (dp : NumberDataPoint F) :
    Collected mappings (pts ++ [dp]) ids (updateHealthStatus mappings t dp) := by
  rw [XpuManager.updateHealthStatus]
  split
  case h_1 v hv =>
    split
    case isTrue hzero =>
      exact h.of_inactive (by rw [activeState, hv]; simp [hzero])
    case isFalse hzero =>
      simp only
      split
      case isTrue hid =>
        exact h.of_inactive (by rw [activeState, hv]; simp [hid])
      case isFalse hid =>
        have hactive : activeState mappings dp = (mappedStatus mappings dp.attributes).map
            fun e => (getParentID dp.attributes, e) := by
          rw [activeState, hv]
          simp [hzero, hid]
        refine ⟨fun id key => ?_, h.mem_resp_iff, h.resp_new⟩
        rw [statesAt_concat, hactive]
        by_cases hsame : id = getParentID dp.attributes
        · -- the device of the data point
          have hold : (((t.health.lookup id).getD ∅).lookup key) =
              mergedStatus (statesAt mappings pts id key) := by
            rw [← h.status_eq id key, MetricsTranslator.statusAt]
            cases t.health.lookup id with
            | none => rfl
            | some statuses => rfl
          have hlookup := @lookup_updateDeviceHealthStatus mappings
            ((t.health.lookup id).getD ∅) dp.attributes key fun s hs =>
              name_of_mem_statesAt (mem_of_mergedStatus (hold ▸ hs))
          rw [MetricsTranslator.statusAt, ← hsame, AList.lookup_insert, Option.bind_some, hlookup,
            hold]
          cases mappedStatus mappings dp.attributes with
          | none => simp
          | some e =>
            by_cases hkey : e.1 = key
            · simp [hkey, mergedStatus_concat]
            · simp [hkey]
        · have hother : (t.health.insert (getParentID dp.attributes)
              (updateDeviceHealthStatus mappings
                ((t.health.lookup (getParentID dp.attributes)).getD ∅) dp.attributes)).lookup id =
              t.health.lookup id := AList.lookup_insert_ne hsame
          have hnone : ((mappedStatus mappings dp.attributes).map fun e =>
              (getParentID dp.attributes, e)).bind (fun e =>
                if e.1 = id ∧ e.2.1 = key then some e.2.2 else none) = none := by
            cases mappedStatus mappings dp.attributes with
            | none => rfl
            | some e => simp [Ne.symm hsame]
          rw [MetricsTranslator.statusAt, hother, hnone, ← MetricsTranslator.statusAt,
            h.status_eq id key]
          simp
  case h_2 hv =>
    refine h.of_inactive ?_
    rw [activeState]
    split
    case h_1 v hv' => exact absurd hv' (hv v)
    case h_2 => rfl

/-- **Entering the metadata of one data point keeps the invariant.** -/
theorem Collected.updateMetadata (h : Collected mappings pts ids t) (dp : NumberDataPoint F) :
    Collected mappings pts (ids ++ [dp.attributes.getStr "hw.id"].filter (· ≠ ""))
      (updateMetadata t dp) := by
  rw [XpuManager.updateMetadata]
  simp only
  generalize dp.attributes.getStr "hw.id" = id
  split
  case isTrue hid => simpa [hid] using h
  case isFalse hid =>
    refine ⟨h.status_eq, fun id' => ?_, fun id' d hd => ?_⟩
    · by_cases hsame : id' = id
      · subst hsame
        simp [hid, AList.lookup_insert]
      · rw [AList.lookup_insert_ne hsame, h.mem_resp_iff id']
        simp [hid, hsame]
    · by_cases hsame : id' = id
      · subst hsame
        rw [AList.lookup_insert, Option.some_inj] at hd
        subst hd
        refine ⟨rfl, ?_⟩
        cases hold : t.resp.lookup id' with
        | none => rfl
        | some r => exact (h.resp_new id' r hold).2
      · rw [AList.lookup_insert_ne hsame] at hd
        exact h.resp_new id' d hd

/-- Memory does not matter to the invariant. -/
theorem Collected.updateMemoryInfo (h : Collected mappings pts ids t) (dp : NumberDataPoint F) :
    Collected mappings pts ids (updateMemoryInfo toInt64 t dp) := by
  have hmem : ∀ memory, Collected mappings pts ids { t with memory := memory } :=
    fun _ => ⟨h.status_eq, h.mem_resp_iff, h.resp_new⟩
  simp only [XpuManager.updateMemoryInfo]
  split
  · exact h
  split
  · exact h
  split
  · split
    · exact h
    · exact hmem _
  · split
    · exact h
    · exact hmem _
  · exact h

/-- **One metric keeps the invariant**, with the data points and devices it brings. -/
theorem Collected.processMetric (h : Collected mappings pts ids t) (m : Metric F) :
    Collected mappings (pts ++ m.statusPoints) (ids ++ m.metadataIds)
      (processMetric toInt64 mappings t m) := by
  rw [XpuManager.processMetric, Metric.statusPoints, Metric.metadataIds]
  cases m.getNumberDatapoints with
  | none => simpa using h
  | some dps =>
    simp only [Option.getD_some]
    by_cases hinfo : m.name = "hw.gpu.info"
    · have hstatus : m.name ≠ "hw.status" := by
        rw [hinfo]
        decide
      rw [if_pos hinfo, if_neg hstatus, if_pos hinfo, List.append_nil]
      clear hinfo hstatus
      induction dps generalizing ids t with
      | nil => simpa using h
      | cons dp dps ih =>
        rw [List.foldl_cons, List.map_cons, ← List.singleton_append, List.filter_append,
          ← List.append_assoc]
        exact ih (h.updateMetadata dp)
    · rw [if_neg hinfo, if_neg hinfo, List.append_nil]
      by_cases hstatus : m.name = "hw.status"
      · rw [if_pos hstatus, if_pos hstatus]
        clear hinfo hstatus
        induction dps generalizing pts t with
        | nil => simpa using h
        | cons dp dps ih =>
          rw [List.foldl_cons, ← List.singleton_append, ← List.append_assoc]
          exact ih (h.updateHealthStatus dp)
      · rw [if_neg hstatus, if_neg hstatus, List.append_nil]
        split
        case isTrue =>
          clear hinfo hstatus
          induction dps generalizing t with
          | nil => exact h
          | cons dp dps ih => exact ih (h.updateMemoryInfo dp)
        case isFalse => exact h

end Steps

/-- The loop over resources and scopes is a loop over all metrics. -/
theorem processAll_eq (md : Metrics F) : processAll toInt64 mappings md =
    md.all.foldl (processMetric toInt64 mappings) newMetricsTranslator := by
  rw [processAll, Metrics.all, List.foldl_flatMap]
  simp only [List.foldl_flatMap]

/-- **What a batch collects.** -/
theorem collected_processAll (md : Metrics F) :
    Collected mappings (statusPoints md) (metadataIds md) (processAll toInt64 mappings md) := by
  rw [processAll_eq, statusPoints, metadataIds]
  have hloop : ∀ (ms : List (Metric F)) {pts ids t}, Collected mappings pts ids t →
      Collected mappings (pts ++ ms.flatMap Metric.statusPoints)
        (ids ++ ms.flatMap Metric.metadataIds) (ms.foldl (processMetric toInt64 mappings) t) := by
    intro ms
    induction ms with
    | nil => intro pts ids t h; simpa using h
    | cons m ms ih =>
      intro pts ids t h
      rw [List.foldl_cons, List.flatMap_cons, List.flatMap_cons, ← List.append_assoc,
        ← List.append_assoc]
      exact ih (h.processMetric m)
  exact hloop md.all collected_new

/-! ## The response -/

/-- **Filling in the devices.** Ranging over a map and updating the response of each key changes
each response by the value of its own key. -/
theorem lookup_foldl_fillDevice {V : Type} (fill : V → DeviceHealth → DeviceHealth)
    (entries : List ((_ : String) × V)) (hkeys : entries.NodupKeys)
    (resp : AList fun _ : String => DeviceHealth) (id : String) :
    (entries.foldl (fillDevice fill) resp).lookup id =
      (resp.lookup id).map fun r => ((entries.dlookup id).map fun v => fill v r).getD r := by
  induction entries generalizing resp with
  | nil => simp
  | cons e entries ih =>
    obtain ⟨k, v⟩ := e
    obtain ⟨hk, hnodup⟩ := List.nodupKeys_cons.mp hkeys
    rw [List.foldl_cons, ih hnodup, fillDevice]
    by_cases hid : id = k
    · subst hid
      have hnone : entries.dlookup id = none := List.dlookup_eq_none.mpr hk
      rw [hnone, List.dlookup_cons_eq]
      cases hr : resp.lookup id with
      | none => simp [hr]
      | some r => simp [AList.lookup_insert]
    · rw [List.dlookup_cons_ne _ _ hid]
      cases hr : resp.lookup k with
      | none => rfl
      | some r =>
        simp only
        rw [AList.lookup_insert_ne hid]

/-- What fills a device of the response. -/
def filled (t : MetricsTranslator) : AList fun _ : String => DeviceHealth :=
  (fillMemoryData (fillHealthData t)).resp

/-- **A device of the response.** Its health is extended by its sorted statuses; its memory is
filled in. -/
theorem lookup_filled (t : MetricsTranslator) (id : String) :
    (filled t).lookup id = (t.resp.lookup id).map fun r =>
      { info := { r.info with
          memory := ((t.memory.lookup id).map fun memList =>
            memList.insertionSort memoryLe).getD r.info.memory }
        health := r.health ++ ((t.health.lookup id).map sortedStatuses).getD [] } := by
  have hhealth : (fillHealthData t).resp.lookup id = _ :=
    lookup_foldl_fillDevice _ t.health.entries t.health.nodupKeys t.resp id
  have hmemory : (filled t).lookup id = _ :=
    lookup_foldl_fillDevice _ t.memory.entries t.memory.nodupKeys (fillHealthData t).resp id
  rw [hmemory, hhealth]
  change Option.map (fun r => (((t.memory.lookup id).map _).getD r))
    (Option.map (fun r => (((t.health.lookup id).map _).getD r)) _) = _
  cases t.resp.lookup id with
  | none => rfl
  | some r =>
    cases t.health.lookup id with
    | none => cases t.memory.lookup id <;> simp
    | some statuses => cases t.memory.lookup id <;> simp

theorem mem_translate_iff {md : Metrics F} {device : DeviceHealth} :
    device ∈ translate toInt64 mappings md ↔
      ∃ id, (filled (processAll toInt64 mappings md)).lookup id = some device := by
  change device ∈ List.filterMap (filled (processAll toInt64 mappings md)).lookup _ ↔ _
  simp only [List.mem_filterMap]
  refine exists_congr fun id => and_iff_right_of_imp fun h => ?_
  rw [List.mem_insertionSort]
  exact AList.mem_keys.mpr (AList.lookup_isSome.mp (Option.isSome_iff_exists.mpr ⟨device, h⟩))

/-! ## The first status of a domain -/

/-- The key of a domain's own status comes first among the keys of the domain. -/
theorem find?_domain {keys : List HealthStatusKey} {domain : String}
    (hsorted : keys.Pairwise (· ≤ ·)) (hmem : (⟨domain, ""⟩ : HealthStatusKey) ∈ keys) :
    keys.find? (fun k => k.domain = domain) = some ⟨domain, ""⟩ := by
  induction keys with
  | nil => exact absurd hmem List.not_mem_nil
  | cons k keys ih =>
    obtain ⟨hle, hsorted⟩ := List.pairwise_cons.mp hsorted
    rw [List.find?_cons]
    by_cases hk : k.domain = domain
    · have hfirst : (⟨domain, ""⟩ : HealthStatusKey) ≤ k := by
        change toLex (domain, "") ≤ toLex (k.domain, k.state)
        rw [hk, Prod.Lex.toLex_le_toLex]
        refine .inr ⟨rfl, not_lt.mp fun hlt => ?_⟩
        exact List.not_lt_nil _ (String.lt_iff_toList_lt.mp hlt)
      have hlast : k ≤ ⟨domain, ""⟩ := by
        rcases List.mem_cons.mp hmem with h | h
        · exact h.ge
        · exact hle _ h
      simp [le_antisymm hlast hfirst]
    · rcases List.mem_cons.mp hmem with h | h
      · exact absurd (by rw [← h]) hk
      · simpa [hk] using ih hsorted h

/-- **The first status of a domain** among the sorted statuses is its own. -/
theorem find?_sortedStatuses {statuses : HealthStatuses} {domain : String} {status : HealthStatus}
    (hname : ∀ key s, statuses.lookup key = some s → s.name = key.domain)
    (h : statuses.lookup ⟨domain, ""⟩ = some status) :
    (sortedStatuses statuses).find? (fun s => s.name = domain) = some status := by
  have hfind : ∀ keys : List HealthStatusKey, (∀ k ∈ keys, k ∈ statuses) →
      (keys.filterMap statuses.lookup).find? (fun s => s.name = domain) =
        (keys.find? fun k => k.domain = domain).bind statuses.lookup := by
    intro keys hkeys
    induction keys with
    | nil => rfl
    | cons k keys ih =>
      obtain ⟨s, hs⟩ := Option.isSome_iff_exists.mp
        (AList.lookup_isSome.mpr (hkeys k List.mem_cons_self))
      have hrest := ih fun k' hk' => hkeys k' (List.mem_cons_of_mem _ hk')
      rw [List.filterMap_cons, hs, List.find?_cons, List.find?_cons, hname k s hs]
      by_cases hk : k.domain = domain
      · simp [hk, hs]
      · simp [hk, hrest]
  have hmem : (⟨domain, ""⟩ : HealthStatusKey) ∈ statuses.keys.insertionSort (· ≤ ·) := by
    rw [List.mem_insertionSort]
    exact AList.mem_keys.mpr (AList.lookup_isSome.mp (by rw [h]; rfl))
  rw [sortedStatuses, hfind _ fun k hk => AList.mem_keys.mp ((List.mem_insertionSort _).mp hk),
    find?_domain (List.pairwise_insertionSort _ _) hmem, Option.bind_some, h]

/-! ## What is reported -/

/-- **What a device of the response reports.** The device has metadata, and the first status named
after a health domain is the merge of the statuses its data points stand for. -/
theorem health_of_mem_translate {md : Metrics F} {device : DeviceHealth}
    (h : device ∈ translate toInt64 mappings md) :
    device.info.uuid ∈ metadataIds md ∧ ∀ domain status,
      mergedStatus (domainStates mappings (statusPoints md) device.info.uuid domain) = some status →
        device.health.find? (fun s => s.name = domain) = some status := by
  have hc := @collected_processAll F toInt64 mappings md
  obtain ⟨id, hid⟩ := mem_translate_iff.mp h
  rw [lookup_filled] at hid
  obtain ⟨r, hr, rfl⟩ := Option.map_eq_some_iff.mp hid
  obtain ⟨huuid, hnew⟩ := hc.resp_new id r hr
  refine ⟨by simpa [huuid] using (hc.mem_resp_iff id).mp ⟨r, hr⟩, fun domain status hstatus => ?_⟩
  change mergedStatus (domainStates mappings (statusPoints md) r.info.uuid domain) = _ at hstatus
  rw [huuid, ← hc.status_eq id, MetricsTranslator.statusAt] at hstatus
  obtain ⟨statuses, hstatuses, hdomain⟩ := Option.bind_eq_some_iff.mp hstatus
  have hname : ∀ key s, statuses.lookup key = some s → s.name = key.domain := by
    intro key s hs
    have hmerged := hc.status_eq id key
    rw [MetricsTranslator.statusAt, hstatuses, Option.bind_some, hs] at hmerged
    exact name_of_mem_statesAt (mem_of_mergedStatus hmerged.symm)
  rw [hnew, List.nil_append, hstatuses, Option.map_some, Option.getD_some]
  exact find?_sortedStatuses hname hdomain

/-- A device with metadata is in the response. -/
theorem exists_mem_translate {md : Metrics F} {id : String} (h : id ∈ metadataIds md) :
    ∃ device ∈ translate toInt64 mappings md, device.info.uuid = id := by
  have hc := @collected_processAll F toInt64 mappings md
  obtain ⟨r, hr⟩ := (hc.mem_resp_iff id).mpr h
  have hlookup := lookup_filled (processAll toInt64 mappings md) id
  rw [hr, Option.map_some] at hlookup
  exact ⟨_, mem_translate_iff.mpr ⟨id, hlookup⟩, (hc.resp_new id r hr).1⟩

/-! ## The order of data points -/

/-- Replace the `hw.status` data points of a metric. -/
def Metric.refill (m : Metric F) (ps : List (NumberDataPoint F)) :
    Metric F × List (NumberDataPoint F) :=
  (if m.name = "hw.status" then m.setDataPoints (ps.take m.statusPoints.length) else m,
    ps.drop m.statusPoints.length)

/-- Replace the `hw.status` data points of a scope. -/
def ScopeMetrics.refill (sm : ScopeMetrics F) (ps : List (NumberDataPoint F)) :
    ScopeMetrics F × List (NumberDataPoint F) :=
  let (metrics, rest) := refillList Metric.refill sm.metrics ps
  (⟨metrics⟩, rest)

/-- Replace the `hw.status` data points of a resource. -/
def ResourceMetrics.refill (rm : ResourceMetrics F) (ps : List (NumberDataPoint F)) :
    ResourceMetrics F × List (NumberDataPoint F) :=
  let (scopeMetrics, rest) := refillList ScopeMetrics.refill rm.scopeMetrics ps
  (⟨scopeMetrics⟩, rest)

/-- The batch with other `hw.status` data points, filled in from the first metric on; every metric
keeps its number of data points. -/
def Metrics.withStatusPoints (md : Metrics F) (ps : List (NumberDataPoint F)) : Metrics F :=
  (refillList ResourceMetrics.refill md ps).1

/-- A metric that is refilled keeps its metadata, as no name is both. -/
theorem Metric.refills : Refills Metric.statusPoints Metric.metadataIds (@Metric.refill F) where
  points_eq m ps hlen := by
    rw [Metric.refill]
    by_cases hname : m.name = "hw.status"
    · rw [if_pos hname]
      generalize hn : m.statusPoints.length = n
      rw [Metric.statusPoints, if_pos hname] at hn
      rw [Metric.statusPoints, if_pos (show (m.setDataPoints _).name = _ from hname),
        Metric.getNumberDatapoints, Metric.setDataPoints,
        MetricData.getNumberDatapoints_setDataPoints]
      rw [Metric.getNumberDatapoints] at hn
      cases hdata : m.data.getNumberDatapoints with
      | none => rw [← hn, hdata]; simp
      | some dps => simp
    · rw [if_neg hname]
      simp [Metric.statusPoints, hname]
  rest_eq _ _ := rfl
  others_eq m ps := by
    rw [Metric.refill]
    split
    case isTrue hname =>
      have hinfo : m.name ≠ "hw.gpu.info" := by
        rw [hname]
        decide
      rw [Metric.metadataIds, Metric.metadataIds, if_neg hinfo,
        if_neg (show (m.setDataPoints _).name ≠ _ from hinfo)]
    case isFalse => rfl

theorem ScopeMetrics.refills : Refills (fun sm => sm.metrics.flatMap Metric.statusPoints)
    (fun sm => sm.metrics.flatMap Metric.metadataIds) (@ScopeMetrics.refill F) where
  points_eq sm := Metric.refills.list.points_eq sm.metrics
  rest_eq sm := Metric.refills.list.rest_eq sm.metrics
  others_eq sm := Metric.refills.list.others_eq sm.metrics

theorem ResourceMetrics.refills : Refills
    (fun rm => rm.scopeMetrics.flatMap fun sm => sm.metrics.flatMap Metric.statusPoints)
    (fun rm => rm.scopeMetrics.flatMap fun sm => sm.metrics.flatMap Metric.metadataIds)
    (@ResourceMetrics.refill F) where
  points_eq rm := ScopeMetrics.refills.list.points_eq rm.scopeMetrics
  rest_eq rm := ScopeMetrics.refills.list.rest_eq rm.scopeMetrics
  others_eq rm := ScopeMetrics.refills.list.others_eq rm.scopeMetrics

/-- The batch with other `hw.status` data points has these. -/
theorem statusPoints_withStatusPoints {md : Metrics F} {ps : List (NumberDataPoint F)}
    (hlen : ps.length = (statusPoints md).length) : statusPoints (md.withStatusPoints ps) = ps := by
  have h := ResourceMetrics.refills.list.points_eq md ps
  simp only [statusPoints, Metrics.all, List.flatMap_assoc] at hlen ⊢
  rw [Metrics.withStatusPoints, h hlen.ge, ← hlen, List.take_length]

/-- It has the metadata it had. -/
theorem metadataIds_withStatusPoints (md : Metrics F) (ps : List (NumberDataPoint F)) :
    metadataIds (md.withStatusPoints ps) = metadataIds md := by
  have h := ResourceMetrics.refills.list.others_eq md ps
  simp only [metadataIds, Metrics.all, List.flatMap_assoc]
  exact h

/-! ## The worst status -/

/-- Each device reports, first among the statuses named after a health domain, one of the domain's
states with the highest severity. -/
def ReportsWorst (devices : List DeviceHealth)
    (states : String → String → List HealthStatus) : Prop :=
  ∀ device ∈ devices, ∀ domain, states device.info.uuid domain ≠ [] →
    ∃ status ∈ states device.info.uuid domain,
      device.health.find? (fun s => s.name = domain) = some status ∧
      ∀ s ∈ states device.info.uuid domain, s.severity ≤ status.severity

/-- The severities of some states are `unknown` and `ok` and nothing worse. -/
def UnknownWithOk (states : List HealthStatus) : Prop :=
  (∃ s ∈ states, s.severity = .unknown) ∧ (∃ s ∈ states, s.severity = .ok) ∧
    ∀ s ∈ states, s.severity ≤ .ok

/-- Only `unknown` is below `ok`. -/
theorem severity_lt_ok_iff {severity : SeverityLevel} : severity < .ok ↔ severity = .unknown := by
  cases severity <;> decide

/-- **The worst status in every order.** For every list of mappings and every batch: the response
reports the worst state of every device and health domain, whatever the order of the `hw.status`
data points, if and only if no health domain of a device with metadata has both `unknown` and `ok`
states and no worse ones. -/
theorem translate_reportsWorst_iff (toInt64 : F → Int64) (mappings : List HwStatusMapping)
    (md : Metrics F) :
    (∀ ps, ps.Perm (statusPoints md) →
      ReportsWorst (translate toInt64 mappings (md.withStatusPoints ps))
        (domainStates mappings (statusPoints md))) ↔
      ∀ id ∈ metadataIds md, ∀ domain,
        ¬UnknownWithOk (domainStates mappings (statusPoints md) id domain) := by
  have hperm : ∀ {ps : List (NumberDataPoint F)}, ps.Perm (statusPoints md) → ∀ id domain,
      (domainStates mappings ps id domain).Perm
        (domainStates mappings (statusPoints md) id domain) :=
    fun h _ _ => h.filterMap _
  constructor
  · rintro h id hid domain ⟨⟨s, hs, hunknown⟩, ⟨s', hs', hok⟩, hall⟩
    -- put the data point of an unknown state first
    obtain ⟨dp, hdp, hstate⟩ := List.mem_filterMap.mp hs
    obtain ⟨before, after, hsplit⟩ := List.append_of_mem hdp
    have hps : (dp :: (before ++ after)).Perm (statusPoints md) := by
      rw [hsplit]
      exact List.perm_middle.symm
    have hpts := statusPoints_withStatusPoints hps.length_eq
    obtain ⟨device, hdevice, huuid⟩ := @exists_mem_translate F toInt64 mappings
      (md.withStatusPoints (dp :: (before ++ after))) id
      (by rw [metadataIds_withStatusPoints]; exact hid)
    obtain ⟨status, -, hfind, hworst⟩ := h _ hps device hdevice domain
      (by rw [huuid]; exact List.ne_nil_of_mem hs)
    have hmerged := (health_of_mem_translate hdevice).2 domain
    rw [hpts, huuid] at hmerged
    have hfirst : domainStates mappings (dp :: (before ++ after)) id domain =
        s :: domainStates mappings (before ++ after) id domain := by
      rw [domainStates, statesAt, List.filterMap_cons, hstate]
      rfl
    rw [hfirst] at hmerged
    have hreported := hmerged _ rfl
    rw [hfind, Option.some_inj] at hreported
    have hlt : status.severity < .ok := by
      rw [hreported]
      refine foldl_keepWorse_lt (severity_lt_ok_iff.mpr hunknown) fun x hx => hall x ?_
      rw [← (hperm hps id domain).mem_iff, hfirst]
      exact List.mem_cons_of_mem _ hx
    have hle := hworst s' (by rw [huuid]; exact hs')
    rw [hok] at hle
    exact absurd hlt (not_lt.mpr hle)
  · intro h ps hps device hdevice domain hne
    have hpts := statusPoints_withStatusPoints hps.length_eq
    obtain ⟨hid, hmerged⟩ := health_of_mem_translate hdevice
    rw [metadataIds_withStatusPoints] at hid
    have hstates := hperm hps device.info.uuid domain
    have hmerged := hmerged domain
    rw [hpts] at hmerged
    obtain ⟨a, as, hcons⟩ : ∃ a as, domainStates mappings ps device.info.uuid domain = a :: as :=
      List.exists_cons_of_ne_nil fun hnil => hne (List.perm_nil.mp (hnil ▸ hstates.symm))
    rw [hcons] at hmerged hstates
    refine ⟨_, hstates.mem_iff.mp foldl_keepWorse_mem, hmerged _ rfl, fun s hs => ?_⟩
    refine forall_le_foldl_keepWorse (fun hc => h _ hid domain ?_) s (hstates.mem_iff.mpr hs)
    obtain ⟨ha, ⟨x, hx, hxok⟩, hall⟩ := hc
    refine ⟨⟨a, hstates.mem_iff.mp List.mem_cons_self, severity_lt_ok_iff.mp ha⟩,
      ⟨x, hstates.mem_iff.mp (List.mem_cons_of_mem _ hx), hxok⟩, fun y hy => ?_⟩
    rcases List.mem_cons.mp (hstates.mem_iff.mpr hy) with rfl | hy
    · exact ha.le
    · exact hall y hy

/-! ## A domain reported too low -/

/-- A mapping of every data point to the health domain `memory`, with an unknown and an ok state. -/
def sampleMapping : HwStatusMapping where
  filters := []
  healthDomain := "memory"
  stateMapping := [("pending", ⟨"unknown", "", "", .unknown⟩), ("ok", ⟨"ok", "", "", .ok⟩)]
  showAllStates := false
  healthDomainTmpl := fun _ => some "memory"

/-- A device whose first memory component is pending and whose second one is ok. -/
def sampleBatch : Metrics ℤ :=
  [⟨[⟨[⟨"hw.gpu.info", .gauge [⟨[("hw.id", .string "gpu0")], 0, .int 1⟩]⟩,
    ⟨"hw.status", .sum false true
      [⟨[("hw.parent", .string "gpu0"), ("hw.state", .string "pending")], 0, .int 1⟩,
        ⟨[("hw.parent", .string "gpu0"), ("hw.state", .string "ok")], 0, .int 1⟩]⟩]⟩]⟩]

/-- **An unknown state hides an ok one.** The mapping is valid, and the device of the batch reports
its memory as unknown although one of the two states is ok. -/
theorem translate_unknown_hides_ok :
    sampleMapping.validate (fun _ => .ok fun _ => some "memory") = .ok sampleMapping ∧
      ¬∀ ps, ps.Perm (statusPoints sampleBatch) →
        ReportsWorst (translate Int64.ofInt [sampleMapping] (sampleBatch.withStatusPoints ps))
          (domainStates [sampleMapping] (statusPoints sampleBatch)) := by
  refine ⟨rfl, fun h => ?_⟩
  have hreport : translate Int64.ofInt [sampleMapping]
      (sampleBatch.withStatusPoints (statusPoints sampleBatch)) =
      [⟨⟨"gpu0", "", some ⟨"", "", ""⟩, [], []⟩, [⟨"memory", .unknown, "pending", ""⟩]⟩] := by
    decide
  have hstates : domainStates [sampleMapping] (statusPoints sampleBatch) "gpu0" "memory" =
      [⟨"memory", .unknown, "pending", ""⟩, ⟨"memory", .ok, "ok", ""⟩] := by
    decide
  obtain ⟨status, -, hfind, hworst⟩ := h _ (List.Perm.refl _) _
    (by rw [hreport]; exact List.mem_singleton_self _) "memory" (by simp [hstates])
  rw [show (⟨"gpu0", "", some ⟨"", "", ""⟩, [], []⟩ : DeviceInformation).uuid = "gpu0" from rfl,
    hstates] at hworst
  have hunknown : status = ⟨"memory", .unknown, "pending", ""⟩ :=
    (Option.some_inj.mp hfind).symm
  rw [hunknown] at hworst
  exact absurd (hworst ⟨"memory", .ok, "ok", ""⟩ (by simp)) (by decide)

end XpuManager
