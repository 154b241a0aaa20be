import XpuManager.E2eValidation.HealthWatcher

/-! # What a response does

One response after another goes through the watcher. What it reports is in the dictionaries afterwards, and
every event has a cause in it. -/

namespace XpuManager

namespace E2eValidation

/-! ## What a response reports -/

/-- A health domain is reported as unhealthy. -/
def DeviceHealth.Reports (dev : DeviceHealth) (domain : String) (sev : SeverityLevel) : Prop :=
  ∃ hs ∈ dev.health, hs.name = domain ∧ protoSevMap hs.severity = sev ∧ isUnhealthy sev = true

/-- The addresses of the devices in a response. -/
def DeviceHealthResponse.bdfs (response : DeviceHealthResponse) : List String :=
  response.devices.map DeviceHealth.bdf

/-- The response gives the health domain of the device this severity. -/
def DeviceHealthResponse.Reports (response : DeviceHealthResponse) (bdf domain : String)
    (sev : SeverityLevel) : Prop :=
  ∃ dev ∈ response.devices, dev.bdf = bdf ∧ dev.Reports domain sev

/-- **The causes of events**, in a response and in what the watcher knew before it. -/
inductive Caused (w : HealthWatcher) (response : DeviceHealthResponse) : DeviceEvent → Prop
  | arrives {dev : DeviceHealth} {event : DeviceEvent} (hdev : dev ∈ response.devices)
      (hnew : dev.bdf ∉ w.known) (harrives : event.Arrives dev.bdf) : Caused w response event
  | worsens {dev : DeviceHealth} {hs : HealthStatus} (hdev : dev ∈ response.devices)
      (hhs : hs ∈ dev.health) (hsev : isUnhealthy (protoSevMap hs.severity) = true)
      (hprev : w.unhealthy.lookup (dev.bdf, hs.name) ≠ some (protoSevMap hs.severity)) :
      Caused w response (HealthWatcher.unhealthyEvent dev hs)
  | recovers {dev : DeviceHealth} {domain : String} (hdev : dev ∈ response.devices)
      (hnone : ∀ hs ∈ dev.health, hs.name = domain → isUnhealthy (protoSevMap hs.severity) = false)
      (hprev : (dev.bdf, domain) ∈ w.unhealthy) :
      Caused w response (HealthWatcher.recoveredEvent dev domain)
  | removed {bdf : String} {event : DeviceEvent} (hgone : bdf ∉ response.bdfs)
      (hknown : bdf ∈ w.known) (hremoves : event.Removes bdf) : Caused w response event

/-! ## Emitting -/

/-- The events that are emitted from one state to another are of this kind. -/
def Emits (kind : DeviceEvent → Prop) (w w' : HealthWatcher) : Prop :=
  ∃ new, w'.events = w.events ++ new ∧ ∀ event ∈ new, kind event

namespace Emits

variable {kind : DeviceEvent → Prop} {w w' w'' : HealthWatcher}

theorem none (h : w'.events = w.events) : Emits kind w w' :=
  ⟨[], by rw [h, List.append_nil], fun _ hmem => absurd hmem List.not_mem_nil⟩

theorem one {event : DeviceEvent} (h : w'.events = w.events ++ [event]) (hkind : kind event) :
    Emits kind w w' :=
  ⟨[event], h, fun other hmem => by rwa [List.mem_singleton.mp hmem]⟩

theorem trans (h : Emits kind w w') (h' : Emits kind w' w'') : Emits kind w w'' := by
  obtain ⟨new, hnew, hkind⟩ := h
  obtain ⟨new', hnew', hkind'⟩ := h'
  refine ⟨new ++ new', by rw [hnew', hnew, List.append_assoc], fun event hmem => ?_⟩
  exact (List.mem_append.mp hmem).elim (hkind event) (hkind' event)

end Emits

/-! ## One status -/

section Status

variable {w w₀ : HealthWatcher} {response : DeviceHealthResponse} {dev : DeviceHealth}
variable {hs : HealthStatus}

theorem type_classifyEvent (domain reason message : String) {t : EventType}
    (h : classifyEvent domain reason message = some t) : t.isHealth = true ∧ t ≠ .healthRecovered := by
  rw [classifyEvent] at h
  split_ifs at h
  all_goals
    obtain rfl := Option.some.inj h
    exact ⟨rfl, nofun⟩

theorem type_unhealthyEvent (dev : DeviceHealth) (hs : HealthStatus) :
    (HealthWatcher.unhealthyEvent dev hs).eventType.isHealth = true ∧
      (HealthWatcher.unhealthyEvent dev hs).eventType ≠ .healthRecovered := by
  change ((classifyEvent hs.name hs.reason hs.message).getD
    (sevEvent (protoSevMap hs.severity))).isHealth = true ∧
      (classifyEvent hs.name hs.reason hs.message).getD (sevEvent (protoSevMap hs.severity)) ≠
        .healthRecovered
  cases h : classifyEvent hs.name hs.reason hs.message with
  | none =>
    rw [Option.getD_none]
    cases protoSevMap hs.severity <;> exact ⟨rfl, nofun⟩
  | some t => exact type_classifyEvent _ _ _ h

/-- The three ways of one turn. -/
theorem checkStatus_cases (w : HealthWatcher) (dev : DeviceHealth) (hs : HealthStatus) :
    (isUnhealthy (protoSevMap hs.severity) = true ∧
        w.unhealthy.lookup (dev.bdf, hs.name) ≠ some (protoSevMap hs.severity) ∧
        w.checkStatus dev hs = { w with
          unhealthy := w.unhealthy.insert (dev.bdf, hs.name) (protoSevMap hs.severity) }.emit
            (HealthWatcher.unhealthyEvent dev hs)) ∨
      (isUnhealthy (protoSevMap hs.severity) = false ∧ (dev.bdf, hs.name) ∈ w.unhealthy ∧
        w.checkStatus dev hs = w.recover dev (dev.bdf, hs.name)) ∨
      (w.checkStatus dev hs = w ∧ w.unhealthy.lookup (dev.bdf, hs.name) =
        if isUnhealthy (protoSevMap hs.severity) then some (protoSevMap hs.severity) else none) := by
  rw [HealthWatcher.checkStatus]
  by_cases hsev : isUnhealthy (protoSevMap hs.severity) = true
  · rw [if_pos hsev, if_pos hsev]
    by_cases hprev : w.unhealthy.lookup (dev.bdf, hs.name) ≠ some (protoSevMap hs.severity)
    · exact .inl ⟨hsev, hprev, if_pos hprev⟩
    · exact .inr (.inr ⟨if_neg hprev, not_not.mp hprev⟩)
  · rw [if_neg hsev, if_neg hsev]
    by_cases hmem : (dev.bdf, hs.name) ∈ w.unhealthy
    · exact .inr (.inl ⟨eq_false_of_ne_true hsev, hmem, if_pos hmem⟩)
    · exact .inr (.inr ⟨if_neg hmem, AList.lookup_eq_none.mpr hmem⟩)

theorem checkStatus_known (w : HealthWatcher) (dev : DeviceHealth) (hs : HealthStatus) :
    (w.checkStatus dev hs).known = w.known := by
  obtain ⟨-, -, heq⟩ | ⟨-, -, heq⟩ | ⟨heq, -⟩ := checkStatus_cases w dev hs
  all_goals rw [heq]
  all_goals rfl

/-- **Spec of one turn.** The status is in the dictionary, if it is unhealthy. -/
theorem lookup_checkStatus (w : HealthWatcher) (dev : DeviceHealth) (hs : HealthStatus) :
    (w.checkStatus dev hs).unhealthy.lookup (dev.bdf, hs.name) =
      if isUnhealthy (protoSevMap hs.severity) then some (protoSevMap hs.severity) else none := by
  obtain ⟨hsev, -, heq⟩ | ⟨hsev, -, heq⟩ | ⟨heq, hlookup⟩ := checkStatus_cases w dev hs
  · rw [heq, if_pos hsev]
    exact AList.lookup_insert w.unhealthy
  · rw [heq, if_neg (ne_true_of_eq_false hsev)]
    exact AList.lookup_erase (dev.bdf, hs.name) w.unhealthy
  · rw [heq, hlookup]

theorem lookup_checkStatus_of_ne {key : String × String} (hne : key ≠ (dev.bdf, hs.name)) :
    (w.checkStatus dev hs).unhealthy.lookup key = w.unhealthy.lookup key := by
  obtain ⟨-, -, heq⟩ | ⟨-, -, heq⟩ | ⟨heq, -⟩ := checkStatus_cases w dev hs
  · rw [heq]
    exact AList.lookup_insert_ne hne
  · rw [heq]
    exact AList.lookup_erase_ne hne
  · rw [heq]

theorem Tracks.recover_of_mem (h : Tracks w) (dev : DeviceHealth) {domain : String}
    (hmem : (dev.bdf, domain) ∈ w.unhealthy) : Tracks (w.recover dev (dev.bdf, domain)) :=
  h.recover (HealthWatcher.recoveredEvent dev domain) rfl rfl hmem

theorem Tracks.checkStatus (h : Tracks w) (dev : DeviceHealth) (hs : HealthStatus) :
    Tracks (w.checkStatus dev hs) := by
  obtain ⟨hsev, hprev, heq⟩ | ⟨-, hmem, heq⟩ | ⟨heq, -⟩ := checkStatus_cases w dev hs
  · rw [heq]
    exact h.worsen (HealthWatcher.unhealthyEvent dev hs) (type_unhealthyEvent dev hs).1 hsev
      hprev
  · rw [heq]
    exact h.recover_of_mem dev hmem
  · rwa [heq]

/-- The cause of an event of one turn is in what was known before the response, if the domain has not
been touched since. -/
theorem emits_checkStatus (hdev : dev ∈ response.devices) (hhs : hs ∈ dev.health)
    (hsame : w.unhealthy.lookup (dev.bdf, hs.name) = w₀.unhealthy.lookup (dev.bdf, hs.name)) :
    Emits (Caused w₀ response) w (w.checkStatus dev hs) := by
  obtain ⟨hsev, hprev, heq⟩ | ⟨hsev, hmem, heq⟩ | ⟨heq, -⟩ := checkStatus_cases w dev hs
  · rw [heq]
    exact .one rfl (.worsens hdev hhs hsev (hsame ▸ hprev))
  · rw [heq]
    refine .one rfl (.recovers hdev (fun other hother hname => ?_) ?_)
    · rwa [List.inj_on_of_nodup_map dev.nodup hother hhs hname]
    · rw [← AList.lookup_isSome, ← hsame, AList.lookup_isSome]
      exact hmem
  · exact .none (by rw [heq])

end Status

/-! ## All statuses of a device -/

section Statuses

variable {w w₀ : HealthWatcher} {response : DeviceHealthResponse} {dev : DeviceHealth}
variable {statuses : List HealthStatus}

/-- The loop over the statuses. -/
def checkStatuses (dev : DeviceHealth) (statuses : List HealthStatus) (w : HealthWatcher) :
    HealthWatcher :=
  statuses.foldl (fun w hs => w.checkStatus dev hs) w

theorem checkStatuses_known (statuses : List HealthStatus) (w : HealthWatcher) :
    (checkStatuses dev statuses w).known = w.known := by
  induction statuses generalizing w with
  | nil => rfl
  | cons hs statuses ih => exact (ih (w.checkStatus dev hs)).trans (checkStatus_known w dev hs)

theorem lookup_checkStatuses_of_ne {key : String × String}
    (hne : ∀ hs ∈ statuses, key ≠ (dev.bdf, hs.name)) :
    (checkStatuses dev statuses w).unhealthy.lookup key = w.unhealthy.lookup key := by
  induction statuses generalizing w with
  | nil => rfl
  | cons hs statuses ih =>
    rw [List.forall_mem_cons] at hne
    exact (ih hne.2).trans (lookup_checkStatus_of_ne hne.1)

/-- **Run lemma.** Every status is in the dictionary, if it is unhealthy. -/
theorem lookup_checkStatuses (hnodup : (statuses.map HealthStatus.name).Nodup) {hs : HealthStatus}
    (hhs : hs ∈ statuses) :
    (checkStatuses dev statuses w).unhealthy.lookup (dev.bdf, hs.name) =
      if isUnhealthy (protoSevMap hs.severity) then some (protoSevMap hs.severity) else none := by
  induction statuses generalizing w with
  | nil => cases hhs
  | cons first statuses ih =>
    rw [List.map_cons, List.nodup_cons] at hnodup
    obtain rfl | hrest := List.mem_cons.mp hhs
    · have hkeep : (checkStatuses dev statuses (w.checkStatus dev hs)).unhealthy.lookup
          (dev.bdf, hs.name) = (w.checkStatus dev hs).unhealthy.lookup (dev.bdf, hs.name) := by
        refine lookup_checkStatuses_of_ne fun other hother heq => ?_
        rw [(Prod.mk.inj heq).2] at hnodup
        exact hnodup.1 (List.mem_map_of_mem hother)
      exact hkeep.trans (lookup_checkStatus w dev hs)
    · exact ih hnodup.2 hrest

theorem Tracks.checkStatuses (h : Tracks w) (dev : DeviceHealth) (statuses : List HealthStatus) :
    Tracks (checkStatuses dev statuses w) := by
  induction statuses generalizing w with
  | nil => exact h
  | cons hs statuses ih => exact ih (h.checkStatus dev hs)

/-- The inner loop emits what the response causes, the domains having distinct names. -/
theorem emits_checkStatuses (hdev : dev ∈ response.devices) (hsub : statuses ⊆ dev.health)
    (hnodup : (statuses.map HealthStatus.name).Nodup)
    (hsame : ∀ hs ∈ statuses,
      w.unhealthy.lookup (dev.bdf, hs.name) = w₀.unhealthy.lookup (dev.bdf, hs.name)) :
    Emits (Caused w₀ response) w (checkStatuses dev statuses w) := by
  induction statuses generalizing w with
  | nil => exact .none rfl
  | cons hs statuses ih =>
    rw [List.map_cons, List.nodup_cons] at hnodup
    rw [List.cons_subset] at hsub
    rw [List.forall_mem_cons] at hsame
    refine (emits_checkStatus hdev hsub.1 hsame.1).trans (ih hsub.2 hnodup.2 fun other hother => ?_)
    rw [lookup_checkStatus_of_ne fun heq => ?_]
    · exact hsame.2 other hother
    · rw [← (Prod.mk.inj heq).2] at hnodup
      exact hnodup.1 (List.mem_map_of_mem hother)

/-! ## Domains that are not listed any more -/

/-- The loop over these domains. -/
def recoverAll (dev : DeviceHealth) (keys : List (String × String)) (w : HealthWatcher) :
    HealthWatcher :=
  keys.foldl (fun w key => w.recover dev key) w

variable {keys : List (String × String)}

/-- The loop leaves the known devices alone. -/
theorem recoverAll_known (keys : List (String × String)) (w : HealthWatcher) :
    (recoverAll dev keys w).known = w.known := by
  induction keys generalizing w with
  | nil => rfl
  | cons key keys ih => exact ih (w.recover dev key)

/-- After the loop the visited keys are gone and the others are as before. -/
theorem lookup_recoverAll (keys : List (String × String)) (w : HealthWatcher)
    (key : String × String) : (recoverAll dev keys w).unhealthy.lookup key =
      if key ∈ keys then none else w.unhealthy.lookup key := by
  have hfold : (recoverAll dev keys w).unhealthy =
      keys.foldl (fun unhealthy key => unhealthy.erase key) w.unhealthy := by
    induction keys generalizing w with
    | nil => rfl
    | cons first keys ih => exact ih (w.recover dev first)
  rw [hfold, lookup_foldl_erase]

/-- Each recovery by itself. -/
theorem Tracks.recoverAll (h : Tracks w) (hnodup : keys.Nodup)
    (hkeys : ∀ key ∈ keys, key.1 = dev.bdf ∧ key ∈ w.unhealthy) :
    Tracks (recoverAll dev keys w) := by
  induction keys generalizing w with
  | nil => exact h
  | cons key keys ih =>
    rw [List.nodup_cons] at hnodup
    rw [List.forall_mem_cons] at hkeys
    obtain ⟨⟨hbdf, hmem⟩, hrest⟩ := hkeys
    have hkey : key = (dev.bdf, key.2) := Prod.ext hbdf rfl
    refine ih ?_ hnodup.2 fun other hother => ⟨(hrest other hother).1, ?_⟩
    · rw [hkey] at hmem ⊢
      exact h.recover_of_mem dev hmem
    · refine AList.mem_erase.mpr ⟨fun heq => hnodup.1 ?_, (hrest other hother).2⟩
      rwa [← heq]

theorem emits_recoverAll (hdev : dev ∈ response.devices)
    (hkeys : ∀ key ∈ keys, key.2 ∉ dev.health.map HealthStatus.name ∧
      (dev.bdf, key.2) ∈ w₀.unhealthy) :
    Emits (Caused w₀ response) w (recoverAll dev keys w) := by
  induction keys generalizing w with
  | nil => exact .none rfl
  | cons key keys ih =>
    rw [List.forall_mem_cons] at hkeys
    obtain ⟨⟨hnone, hprev⟩, hrest⟩ := hkeys
    refine Emits.trans (.one rfl (.recovers hdev (fun hs hhs hname => ?_) hprev)) (ih hrest)
    exact absurd (hname ▸ List.mem_map_of_mem hhs) hnone

end Statuses

/-! ## One device -/

section Device

variable {w w₀ : HealthWatcher} {response : DeviceHealthResponse} {dev : DeviceHealth}

theorem mem_stale {key : String × String} : key ∈ w.stale dev ↔
    key ∈ w.unhealthy ∧ key.1 = dev.bdf ∧ key.2 ∉ dev.health.map HealthStatus.name := by
  rw [HealthWatcher.stale, List.mem_filter, ← AList.mem_keys, decide_eq_true_eq]

/-- The domains in the order in which they are recovered. -/
theorem mem_domains (orders : SetOrders) {key : String × String} :
    key ∈ orders.domains (w.stale dev) ↔
      key ∈ w.unhealthy ∧ key.1 = dev.bdf ∧ key.2 ∉ dev.health.map HealthStatus.name :=
  (orders.domains_perm _).mem_iff.trans mem_stale

theorem checkHealth_eq (w : HealthWatcher) (dev : DeviceHealth) (orders : SetOrders) :
    w.checkHealth dev orders =
      recoverAll dev (orders.domains ((checkStatuses dev dev.health w).stale dev))
        (checkStatuses dev dev.health w) := rfl

theorem checkHealth_known (w : HealthWatcher) (dev : DeviceHealth) (orders : SetOrders) :
    (w.checkHealth dev orders).known = w.known := by
  rw [checkHealth_eq, recoverAll_known, checkStatuses_known]

theorem lookup_checkHealth_of_ne (orders : SetOrders) {key : String × String}
    (hne : key.1 ≠ dev.bdf) :
    (w.checkHealth dev orders).unhealthy.lookup key = w.unhealthy.lookup key := by
  rw [checkHealth_eq, lookup_recoverAll, if_neg fun hmem => hne ((mem_domains orders).mp hmem).2.1]
  exact lookup_checkStatuses_of_ne fun hs _ heq => hne (congrArg Prod.fst heq)

/-- **Spec of one device.** Its unhealthy domains are in the dictionary, and no others. -/
theorem lookup_checkHealth (w : HealthWatcher) (dev : DeviceHealth) (orders : SetOrders)
    (domain : String) (sev : SeverityLevel) :
    (w.checkHealth dev orders).unhealthy.lookup (dev.bdf, domain) = some sev ↔
      dev.Reports domain sev := by
  rw [checkHealth_eq, lookup_recoverAll]
  by_cases hlisted : domain ∈ dev.health.map HealthStatus.name
  · obtain ⟨hs, hhs, rfl⟩ := List.mem_map.mp hlisted
    rw [if_neg fun hmem => ((mem_domains orders).mp hmem).2.2 hlisted,
      lookup_checkStatuses dev.nodup hhs]
    constructor
    · intro h
      split at h
      case isTrue hsev => exact ⟨hs, hhs, rfl, Option.some.inj h, Option.some.inj h ▸ hsev⟩
      case isFalse => cases h
    · rintro ⟨other, hother, hname, rfl, hsev⟩
      obtain rfl := List.inj_on_of_nodup_map dev.nodup hother hhs hname
      exact if_pos hsev
  · refine iff_of_false (fun h => ?_) ?_
    · split at h
      case isTrue => cases h
      case isFalse hnone =>
        refine hnone ((mem_domains orders).mpr ⟨?_, rfl, hlisted⟩)
        exact AList.lookup_isSome.mp (Option.isSome_iff_exists.mpr ⟨sev, h⟩)
    · rintro ⟨hs, hhs, rfl, -⟩
      exact hlisted (List.mem_map_of_mem hhs)

theorem Tracks.checkHealth (h : Tracks w) (dev : DeviceHealth) (orders : SetOrders) :
    Tracks (w.checkHealth dev orders) := by
  rw [checkHealth_eq]
  refine (h.checkStatuses dev dev.health).recoverAll ?_ fun key hkey => ?_
  · exact (orders.domains_perm _).nodup_iff.mpr ((AList.keys_nodup _).filter _)
  · obtain ⟨hmem, hbdf, -⟩ := (mem_domains orders).mp hkey
    exact ⟨hbdf, hmem⟩

/-- Listed domains first, then those no longer listed. -/
theorem emits_checkHealth (orders : SetOrders) (hdev : dev ∈ response.devices)
    (hsame : ∀ domain,
      w.unhealthy.lookup (dev.bdf, domain) = w₀.unhealthy.lookup (dev.bdf, domain)) :
    Emits (Caused w₀ response) w (w.checkHealth dev orders) := by
  rw [checkHealth_eq]
  refine (emits_checkStatuses hdev (List.Subset.refl _) dev.nodup fun hs _ => hsame hs.name).trans
    (emits_recoverAll hdev fun key hkey => ?_)
  obtain ⟨hmem, hbdf, hnone⟩ := (mem_domains orders).mp hkey
  refine ⟨hnone, ?_⟩
  have hkey : key = (dev.bdf, key.2) := Prod.ext hbdf rfl
  rw [← AList.lookup_isSome, ← hsame]
  rw [hkey, ← AList.lookup_isSome, lookup_checkStatuses_of_ne] at hmem
  · exact hmem
  · intro hs hhs heq
    rw [(Prod.mk.inj heq).2] at hnone
    exact hnone (List.mem_map_of_mem hhs)

theorem arrives_arrivalEvent (dev : DeviceHealth) (first : Bool) :
    (HealthWatcher.arrivalEvent dev first).Arrives dev.bdf := by
  cases first
  · exact ⟨.inr rfl, rfl⟩
  · exact ⟨.inl rfl, rfl⟩

theorem mem_arrive {first : Bool} {bdf : String} :
    bdf ∈ (w.arrive dev first).known ↔ bdf = dev.bdf ∨ bdf ∈ w.known := by
  rw [HealthWatcher.arrive]
  split
  case isTrue hmem => exact ⟨.inr, fun h => h.elim (fun heq => heq ▸ hmem) id⟩
  case isFalse => exact AList.mem_insert w.known

theorem arrive_unhealthy (w : HealthWatcher) (dev : DeviceHealth) (first : Bool) :
    (w.arrive dev first).unhealthy = w.unhealthy := by
  rw [HealthWatcher.arrive]
  split <;> rfl

theorem Tracks.arriveDevice (h : Tracks w) (dev : DeviceHealth) (first : Bool) :
    Tracks (w.arrive dev first) := by
  rw [HealthWatcher.arrive]
  split
  case isTrue => exact h
  case isFalse hnew => exact h.arrive dev (arrives_arrivalEvent dev first) hnew

theorem emits_arrive (first : Bool) (hdev : dev ∈ response.devices)
    (hknown : ∀ bdf ∈ w₀.known, bdf ∈ w.known) :
    Emits (Caused w₀ response) w (w.arrive dev first) := by
  rw [HealthWatcher.arrive]
  split
  case isTrue => exact .none rfl
  case isFalse hnew =>
    exact .one rfl (.arrives hdev (fun hold => hnew (hknown _ hold)) (arrives_arrivalEvent dev first))

end Device

/-! ## All devices -/

section Devices

variable {w w₀ : HealthWatcher} {response : DeviceHealthResponse} {dev : DeviceHealth}
variable {devices : List DeviceHealth} {orders : SetOrders} {first : Bool}

/-- The loop over the devices. -/
def checkDevices (orders : SetOrders) (first : Bool) (devices : List DeviceHealth)
    (w : HealthWatcher) : HealthWatcher :=
  devices.foldl (fun w dev => (w.arrive dev first).checkHealth dev orders) w

theorem mem_checkDevices {bdf : String} : bdf ∈ (checkDevices orders first devices w).known ↔
    bdf ∈ devices.map DeviceHealth.bdf ∨ bdf ∈ w.known := by
  induction devices generalizing w with
  | nil => exact ⟨.inr, fun h => h.resolve_left List.not_mem_nil⟩
  | cons dev devices ih =>
    refine ih.trans ?_
    rw [checkHealth_known, mem_arrive, List.map_cons, List.mem_cons, or_assoc, or_left_comm]

theorem lookup_checkDevices_of_notMem {key : String × String}
    (hkey : key.1 ∉ devices.map DeviceHealth.bdf) :
    (checkDevices orders first devices w).unhealthy.lookup key = w.unhealthy.lookup key := by
  induction devices generalizing w with
  | nil => rfl
  | cons dev devices ih =>
    rw [List.map_cons, List.mem_cons, not_or] at hkey
    refine (ih hkey.2).trans ?_
    rw [lookup_checkHealth_of_ne orders hkey.1, arrive_unhealthy]

/-- **Run lemma.** The unhealthy domains of all devices are in the dictionary. -/
theorem lookup_checkDevices (hnodup : (devices.map DeviceHealth.bdf).Nodup) (hdev : dev ∈ devices)
    (domain : String) (sev : SeverityLevel) :
    (checkDevices orders first devices w).unhealthy.lookup (dev.bdf, domain) = some sev ↔
      dev.Reports domain sev := by
  induction devices generalizing w with
  | nil => cases hdev
  | cons other devices ih =>
    rw [List.map_cons, List.nodup_cons] at hnodup
    obtain rfl | hrest := List.mem_cons.mp hdev
    · have hkeep : (checkDevices orders first devices
          ((w.arrive dev first).checkHealth dev orders)).unhealthy.lookup (dev.bdf, domain) =
            ((w.arrive dev first).checkHealth dev orders).unhealthy.lookup (dev.bdf, domain) :=
        lookup_checkDevices_of_notMem hnodup.1
      exact (iff_of_eq (congrArg (· = some sev) hkeep)).trans (lookup_checkHealth _ dev orders _ _)
    · exact ih hnodup.2 hrest

theorem Tracks.checkDevices (h : Tracks w) (orders : SetOrders) (first : Bool)
    (devices : List DeviceHealth) : Tracks (checkDevices orders first devices w) := by
  induction devices generalizing w with
  | nil => exact h
  | cons dev devices ih => exact ih ((h.arriveDevice dev first).checkHealth dev orders)

/-- The loop over the devices of a response, by induction on what is left of it. -/
theorem emits_checkDevices (hsub : devices ⊆ response.devices)
    (hnodup : (devices.map DeviceHealth.bdf).Nodup) (hknown : ∀ bdf ∈ w₀.known, bdf ∈ w.known)
    (hsame : ∀ dev ∈ devices, ∀ domain,
      w.unhealthy.lookup (dev.bdf, domain) = w₀.unhealthy.lookup (dev.bdf, domain)) :
    Emits (Caused w₀ response) w (checkDevices orders first devices w) := by
  induction devices generalizing w with
  | nil => exact .none rfl
  | cons dev devices ih =>
    rw [List.map_cons, List.nodup_cons] at hnodup
    rw [List.cons_subset] at hsub
    rw [List.forall_mem_cons] at hsame
    have harrive := emits_arrive first hsub.1 hknown
    have hcheck : Emits (Caused w₀ response) (w.arrive dev first)
        ((w.arrive dev first).checkHealth dev orders) := by
      refine emits_checkHealth orders hsub.1 fun domain => ?_
      rw [arrive_unhealthy]
      exact hsame.1 domain
    refine (harrive.trans hcheck).trans (ih hsub.2 hnodup.2 (fun bdf hbdf => ?_) ?_)
    · rw [checkHealth_known, mem_arrive]
      exact .inr (hknown bdf hbdf)
    · intro other hother domain
      have hne : other.bdf ≠ dev.bdf := by
        intro heq
        rw [← heq] at hnodup
        exact hnodup.1 (List.mem_map_of_mem hother)
      rw [lookup_checkHealth_of_ne orders hne, arrive_unhealthy]
      exact hsame.2 other hother domain

/-! ## Devices that are not listed any more -/

/-- The loop over these devices. -/
def removeAll (bdfs : List String) (w : HealthWatcher) : HealthWatcher :=
  bdfs.foldl HealthWatcher.remove w

variable {bdfs : List String}

theorem mem_removeAll {bdf : String} :
    bdf ∈ (removeAll bdfs w).known ↔ bdf ∈ w.known ∧ bdf ∉ bdfs := by
  induction bdfs generalizing w with
  | nil => exact ⟨fun h => ⟨h, List.not_mem_nil⟩, fun h => h.1⟩
  | cons first bdfs ih =>
    refine ih.trans ?_
    rw [remove_known, AList.mem_erase, List.mem_cons, not_or]
    tauto

/-- The devices that are gone lose their domains. -/
theorem lookup_removeAll (bdfs : List String) (w : HealthWatcher) (key : String × String) :
    (removeAll bdfs w).unhealthy.lookup key =
      if key.1 ∈ bdfs then none else w.unhealthy.lookup key := by
  induction bdfs generalizing w with
  | nil => rfl
  | cons first bdfs ih =>
    refine (ih (w.remove first)).trans ?_
    rw [lookup_remove]
    by_cases hrest : key.1 ∈ bdfs
    · rw [if_pos hrest, if_pos (List.mem_cons_of_mem first hrest)]
    · rw [if_neg hrest]
      by_cases heq : key.1 = first
      · rw [if_pos heq, if_pos (List.mem_cons.mpr (.inl heq))]
      · rw [if_neg heq, if_neg fun hmem => (List.mem_cons.mp hmem).elim heq hrest]

theorem Tracks.removeAll (h : Tracks w) (hnodup : bdfs.Nodup) (hknown : ∀ bdf ∈ bdfs, bdf ∈ w.known) :
    Tracks (removeAll bdfs w) := by
  induction bdfs generalizing w with
  | nil => exact h
  | cons first bdfs ih =>
    rw [List.nodup_cons] at hnodup
    rw [List.forall_mem_cons] at hknown
    refine ih (h.remove hknown.1) hnodup.2 fun bdf hbdf => ?_
    rw [remove_known, AList.mem_erase]
    exact ⟨fun heq => hnodup.1 (heq ▸ hbdf), hknown.2 bdf hbdf⟩

theorem emits_removeAll (hbdfs : ∀ bdf ∈ bdfs, bdf ∉ response.bdfs ∧ bdf ∈ w₀.known) :
    Emits (Caused w₀ response) w (removeAll bdfs w) := by
  induction bdfs generalizing w with
  | nil => exact .none rfl
  | cons first bdfs ih =>
    rw [List.forall_mem_cons] at hbdfs
    exact Emits.trans (.one rfl (.removed hbdfs.1.1 hbdfs.1.2 ⟨rfl, rfl⟩)) (ih hbdfs.2)

end Devices

/-! ## The response -/

section Response

variable {w : HealthWatcher} {response : DeviceHealthResponse} {orders : SetOrders} {first : Bool}

/-- What holds after a response. -/
structure Processed (w : HealthWatcher) (response : DeviceHealthResponse) (w' : HealthWatcher) :
    Prop where
  tracks : Tracks w'
  known : ∀ bdf, bdf ∈ w'.known ↔ bdf ∈ response.bdfs
  unhealthy : ∀ bdf domain sev,
    w'.unhealthy.lookup (bdf, domain) = some sev ↔ response.Reports bdf domain sev
  emits : Emits (Caused w response) w w'

/-- `{self._bdf(d): d for d in response.devices}`. -/
theorem mem_foldl_insert {devices : List DeviceHealth}
    {known : AList fun _ : String => DeviceHealth} {bdf : String} :
    bdf ∈ devices.foldl (fun known dev => known.insert dev.bdf dev) known ↔
      bdf ∈ devices.map DeviceHealth.bdf ∨ bdf ∈ known := by
  induction devices generalizing known with
  | nil => exact ⟨.inr, fun h => h.resolve_left List.not_mem_nil⟩
  | cons dev devices ih =>
    rw [List.foldl_cons, ih, AList.mem_insert, List.map_cons, List.mem_cons, or_assoc, or_left_comm]

/-- A device that is listed has its domains in the dictionary after the loop. -/
theorem lookup_checkDevices_iff {bdf : String} (hbdf : bdf ∈ response.bdfs) (domain : String)
    (sev : SeverityLevel) :
    (checkDevices orders first response.devices w).unhealthy.lookup (bdf, domain) = some sev ↔
      response.Reports bdf domain sev := by
  obtain ⟨dev, hdev, rfl⟩ := List.mem_map.mp hbdf
  rw [lookup_checkDevices response.nodup hdev]
  constructor
  · exact fun hreports => ⟨dev, hdev, rfl, hreports⟩
  · rintro ⟨other, hother, heq, hreports⟩
    rwa [← List.inj_on_of_nodup_map response.nodup hother hdev heq]

theorem DeviceHealthResponse.Reports.mem {bdf domain : String} {sev : SeverityLevel}
    (h : response.Reports bdf domain sev) : bdf ∈ response.bdfs := by
  obtain ⟨dev, hdev, rfl, -⟩ := h
  exact List.mem_map_of_mem hdev

/-- **The first response of a session** replaces the known devices. -/
theorem processed_of_first (h : Tracks w) (hdomains : ∀ key ∈ w.unhealthy, key.1 ∈ w.known)
    (hlisted : ∀ bdf ∈ w.known, bdf ∈ response.bdfs) :
    Processed w response (w.processResponse orders response true) := by
  have hknown (bdf : String) : bdf ∈ (w.processResponse orders response true).known ↔
      bdf ∈ (checkDevices orders true response.devices w).known := by
    refine mem_foldl_insert.trans (Iff.trans ?_ mem_checkDevices.symm)
    exact ⟨fun hmem => .inl (hmem.resolve_right (AList.notMem_empty bdf)), fun hmem =>
      .inl (hmem.elim id (hlisted bdf))⟩
  have htracks := h.checkDevices orders true response.devices
  refine ⟨⟨fun bdf => (hknown bdf).trans (htracks.known bdf), htracks.unhealthy, htracks.news⟩,
    fun bdf => ?_, fun bdf domain sev => ?_, ?_⟩
  · rw [hknown, mem_checkDevices]
    exact ⟨fun hmem => hmem.elim id (hlisted bdf), .inl⟩
  · change (checkDevices orders true response.devices w).unhealthy.lookup (bdf, domain) = some sev ↔ _
    by_cases hbdf : bdf ∈ response.bdfs
    · exact lookup_checkDevices_iff hbdf domain sev
    · refine iff_of_false (fun hsome => hbdf ?_) fun hreports => hbdf hreports.mem
      rw [lookup_checkDevices_of_notMem hbdf] at hsome
      exact hlisted bdf (hdomains (bdf, domain)
        (AList.lookup_isSome.mp (Option.isSome_iff_exists.mpr ⟨sev, hsome⟩)))
  · exact emits_checkDevices (List.Subset.refl _) response.nodup (fun _ hbdf => hbdf) fun _ _ _ => rfl

/-- **A later response** removes the devices that it does not list. -/
theorem processed_of_later (h : Tracks w) (hdomains : ∀ key ∈ w.unhealthy, key.1 ∈ w.known) :
    Processed w response (w.processResponse orders response false) := by
  have hremoved (bdf : String) : bdf ∈ orders.devices
      ((checkDevices orders false response.devices w).known.keys.filter fun bdf =>
        bdf ∉ response.bdfs) ↔ bdf ∈ w.known ∧ bdf ∉ response.bdfs := by
    rw [(orders.devices_perm _).mem_iff, List.mem_filter, ← AList.mem_keys, mem_checkDevices,
      decide_eq_true_eq]
    exact ⟨fun hmem => ⟨hmem.1.resolve_left hmem.2, hmem.2⟩, fun hmem => ⟨.inr hmem.1, hmem.2⟩⟩
  have hrun : w.processResponse orders response false = removeAll (orders.devices
      ((checkDevices orders false response.devices w).known.keys.filter fun bdf =>
        bdf ∉ response.bdfs)) (checkDevices orders false response.devices w) := rfl
  rw [hrun]
  refine ⟨?_, fun bdf => ?_, fun bdf domain sev => ?_, ?_⟩
  · refine (h.checkDevices orders false response.devices).removeAll ?_ fun bdf hbdf => ?_
    · exact (orders.devices_perm _).nodup_iff.mpr ((AList.keys_nodup _).filter _)
    · exact mem_checkDevices.mpr (.inr ((hremoved bdf).mp hbdf).1)
  · rw [mem_removeAll, mem_checkDevices, hremoved]
    change (bdf ∈ response.bdfs ∨ _) ∧ _ ↔ _
    tauto
  · rw [lookup_removeAll]
    by_cases hbdf : bdf ∈ response.bdfs
    · rw [if_neg fun hmem => ((hremoved bdf).mp hmem).2 hbdf]
      exact lookup_checkDevices_iff hbdf domain sev
    · refine iff_of_false (fun hsome => ?_) fun hreports => hbdf hreports.mem
      split at hsome
      case isTrue => cases hsome
      case isFalse hstays =>
        rw [lookup_checkDevices_of_notMem hbdf] at hsome
        exact hstays ((hremoved bdf).mpr ⟨hdomains (bdf, domain)
          (AList.lookup_isSome.mp (Option.isSome_iff_exists.mpr ⟨sev, hsome⟩)), hbdf⟩)
  · refine Emits.trans (emits_checkDevices (List.Subset.refl _) response.nodup (fun _ hbdf => hbdf)
      fun _ _ _ => rfl) (emits_removeAll fun bdf hbdf => ?_)
    exact ((hremoved bdf).mp hbdf).symm

end Response

end E2eValidation

end XpuManager
