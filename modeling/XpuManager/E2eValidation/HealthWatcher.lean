import Mathlib.Data.List.AList
import XpuManager.Lib.History
import XpuManager.Xpumd.HealthMapping

/-! # The health watcher

The validation tool watches the health stream of the exporter and turns responses into events
(`e2e_validation/events/health_watcher.py`). Dictionaries are maps here; a set is iterated over in any
order. Listeners, which cannot fail, are left out. -/

namespace XpuManager

namespace E2eValidation

/-! ## Responses -/

/-- The status of one health domain in a response. -/
structure HealthStatus where
  name : String
  /-- A number for which the enumeration may have no name. -/
  severity : Int
  reason : String
  message : String
  deriving DecidableEq

/-- Which device a response is about. -/
structure DeviceIdentification where
  uuid : String
  model : String
  /-- The address, if there is PCI information. -/
  pci : Option String
  deriving DecidableEq

/-- A device, whose health domains have names of their own. -/
structure DeviceHealth where
  info : DeviceIdentification
  health : List HealthStatus
  nodup : (health.map HealthStatus.name).Nodup
  deriving DecidableEq

/-- `_bdf`. -/
def DeviceHealth.bdf (dev : DeviceHealth) : String := dev.info.pci.getD dev.info.uuid

/-- A response, whose devices have keys of their own. -/
structure DeviceHealthResponse where
  devices : List DeviceHealth
  nodup : (devices.map DeviceHealth.bdf).Nodup

/-- `_PROTO_SEV_MAP`. -/
def protoSevMap (severity : Int) : SeverityLevel :=
  if severity = 1 then .ok
  else if severity = 2 then .warning
  else if severity = 3 then .critical
  else if severity = 4 then .failed
  else .unknown

/-- `sev in _UNHEALTHY`. -/
def isUnhealthy (sev : SeverityLevel) : Bool := sev = .warning || sev = .critical || sev = .failed

/-! ## Events -/

/-- The kinds of events that the watcher emits. -/
inductive EventType where
  | deviceDiscovered
  | deviceAdded
  | deviceRemoved
  | healthOk
  | healthWarning
  | healthCritical
  | healthFailed
  | healthRecovered
  | pcodeError
  | deviceWedged
  | deviceSurvivability
  | rasCorrectable
  | rasUncorrectable
  | frequencyThrottle
  | powerThrottle
  | thermalThrottle
  deriving DecidableEq

/-- An event about a device, or about one of its health domains. -/
structure DeviceEvent where
  eventType : EventType
  bdf : String
  uuid : String
  domain : String := ""
  severity : SeverityLevel := .unknown
  reason : String := ""
  message : String := ""
  model : String := ""
  deriving DecidableEq

/-- `_SEV_EVENT.get(sev, EventType.HEALTH_WARNING)`. -/
def sevEvent : SeverityLevel → EventType
  | .ok => .healthOk
  | .warning => .healthWarning
  | .critical => .healthCritical
  | .failed => .healthFailed
  | .unknown => .healthWarning

/-- `str.lower`. The words that are looked for below come from ASCII letters only, so that other letters
are left as they are. -/
def lower (s : String) : List Char := s.toList.map Char.toLower

/-- `word in text`. -/
def occursIn (word : String) (text : List Char) : Bool :=
  text.tails.any fun rest => word.toList.isPrefixOf rest

/-- `_classify_event`. -/
def classifyEvent (domain reason message : String) : Option EventType :=
  let reasonLower := lower reason
  let msgLower := lower message
  if occursIn "pcode" reasonLower || occursIn "pcode" msgLower then some .pcodeError
  else if occursIn "wedge" reasonLower || occursIn "wedge" msgLower then some .deviceWedged
  else if occursIn "survivab" reasonLower || occursIn "survivab" msgLower then
    some .deviceSurvivability
  else if "ras".toList.isPrefixOf domain.toList || occursIn "ras" reasonLower then
    if occursIn "uncorrectable" reasonLower || occursIn "uncorrectable" msgLower then
      some .rasUncorrectable
    else some .rasCorrectable
  else if occursIn "throttle" reasonLower || occursIn "throttle" msgLower then
    if occursIn "thermal" reasonLower || occursIn "thermal" domain.toList then some .thermalThrottle
    else if occursIn "power" reasonLower || occursIn "power" domain.toList then some .powerThrottle
    else some .frequencyThrottle
  else none

/-! ## The watcher -/

/-- What the watcher keeps: the devices it knows, the statuses that are bad, and its events. -/
structure HealthWatcher where
  known : AList (fun _ : String => DeviceHealth) := ∅
  unhealthy : AList (fun _ : String × String => SeverityLevel) := ∅
  events : List DeviceEvent := []

/-- The orders in which two sets are iterated over. -/
structure SetOrders where
  devices : List String → List String
  devices_perm : ∀ bdfs, (devices bdfs).Perm bdfs
  domains : List (String × String) → List (String × String)
  domains_perm : ∀ keys, (domains keys).Perm keys

namespace HealthWatcher

variable (w : HealthWatcher) (dev : DeviceHealth) (orders : SetOrders)

/-- An event is handed to the callback. -/
def emit (event : DeviceEvent) : HealthWatcher := { w with events := w.events ++ [event] }

/-- The event for a health domain that has gone bad, or has changed. -/
def unhealthyEvent (hs : HealthStatus) : DeviceEvent where
  eventType := (classifyEvent hs.name hs.reason hs.message).getD (sevEvent (protoSevMap hs.severity))
  bdf := dev.bdf
  uuid := dev.info.uuid
  domain := hs.name
  severity := protoSevMap hs.severity
  reason := hs.reason
  message := hs.message

/-- The event for a health domain that is well again. -/
def recoveredEvent (domain : String) : DeviceEvent where
  eventType := .healthRecovered
  bdf := dev.bdf
  uuid := dev.info.uuid
  domain := domain
  severity := .ok

/-- `del self._unhealthy[key]`, and the event after it. -/
def recover (key : String × String) : HealthWatcher :=
  { w with unhealthy := w.unhealthy.erase key }.emit (recoveredEvent dev key.2)

/-- The body of the loop of `_check_health`. -/
def checkStatus (hs : HealthStatus) : HealthWatcher :=
  let key := (dev.bdf, hs.name)
  let sev := protoSevMap hs.severity
  if isUnhealthy sev then
    if w.unhealthy.lookup key ≠ some sev then
      { w with unhealthy := w.unhealthy.insert key sev }.emit (unhealthyEvent dev hs)
    else w
  else if key ∈ w.unhealthy then w.recover dev key
  else w

/-- The domains of a device that are not listed any more. -/
def stale : List (String × String) :=
  w.unhealthy.keys.filter fun key => key.1 = dev.bdf ∧ key.2 ∉ dev.health.map HealthStatus.name

/-- `_check_health`. -/
def checkHealth : HealthWatcher :=
  let w := dev.health.foldl (fun w hs => w.checkStatus dev hs) w
  (orders.domains (w.stale dev)).foldl (fun w key => w.recover dev key) w

/-- The event for a device that is new, in the first response or in a later one. -/
def arrivalEvent (first : Bool) : DeviceEvent where
  eventType := if first then .deviceDiscovered else .deviceAdded
  bdf := dev.bdf
  uuid := dev.info.uuid
  model := dev.info.model

/-- The first part of the loop of `_process_response`. -/
def arrive (first : Bool) : HealthWatcher :=
  if dev.bdf ∈ w.known then w
  else { w.emit (arrivalEvent dev first) with known := w.known.insert dev.bdf dev }

/-- `self._known.pop(bdf)`, and what follows it. -/
def remove (bdf : String) : HealthWatcher :=
  let old := w.known.extract bdf
  let keys := w.unhealthy.keys.filter fun key => key.1 = bdf
  { w with
    known := old.2
    unhealthy := keys.foldl (fun unhealthy key => unhealthy.erase key) w.unhealthy }.emit
    { eventType := .deviceRemoved
      bdf := bdf
      uuid := old.1.elim "" fun dev => dev.info.uuid }

/-- `_process_response`. -/
def processResponse (response : DeviceHealthResponse) (first : Bool) : HealthWatcher :=
  let w := response.devices.foldl (fun w dev => (w.arrive dev first).checkHealth dev orders) w
  if first then
    { w with known := response.devices.foldl (fun known dev => known.insert dev.bdf dev) ∅ }
  else
    let removed := w.known.keys.filter fun bdf => bdf ∉ response.devices.map DeviceHealth.bdf
    (orders.devices removed).foldl remove w

end HealthWatcher

/-! ## What a history says -/

/-- An event about a health domain. -/
def EventType.isHealth (t : EventType) : Bool :=
  t ≠ .deviceDiscovered && t ≠ .deviceAdded && t ≠ .deviceRemoved

namespace DeviceEvent

/-- The event says that the device is there. -/
def Arrives (bdf : String) (event : DeviceEvent) : Prop :=
  (event.eventType = .deviceDiscovered ∨ event.eventType = .deviceAdded) ∧ event.bdf = bdf

/-- The event says that the device is gone. -/
def Removes (bdf : String) (event : DeviceEvent) : Prop :=
  event.eventType = .deviceRemoved ∧ event.bdf = bdf

/-- The event is about the health domain of the device. -/
def Concerns (bdf domain : String) (event : DeviceEvent) : Prop :=
  event.eventType.isHealth = true ∧ event.bdf = bdf ∧ event.domain = domain

end DeviceEvent

/-- A device has been discovered or added, and not been removed since. -/
def Present (events : List DeviceEvent) (bdf : String) : Prop :=
  History.Since (DeviceEvent.Arrives bdf) (DeviceEvent.Removes bdf) events

/-- The last health event of a domain has an unhealthy severity, and the device has not been removed
since. -/
def Unhealthy (events : List DeviceEvent) (bdf domain : String) (sev : SeverityLevel) : Prop :=
  History.Since
    (fun event => event.Concerns bdf domain ∧ event.severity = sev ∧ isUnhealthy sev = true)
    (fun event => event.Concerns bdf domain ∨ event.Removes bdf) events

/-- An event changes what the history says. -/
structure News (before : List DeviceEvent) (event : DeviceEvent) : Prop where
  arrives : ∀ bdf, event.Arrives bdf → ¬Present before bdf
  removes : ∀ bdf, event.Removes bdf → Present before bdf
  worsens : ∀ bdf domain, event.Concerns bdf domain → isUnhealthy event.severity = true →
    ¬Unhealthy before bdf domain event.severity
  recovers : ∀ bdf domain, event.Concerns bdf domain → isUnhealthy event.severity = false →
    ∃ sev, Unhealthy before bdf domain sev

/-- **The dictionaries of the watcher** say what the history says, and all events were news. -/
structure Tracks (w : HealthWatcher) : Prop where
  known : ∀ bdf, bdf ∈ w.known ↔ Present w.events bdf
  unhealthy : ∀ bdf domain sev,
    w.unhealthy.lookup (bdf, domain) = some sev ↔ Unhealthy w.events bdf domain sev
  news : History.Each News w.events

/-! ## One event -/

section Snoc

variable {events : List DeviceEvent} {event : DeviceEvent} {bdf domain : String} {sev : SeverityLevel}

theorem present_snoc :
    Present (events ++ [event]) bdf ↔ event.Arrives bdf ∨ Present events bdf ∧ ¬event.Removes bdf :=
  History.since_snoc

theorem unhealthy_snoc : Unhealthy (events ++ [event]) bdf domain sev ↔
    (event.Concerns bdf domain ∧ event.severity = sev ∧ isUnhealthy sev = true) ∨
      Unhealthy events bdf domain sev ∧ ¬(event.Concerns bdf domain ∨ event.Removes bdf) :=
  History.since_snoc

theorem not_concerns_of_arrives (h : event.Arrives bdf) (bdf' domain : String) :
    ¬event.Concerns bdf' domain := by
  rintro ⟨hhealth, -⟩
  obtain hdiscovered | hadded := h.1
  · rw [hdiscovered] at hhealth
    cases hhealth
  · rw [hadded] at hhealth
    cases hhealth

theorem not_concerns_of_removes (h : event.Removes bdf) (bdf' domain : String) :
    ¬event.Concerns bdf' domain := by
  rintro ⟨hhealth, -⟩
  rw [h.1] at hhealth
  cases hhealth

theorem not_removes_of_arrives (h : event.Arrives bdf) (bdf' : String) : ¬event.Removes bdf' := by
  rintro ⟨hremoved, -⟩
  obtain hdiscovered | hadded := h.1
  · cases hdiscovered.symm.trans hremoved
  · cases hadded.symm.trans hremoved

theorem concerns_of_health (h : event.eventType.isHealth = true) :
    event.Concerns event.bdf event.domain := ⟨h, rfl, rfl⟩

theorem not_arrives_of_health (h : event.eventType.isHealth = true) (bdf : String) :
    ¬event.Arrives bdf :=
  fun harrives => not_concerns_of_arrives harrives _ _ (concerns_of_health h)

theorem not_removes_of_health (h : event.eventType.isHealth = true) (bdf : String) :
    ¬event.Removes bdf :=
  fun hremoves => not_concerns_of_removes hremoves _ _ (concerns_of_health h)

end Snoc

namespace Tracks

variable {w : HealthWatcher} {event : DeviceEvent}

/-- A health event leaves the devices. -/
theorem known_of_health (h : Tracks w) (hhealth : event.eventType.isHealth = true) (bdf : String) :
    bdf ∈ w.known ↔ Present (w.events ++ [event]) bdf := by
  rw [h.known, present_snoc]
  exact ⟨fun hpresent => .inr ⟨hpresent, not_removes_of_health hhealth bdf⟩,
    fun hsnoc => (hsnoc.resolve_left (not_arrives_of_health hhealth bdf)).1⟩

/-- A health event leaves the other domains. -/
theorem unhealthy_of_ne (hhealth : event.eventType.isHealth = true) {bdf domain : String}
    (hne : (bdf, domain) ≠ (event.bdf, event.domain)) (sev : SeverityLevel) :
    Unhealthy (w.events ++ [event]) bdf domain sev ↔ Unhealthy w.events bdf domain sev := by
  have hother : ¬event.Concerns bdf domain := fun hconcerns =>
    hne (Prod.ext hconcerns.2.1.symm hconcerns.2.2.symm)
  rw [unhealthy_snoc]
  exact ⟨fun hsnoc => (hsnoc.resolve_left fun hstart => hother hstart.1).1, fun hold =>
    .inr ⟨hold, fun hstop => hstop.elim hother (not_removes_of_health hhealth bdf)⟩⟩

/-- A status that got bad is recorded and announced in one step. -/
theorem worsen (h : Tracks w) (event : DeviceEvent) (hhealth : event.eventType.isHealth = true)
    (hsev : isUnhealthy event.severity = true)
    (hnew : w.unhealthy.lookup (event.bdf, event.domain) ≠ some event.severity) :
    Tracks ({ w with
      unhealthy := w.unhealthy.insert (event.bdf, event.domain) event.severity }.emit event) := by
  have hconcerns := concerns_of_health hhealth
  refine ⟨h.known_of_health hhealth, fun bdf domain sev => ?_, h.news.snoc ⟨?_, ?_, ?_, ?_⟩⟩
  · change (w.unhealthy.insert (event.bdf, event.domain) event.severity).lookup (bdf, domain) =
      some sev ↔ Unhealthy (w.events ++ [event]) bdf domain sev
    by_cases hkey : (bdf, domain) = (event.bdf, event.domain)
    · obtain ⟨rfl, rfl⟩ := Prod.mk.inj hkey
      rw [AList.lookup_insert, unhealthy_snoc, Option.some.injEq]
      refine ⟨fun heq => .inl ⟨hconcerns, heq, heq ▸ hsev⟩, fun hsnoc => ?_⟩
      obtain ⟨-, heq, -⟩ | ⟨-, hstop⟩ := hsnoc
      · exact heq
      · exact absurd (.inl hconcerns) hstop
    · rw [AList.lookup_insert_ne hkey, h.unhealthy, unhealthy_of_ne hhealth hkey]
  · exact fun bdf harrives => absurd harrives (not_arrives_of_health hhealth bdf)
  · exact fun bdf hremoves => absurd hremoves (not_removes_of_health hhealth bdf)
  · rintro bdf domain ⟨-, rfl, rfl⟩ - hold
    exact hnew ((h.unhealthy _ _ _).mpr hold)
  · intro bdf domain _ hhealthy
    rw [hsev] at hhealthy
    cases hhealthy

/-- A recovery is announced as the domain leaves the record. -/
theorem recover (h : Tracks w) (event : DeviceEvent) (hhealth : event.eventType.isHealth = true)
    (hsev : isUnhealthy event.severity = false) (hold : (event.bdf, event.domain) ∈ w.unhealthy) :
    Tracks ({ w with unhealthy := w.unhealthy.erase (event.bdf, event.domain) }.emit event) := by
  have hconcerns := concerns_of_health hhealth
  refine ⟨h.known_of_health hhealth, fun bdf domain sev => ?_, h.news.snoc ⟨?_, ?_, ?_, ?_⟩⟩
  · change (w.unhealthy.erase (event.bdf, event.domain)).lookup (bdf, domain) = some sev ↔
      Unhealthy (w.events ++ [event]) bdf domain sev
    by_cases hkey : (bdf, domain) = (event.bdf, event.domain)
    · obtain ⟨rfl, rfl⟩ := Prod.mk.inj hkey
      rw [AList.lookup_erase, unhealthy_snoc]
      refine iff_of_false nofun ?_
      rintro (⟨-, rfl, hunhealthy⟩ | ⟨-, hstop⟩)
      · rw [hsev] at hunhealthy
        cases hunhealthy
      · exact hstop (.inl hconcerns)
    · rw [AList.lookup_erase_ne hkey, h.unhealthy, unhealthy_of_ne hhealth hkey]
  · exact fun bdf harrives => absurd harrives (not_arrives_of_health hhealth bdf)
  · exact fun bdf hremoves => absurd hremoves (not_removes_of_health hhealth bdf)
  · intro bdf domain _ hunhealthy
    rw [hsev] at hunhealthy
    cases hunhealthy
  · rintro bdf domain ⟨-, rfl, rfl⟩ -
    obtain ⟨sev, hsome⟩ := Option.isSome_iff_exists.mp (AList.lookup_isSome.mpr hold)
    exact ⟨sev, (h.unhealthy _ _ _).mp hsome⟩

/-- A device not known before is announced and known from there on. -/
theorem arrive (h : Tracks w) (dev : DeviceHealth) (harrives : event.Arrives event.bdf)
    (hnew : event.bdf ∉ w.known) :
    Tracks { w.emit event with known := w.known.insert event.bdf dev } := by
  have hnone := not_concerns_of_arrives harrives
  refine ⟨fun bdf => ?_, fun bdf domain sev => ?_, h.news.snoc ⟨?_, ?_, ?_, ?_⟩⟩
  · change bdf ∈ w.known.insert event.bdf dev ↔ Present (w.events ++ [event]) bdf
    rw [AList.mem_insert, present_snoc, h.known]
    refine or_congr ⟨fun heq => heq ▸ harrives, fun hbdf => hbdf.2.symm⟩ ?_
    exact ⟨fun hpresent => ⟨hpresent, not_removes_of_arrives harrives bdf⟩, fun hpresent => hpresent.1⟩
  · change w.unhealthy.lookup (bdf, domain) = some sev ↔ Unhealthy (w.events ++ [event]) bdf domain sev
    rw [h.unhealthy, unhealthy_snoc]
    exact ⟨fun hold => .inr ⟨hold, fun hstop => hstop.elim (hnone bdf domain)
      (not_removes_of_arrives harrives bdf)⟩, fun hsnoc =>
        (hsnoc.resolve_left fun hstart => hnone bdf domain hstart.1).1⟩
  · rintro bdf ⟨-, rfl⟩ hpresent
    exact hnew ((h.known _).mpr hpresent)
  · exact fun bdf hremoves => absurd hremoves (not_removes_of_arrives harrives bdf)
  · exact fun bdf domain hconcerns => absurd hconcerns (hnone bdf domain)
  · exact fun bdf domain hconcerns => absurd hconcerns (hnone bdf domain)

end Tracks

theorem lookup_foldl_erase {key : String × String} (keys : List (String × String))
    (unhealthy : AList fun _ : String × String => SeverityLevel) :
    (keys.foldl (fun unhealthy key => unhealthy.erase key) unhealthy).lookup key =
      if key ∈ keys then none else unhealthy.lookup key := by
  induction keys generalizing unhealthy with
  | nil => rw [List.foldl_nil, if_neg List.not_mem_nil]
  | cons first keys ih =>
    rw [List.foldl_cons, ih]
    by_cases hrest : key ∈ keys
    · rw [if_pos hrest, if_pos (List.mem_cons_of_mem first hrest)]
    · rw [if_neg hrest]
      by_cases heq : key = first
      · rw [heq, AList.lookup_erase, if_pos List.mem_cons_self]
      · rw [AList.lookup_erase_ne heq, if_neg fun hmem => (List.mem_cons.mp hmem).elim heq hrest]

section Remove

variable {w : HealthWatcher}

theorem remove_known (w : HealthWatcher) (bdf : String) :
    (w.remove bdf).known = w.known.erase bdf := by
  change (w.known.extract bdf).2 = _
  rw [AList.extract_eq_lookup_erase]

/-- The other devices keep their domains. -/
theorem lookup_remove (w : HealthWatcher) (bdf : String) (key : String × String) :
    (w.remove bdf).unhealthy.lookup key = if key.1 = bdf then none else w.unhealthy.lookup key := by
  change ((w.unhealthy.keys.filter fun key => key.1 = bdf).foldl (fun unhealthy key =>
    unhealthy.erase key) w.unhealthy).lookup key = _
  rw [lookup_foldl_erase]
  by_cases hbdf : key.1 = bdf
  · rw [if_pos hbdf]
    split
    case isTrue => rfl
    case isFalse hnone =>
      refine AList.lookup_eq_none.mpr fun hmem => hnone ?_
      exact List.mem_filter.mpr ⟨AList.mem_keys.mp hmem, decide_eq_true hbdf⟩
  · rw [if_neg hbdf, if_neg]
    intro hmem
    exact hbdf (of_decide_eq_true (List.mem_filter.mp hmem).2)

/-- A removal forgets the device and all its domains. -/
theorem Tracks.remove (h : Tracks w) {bdf : String} (hmem : bdf ∈ w.known) :
    Tracks (w.remove bdf) := by
  obtain ⟨event, hevents, hremoves⟩ : ∃ event : DeviceEvent,
      (w.remove bdf).events = w.events ++ [event] ∧ event.Removes bdf := ⟨_, rfl, rfl, rfl⟩
  have hnone := not_concerns_of_removes hremoves
  have hleaves (bdf' : String) : ¬event.Arrives bdf' := fun harrives =>
    not_removes_of_arrives harrives bdf hremoves
  refine ⟨fun bdf' => ?_, fun bdf' domain sev => ?_, ?_⟩
  · rw [hevents, present_snoc, remove_known, AList.mem_erase, h.known, and_comm]
    refine ⟨fun hrest => .inr ⟨hrest.1, fun hremoves' => hrest.2 ?_⟩, fun hsnoc => ?_⟩
    · exact hremoves'.2.symm.trans hremoves.2
    · obtain ⟨hpresent, hstays⟩ := hsnoc.resolve_left (hleaves bdf')
      exact ⟨hpresent, fun heq => hstays (heq ▸ hremoves)⟩
  · rw [hevents, lookup_remove, unhealthy_snoc]
    by_cases hbdf : bdf' = bdf
    · rw [if_pos hbdf]
      refine iff_of_false nofun ?_
      rintro (⟨hconcerns, -⟩ | ⟨-, hstop⟩)
      · exact hnone bdf' domain hconcerns
      · exact hstop (.inr (hbdf ▸ hremoves))
    · rw [if_neg hbdf, h.unhealthy]
      refine ⟨fun hold => .inr ⟨hold, fun hstop => hstop.elim (hnone bdf' domain) fun hremoves' =>
        hbdf (hremoves'.2.symm.trans hremoves.2)⟩, fun hsnoc => ?_⟩
      exact (hsnoc.resolve_left fun hstart => hnone bdf' domain hstart.1).1
  · rw [hevents]
    refine h.news.snoc ⟨fun bdf' harrives => absurd harrives (hleaves bdf'), fun bdf' hremoves' => ?_,
      fun bdf' domain hconcerns => absurd hconcerns (hnone bdf' domain),
      fun bdf' domain hconcerns => absurd hconcerns (hnone bdf' domain)⟩
    rw [← hremoves'.2, hremoves.2]
    exact (h.known bdf).mp hmem

end Remove

end E2eValidation

end XpuManager
