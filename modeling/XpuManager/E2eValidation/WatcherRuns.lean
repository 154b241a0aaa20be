import XpuManager.E2eValidation.Responses
import XpuManager.Lib.Runs

/-! # Runs of the health watcher

The watcher is started and stopped any number of times. A session goes over the responses of a stream, until
it ends, fails, or finds that the watcher has been stopped. -/

namespace XpuManager

namespace E2eValidation

/-! ## Sessions -/

/-- The watcher and its thread. -/
structure WatchState where
  watcher : HealthWatcher := {}
  /-- The variable `first` of `_run`, while the thread is alive. -/
  first : Option Bool := none
  stop : Bool := false
  /-- The response that was processed before the latest one. -/
  previous : DeviceHealthResponse := ⟨[], List.nodup_nil⟩
  latest : DeviceHealthResponse := ⟨[], List.nodup_nil⟩
  /-- The events of the latest response. -/
  emitted : List DeviceEvent := []

/-- What can happen to the watcher. -/
inductive WatchAction where
  | start
  | stop
  | response (response : DeviceHealthResponse) (orders : SetOrders)
  /-- The stream ends, or fails. -/
  | streamEnds

/-- One action. A watcher that is running cannot be started. -/
def WatchState.step (s : WatchState) : WatchAction → Option WatchState
  | .start => if s.first.isSome then none else some { s with first := some true, stop := false }
  | .stop => some { s with stop := true }
  | .response response orders =>
    match s.first with
    | none => none
    | some first =>
      if s.stop then some { s with first := none }
      else
        let watcher := s.watcher.processResponse orders response first
        some { s with
          watcher := watcher
          first := some false
          previous := s.latest
          latest := response
          emitted := watcher.events.drop s.watcher.events.length }
  | .streamEnds => if s.first.isSome then some { s with first := none } else none

/-! ## What the events are for -/

/-- An event shows a change from one response to the next. -/
structure Change (previous latest : DeviceHealthResponse) (event : DeviceEvent) : Prop where
  arrives : ∀ bdf, event.Arrives bdf → bdf ∉ previous.bdfs ∧ bdf ∈ latest.bdfs
  removes : ∀ bdf, event.Removes bdf → bdf ∈ previous.bdfs ∧ bdf ∉ latest.bdfs
  worsens : ∀ bdf domain, event.Concerns bdf domain → isUnhealthy event.severity = true →
    ¬previous.Reports bdf domain event.severity ∧ latest.Reports bdf domain event.severity
  recovers : ∀ bdf domain, event.Concerns bdf domain → isUnhealthy event.severity = false →
    (∃ sev, previous.Reports bdf domain sev) ∧ ∀ sev, ¬latest.Reports bdf domain sev

/-- A domain recovers if it is reported as healthy, or not at all. -/
def Recovered (latest : DeviceHealthResponse) (event : DeviceEvent) : Prop :=
  ∀ dev ∈ latest.devices, dev.bdf = event.bdf → ∀ hs ∈ dev.health, hs.name = event.domain →
    protoSevMap hs.severity = .ok

/-- **The history determines the latest response**, and no event of it was superfluous. -/
structure Determines (s : WatchState) : Prop where
  devices : ∀ bdf, Present s.watcher.events bdf ↔ bdf ∈ s.latest.bdfs
  domains : ∀ bdf domain sev,
    Unhealthy s.watcher.events bdf domain sev ↔ s.latest.Reports bdf domain sev
  recovered : ∀ event ∈ s.emitted, event.eventType = .healthRecovered → Recovered s.latest event
  news : History.Each News s.watcher.events
  changes : ∀ event ∈ s.emitted, Change s.previous s.latest event

/-- **A response continues the latest one.** The first response of a session lists all devices of the one
before it, and no unhealthy domain is reported with an unknown severity next. -/
def Continues (s : WatchState) : WatchAction → Prop
  | .response response _ => s.stop = false →
    (s.first = some true → ∀ bdf ∈ s.latest.bdfs, bdf ∈ response.bdfs) ∧
      ∀ dev ∈ response.devices, ∀ hs ∈ dev.health, protoSevMap hs.severity = .unknown →
        ∀ sev, ¬s.latest.Reports dev.bdf hs.name sev
  | _ => True

/-! ## The dictionaries follow the responses -/

/-- The watcher knows the latest response. -/
structure Follows (s : WatchState) : Prop where
  tracks : Tracks s.watcher
  known : ∀ bdf, bdf ∈ s.watcher.known ↔ bdf ∈ s.latest.bdfs
  unhealthy : ∀ bdf domain sev,
    s.watcher.unhealthy.lookup (bdf, domain) = some sev ↔ s.latest.Reports bdf domain sev
  recovered : ∀ event ∈ s.emitted, event.eventType = .healthRecovered → Recovered s.latest event
  changes : ∀ event ∈ s.emitted, Change s.previous s.latest event

section Run

variable {s t : WatchState} {response : DeviceHealthResponse} {orders : SetOrders}

theorem Follows.domain_known (h : Follows s) (key : String × String) (hkey : key ∈ s.watcher.unhealthy) :
    key.1 ∈ s.watcher.known := by
  obtain ⟨sev, hsome⟩ := Option.isSome_iff_exists.mp (AList.lookup_isSome.mpr hkey)
  exact (h.known key.1).mpr ((h.unhealthy key.1 key.2 sev).mp hsome).mem

/-- A cause of an event is a change. -/
theorem Follows.change_of_caused (h : Follows s) {event : DeviceEvent}
    (hcaused : Caused s.watcher response event) : Change s.latest response event := by
  cases hcaused with
  | @arrives dev _ hdev hnew harrives =>
    refine ⟨fun bdf hbdf => ?_, fun bdf hbdf => absurd hbdf (not_removes_of_arrives harrives bdf),
      fun bdf domain hbdf => absurd hbdf (not_concerns_of_arrives harrives bdf domain),
      fun bdf domain hbdf => absurd hbdf (not_concerns_of_arrives harrives bdf domain)⟩
    rw [← hbdf.2, harrives.2, ← h.known]
    exact ⟨hnew, List.mem_map_of_mem hdev⟩
  | @worsens dev hs hdev hhs hsev hprev =>
    have hhealth := (type_unhealthyEvent dev hs).1
    refine ⟨fun bdf hbdf => absurd hbdf (not_arrives_of_health hhealth bdf),
      fun bdf hbdf => absurd hbdf (not_removes_of_health hhealth bdf), ?_, ?_⟩
    · rintro bdf domain ⟨-, rfl, rfl⟩ -
      exact ⟨fun hreports => hprev ((h.unhealthy _ _ _).mpr hreports),
        dev, hdev, rfl, hs, hhs, rfl, rfl, hsev⟩
    · intro bdf domain _ hhealthy
      cases hhealthy.symm.trans hsev
  | @recovers dev domain hdev hnone hprev =>
    have hhealth : (HealthWatcher.recoveredEvent dev domain).eventType.isHealth = true := rfl
    refine ⟨fun bdf hbdf => absurd hbdf (not_arrives_of_health hhealth bdf),
      fun bdf hbdf => absurd hbdf (not_removes_of_health hhealth bdf), ?_, ?_⟩
    · intro bdf _ _ hunhealthy
      cases hunhealthy
    · rintro bdf _ ⟨-, rfl, rfl⟩ -
      obtain ⟨sev, hsome⟩ := Option.isSome_iff_exists.mp (AList.lookup_isSome.mpr hprev)
      refine ⟨⟨sev, (h.unhealthy _ _ _).mp hsome⟩, ?_⟩
      rintro sev' ⟨other, hother, heq, hs, hhs, hname, rfl, hunhealthy⟩
      rw [List.inj_on_of_nodup_map response.nodup hother hdev heq] at hhs
      cases (hnone hs hhs hname).symm.trans hunhealthy
  | @removed bdf _ hgone hknown hremoves =>
    refine ⟨fun bdf' hbdf => absurd hremoves (not_removes_of_arrives hbdf bdf), fun bdf' hbdf => ?_,
      fun bdf' domain hbdf => absurd hbdf (not_concerns_of_removes hremoves bdf' domain),
      fun bdf' domain hbdf => absurd hbdf (not_concerns_of_removes hremoves bdf' domain)⟩
    rw [← hbdf.2, hremoves.2, ← h.known]
    exact ⟨hknown, hgone⟩

theorem severity_of_recovered {w : HealthWatcher} {event : DeviceEvent}
    (hcaused : Caused w response event) (htype : event.eventType = .healthRecovered) :
    isUnhealthy event.severity = false := by
  have hhealth : event.eventType.isHealth = true := by rw [htype]; rfl
  cases hcaused with
  | arrives _ _ harrives => exact absurd harrives (not_arrives_of_health hhealth _)
  | worsens _ _ _ _ => exact absurd htype (type_unhealthyEvent _ _).2
  | recovers _ _ _ => rfl
  | removed _ _ hremoves => exact absurd hremoves (not_removes_of_health hhealth _)

/-- A domain does not recover because its severity is unknown. -/
theorem Follows.recovered_of_caused (h : Follows s)
    (hknown : ∀ dev ∈ response.devices, ∀ hs ∈ dev.health, protoSevMap hs.severity = .unknown →
      ∀ sev, ¬s.latest.Reports dev.bdf hs.name sev) {event : DeviceEvent}
    (hcaused : Caused s.watcher response event) (htype : event.eventType = .healthRecovered) :
    Recovered response event := by
  intro dev hdev hbdf hs hhs hname
  have hhealth : event.eventType.isHealth = true := by rw [htype]; rfl
  obtain ⟨⟨sev, hprevious⟩, hlatest⟩ := (h.change_of_caused hcaused).recovers _ _
    (concerns_of_health hhealth) (severity_of_recovered hcaused htype)
  rw [← hbdf, ← hname] at hprevious hlatest
  cases hstatus : protoSevMap hs.severity with
  | ok => rfl
  | unknown => exact absurd hprevious (hknown dev hdev hs hhs hstatus sev)
  | warning => exact absurd ⟨dev, hdev, rfl, hs, hhs, rfl, hstatus, rfl⟩ (hlatest .warning)
  | critical => exact absurd ⟨dev, hdev, rfl, hs, hhs, rfl, hstatus, rfl⟩ (hlatest .critical)
  | failed => exact absurd ⟨dev, hdev, rfl, hs, hhs, rfl, hstatus, rfl⟩ (hlatest .failed)

theorem Follows.determines (h : Follows s) : Determines s where
  devices bdf := (h.tracks.known bdf).symm.trans (h.known bdf)
  domains bdf domain sev := (h.tracks.unhealthy bdf domain sev).symm.trans (h.unhealthy bdf domain sev)
  recovered := h.recovered
  news := h.tracks.news
  changes := h.changes

/-- **Step lemma for a response.** -/
theorem Follows.receive (h : Follows s) {first : Bool} (hrunning : s.first = some first)
    (hcontinues : (s.first = some true → ∀ bdf ∈ s.latest.bdfs, bdf ∈ response.bdfs) ∧
      ∀ dev ∈ response.devices, ∀ hs ∈ dev.health, protoSevMap hs.severity = .unknown →
        ∀ sev, ¬s.latest.Reports dev.bdf hs.name sev) :
    Follows { s with
      watcher := s.watcher.processResponse orders response first
      first := some false
      previous := s.latest
      latest := response
      emitted := (s.watcher.processResponse orders response first).events.drop
        s.watcher.events.length } := by
  have hprocessed : Processed s.watcher response (s.watcher.processResponse orders response first) := by
    cases first with
    | false => exact processed_of_later h.tracks h.domain_known
    | true =>
      refine processed_of_first h.tracks h.domain_known fun bdf hbdf => ?_
      exact hcontinues.1 hrunning bdf ((h.known bdf).mp hbdf)
  have hcaused : ∀ event ∈ (s.watcher.processResponse orders response first).events.drop
      s.watcher.events.length, Caused s.watcher response event := by
    obtain ⟨new, hnew, hkind⟩ := hprocessed.emits
    rw [hnew, List.drop_left]
    exact hkind
  refine ⟨hprocessed.tracks, hprocessed.known, hprocessed.unhealthy, fun event hevent htype => ?_,
    fun event hevent => ?_⟩
  · exact h.recovered_of_caused hcontinues.2 (hcaused event hevent) htype
  · exact h.change_of_caused (hcaused event hevent)

/-- **Step lemma.** -/
theorem Follows.step (h : Follows s) {action : WatchAction} (hcontinues : Continues s action)
    (hstep : s.step action = some t) : Follows t := by
  -- What does not process a response leaves the watcher, and the responses.
  have hkeep {first : Option Bool} {stop : Bool}
      (heq : some { s with first := first, stop := stop } = some t) : Follows t := by
    obtain rfl := Option.some.inj heq
    exact ⟨h.tracks, h.known, h.unhealthy, h.recovered, h.changes⟩
  cases action with
  | start =>
    rw [WatchState.step] at hstep
    split at hstep
    case isTrue => cases hstep
    case isFalse => exact hkeep hstep
  | stop => exact hkeep hstep
  | streamEnds =>
    rw [WatchState.step] at hstep
    split at hstep
    case isTrue => exact hkeep hstep
    case isFalse => cases hstep
  | response response orders =>
    rw [WatchState.step] at hstep
    cases hfirst : s.first with
    | none =>
      rw [hfirst] at hstep
      cases hstep
    | some first =>
      rw [hfirst] at hstep
      dsimp only at hstep
      split at hstep
      case isTrue => exact hkeep hstep
      case isFalse hstop =>
        obtain rfl := Option.some.inj hstep
        exact h.receive hfirst (hcontinues (eq_false_of_ne_true hstop))

theorem follows_empty : Follows {} := by
  have hnone (bdf domain : String) (sev : SeverityLevel) :
      ¬(⟨[], List.nodup_nil⟩ : DeviceHealthResponse).Reports bdf domain sev := by
    rintro ⟨dev, hdev, -⟩
    cases hdev
  refine ⟨⟨fun bdf => ?_, fun bdf domain sev => ?_, History.each_nil⟩, fun bdf => ?_,
    fun bdf domain sev => ?_, fun _ hmem => ?_, fun _ hmem => ?_⟩
  · exact iff_of_false (AList.notMem_empty bdf) History.not_since_nil
  · exact iff_of_false nofun History.not_since_nil
  · exact iff_of_false (AList.notMem_empty bdf) List.not_mem_nil
  · exact iff_of_false nofun (hnone bdf domain sev)
  · cases hmem
  · cases hmem

/-- **The history determines the latest response**, after every run in which every response continues the
one before it. -/
theorem history_determines (actions : List WatchAction) (s : WatchState)
    (hcontinues : Runs.Meets WatchState.step Continues {} actions)
    (hrun : Runs.follow WatchState.step {} actions = some s) : Determines s := by
  refine Follows.determines ?_
  refine Runs.follow_invariant (fun s action t h hok hstep => ?_) follows_empty hcontinues hrun
  exact Follows.step h hok hstep

end Run

/-! ## A device that vanishes between two sessions -/

/-- The sets in the order in which they were built. -/
def setOrders : SetOrders := ⟨id, .refl, id, .refl⟩

/-- A device with one health domain. -/
def memoryDevice (severity : Int) : DeviceHealth where
  info := ⟨"0001", "B580", some "0000:03:00.0"⟩
  health := [⟨"memory", severity, "", ""⟩]
  nodup := List.nodup_singleton _

/-- A response with one device, with this severity of its memory. -/
def memoryResponse (severity : Int) : DeviceHealthResponse where
  devices := [memoryDevice severity]
  nodup := List.nodup_singleton _

theorem continues_memoryResponse {s : WatchState} {severity : Int}
    (hlisted : ∀ bdf ∈ s.latest.bdfs, bdf ∈ (memoryResponse severity).bdfs)
    (hknown : protoSevMap severity ≠ .unknown) :
    Continues s (.response (memoryResponse severity) setOrders) := by
  refine fun _ => ⟨fun _ => hlisted, fun dev hdev hs hhs hunknown => ?_⟩
  obtain rfl := List.mem_singleton.mp hdev
  obtain rfl := List.mem_singleton.mp hhs
  exact absurd hunknown hknown

/-- A warning, and its end in the next session. -/
theorem history_determines_sample : ∃ s,
    Runs.follow WatchState.step {} [.start, .response (memoryResponse 2) setOrders, .streamEnds,
      .start, .response (memoryResponse 1) setOrders] = some s ∧ Determines s := by
  refine ⟨_, rfl, history_determines [.start, .response (memoryResponse 2) setOrders, .streamEnds,
    .start, .response (memoryResponse 1) setOrders] _ ?_ rfl⟩
  refine .cons trivial rfl (.cons (continues_memoryResponse nofun (by decide)) rfl
    (.cons trivial rfl (.cons trivial rfl (.cons (continues_memoryResponse (fun _ h => h)
      (by decide)) rfl trivial))))

/-- No event tells that the device has vanished. -/
theorem history_not_determines : ¬∀ (actions : List WatchAction) (s : WatchState),
    Runs.follow WatchState.step {} actions = some s → Determines s := by
  intro h
  have hdetermines := h [.start, .response (memoryResponse 1) setOrders, .streamEnds, .start,
    .response ⟨[], List.nodup_nil⟩ setOrders] _ rfl
  refine List.not_mem_nil ((hdetermines.devices "0000:03:00.0").mp ?_)
  exact ⟨[], HealthWatcher.arrivalEvent (memoryDevice 1) true, [], by decide +kernel,
    arrives_arrivalEvent (memoryDevice 1) true, fun _ hlater => absurd hlater List.not_mem_nil⟩

end E2eValidation

end XpuManager
