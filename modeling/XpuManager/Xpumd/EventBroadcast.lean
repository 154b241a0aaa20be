import XpuManager.Lib.Runs
import XpuManager.Xpumd.DeviceEvents

/-! # Events for the clients

For each driver a thread listens for events and hands them to the exporter
(`receiver/intelxpu/sysman/events.go`), which sends them one by one to all clients that it finds in a map
(`exporter/intelxpuinfo/deviceinfo.go`). Then the thread scans the devices again that were attached. Clients
come and go, and the threads run at the same time. -/

namespace XpuManager

open FlagBits

variable {U C : Type} [DecidableEq U] [DecidableEq C]

/-! ## The system -/

/-- `broadcastEvents` in `Range`: it has yet to visit the clients in `due`, which have been in the map ever
since it began, and may visit those in `others`, which entered or left the map in the meantime. -/
structure Broadcast (C : Type) where
  /-- The number of the report. -/
  number : Nat
  events : List DeviceEventResponse
  due : List C
  others : List C
  /-- The client that is sent the events, and those that are left for it. -/
  current : Option (C × List DeviceEventResponse)

/-- The events that a driver has reported, and of which devices. -/
structure Report (U : Type) where
  listener : U
  devices : List EventAttributes
  flags : List EventTypeFlags

def Report.events (report : Report U) : List DeviceEventResponse :=
  deviceEvents report.devices report.flags

/-- Where a client's call of `WatchDeviceEvents` stands. -/
inductive EventClientPhase where
  | connected
  | watching
  | closed
  deriving DecidableEq

/-- The threads `U` and the clients `C`, what was sent to each client, and of what report. -/
structure EventServer (U C : Type) where
  devices : U → List EventAttributes
  /-- The devices that are to be scanned again. -/
  rescans : U → List Nat
  broadcast : U → Option (Broadcast C)
  client : C → EventClientPhase
  deviceEventClients : List C
  received : C → List (Nat × DeviceEventResponse)
  reports : List (Report U)
  /-- The clients that have been in the map since the report. -/
  audience : Nat → List C
  /-- The sends that failed. -/
  failed : List (Nat × C)

/-- What the threads and the clients can do. -/
inductive EventAction (U C : Type) where
  | listen (u : U) (r : ListenResult)
  | visit (u : U) (c : C)
  | send (u : U) (success : Bool)
  | endRange (u : U)
  /-- `init` of a device, which may fail. -/
  | rescan (u : U) (attrs : Option EventAttributes)
  | store (c : C)
  | delete (c : C)

namespace Broadcast

/-- A client is visited. -/
def visit (c : C) (b : Broadcast C) : Broadcast C :=
  { b with
    due := b.due.filter (· ≠ c)
    others := b.others.filter (· ≠ c)
    current := some (c, b.events) }

/-- A client enters the map. -/
def store (c : C) (b : Broadcast C) : Broadcast C := { b with others := c :: b.others }

/-- A client leaves the map. -/
def delete (c : C) (b : Broadcast C) : Broadcast C :=
  if c ∈ b.due then { b with due := b.due.filter (· ≠ c), others := c :: b.others } else b

/-- The thread has yet to send the client some events. -/
def Owes (b : Broadcast C) (c : C) : Prop := c ∈ b.due ∨ ∃ rest, b.current = some (c, rest)

end Broadcast

/-- The devices of these flags that have been attached. -/
def attached (flags : List EventTypeFlags) : List Nat :=
  (List.range flags.length).filter fun i => (flags[i]?.getD 0) &&& 2 ≠ 0

namespace EventServer

/-- The events of some logs are broadcast; without any, `broadcastEvents` returns at once. -/
def push (s : EventServer U C) (u : U) (ld : Logs) (flags : List EventTypeFlags) : EventServer U C :=
  let events := translateEvents ld
  let n := s.reports.length
  { s with
    rescans := Function.update s.rescans u (attached flags)
    broadcast := if events = [] then s.broadcast
      else Function.update s.broadcast u (some ⟨n, events, s.deviceEventClients, [], none⟩)
    reports := s.reports ++ [⟨u, s.devices u, flags⟩]
    audience := Function.update s.audience n s.deviceEventClients }

/-- A send of the next event to the client that is visited. An error ends the visit. -/
def send (s : EventServer U C) (u : U) (b : Broadcast C) (c : C) (event : DeviceEventResponse)
    (rest : List DeviceEventResponse) (success : Bool) : EventServer U C :=
  if success then
    { s with
      received := Function.update s.received c (s.received c ++ [(b.number, event)])
      broadcast := Function.update s.broadcast u
        (some { b with current := if rest = [] then none else some (c, rest) }) }
  else
    { s with
      failed := s.failed ++ [(b.number, c)]
      broadcast := Function.update s.broadcast u (some { b with current := none }) }

/-- A step of a thread or of a client; none where it cannot be taken. -/
def step (s : EventServer U C) : EventAction U C → Option (EventServer U C)
  | .listen u r =>
    if s.broadcast u = none ∧ s.rescans u = [] then
      match listen (s.devices u) r with
      | none => some s
      | some ld => some (s.push u ld r.deviceEvents)
    else none
  | .visit u c =>
    match s.broadcast u with
    | none => none
    | some b =>
      if b.current.isNone ∧ (c ∈ b.due ∨ c ∈ b.others) then
        some { s with broadcast := Function.update s.broadcast u (some (b.visit c)) }
      else none
  | .send u success =>
    match s.broadcast u with
    | none => none
    | some b =>
      match b.current with
      | some (c, event :: rest) => some (s.send u b c event rest success)
      | _ => none
  | .endRange u =>
    match s.broadcast u with
    | none => none
    | some b =>
      if b.current.isNone ∧ b.due = [] then
        some { s with broadcast := Function.update s.broadcast u none }
      else none
  | .rescan u attrs =>
    if s.broadcast u = none then
      match s.rescans u with
      | [] => none
      | i :: rest => some { s with
          rescans := Function.update s.rescans u rest
          devices := Function.update s.devices u
            ((s.devices u).modify i fun old => (attrs.map ({ · with hwName := old.hwName })).getD old) }
    else none
  | .store c =>
    if s.client c = .connected then
      some { s with
        client := Function.update s.client c .watching
        deviceEventClients := c :: s.deviceEventClients
        broadcast := fun u => (s.broadcast u).map (Broadcast.store c) }
    else none
  | .delete c =>
    if s.client c = .watching then
      some { s with
        client := Function.update s.client c .closed
        deviceEventClients := s.deviceEventClients.filter (· ≠ c)
        broadcast := fun u => (s.broadcast u).map (Broadcast.delete c)
        audience := fun n => (s.audience n).filter (· ≠ c) }
    else none

/-- No client yet, and the devices as they were found. -/
def init (devices : U → List EventAttributes) : EventServer U C where
  devices := devices
  rescans := fun _ => []
  broadcast := fun _ => none
  client := fun _ => .connected
  deviceEventClients := []
  received := fun _ => []
  reports := []
  audience := fun _ => []
  failed := []

/-- The events of a report. -/
def events (s : EventServer U C) (n : Nat) : List DeviceEventResponse :=
  (s.reports[n]?.map Report.events).getD []

/-- What a client has been sent of a report. -/
def got (s : EventServer U C) (c : C) (n : Nat) : List DeviceEventResponse :=
  ((s.received c).filter fun sent => sent.1 = n).map Prod.snd

/-- The thread has done with the report. -/
def Over (s : EventServer U C) (n : Nat) : Prop := ∀ u b, s.broadcast u = some b → b.number ≠ n

/-- What every client has been sent of every report: first events of it, and all of them where the client
has been in the map from the report on until the thread had done with it and no send failed. -/
structure Delivered (s : EventServer U C) : Prop where
  started : ∀ c n report, s.reports[n]? = some report → s.got c n <+: report.events
  whole : ∀ c n report, s.reports[n]? = some report → s.Over n → c ∈ s.audience n →
    (n, c) ∉ s.failed → s.got c n = report.events
  /-- Nothing but events of reports. -/
  known : ∀ c, ∀ sent ∈ s.received c, sent.1 < s.reports.length
  /-- The reports of a driver in their order. -/
  sorted : ∀ c, (s.received c).Pairwise fun sent later =>
    s.reports[sent.1]?.map Report.listener = s.reports[later.1]?.map Report.listener →
      sent.1 ≤ later.1

/-! ## What every step keeps -/

/-- What is known of a thread that is sending events. -/
structure BroadcastOk (s : EventServer U C) (u : U) (b : Broadcast C) : Prop where
  events : b.events = s.events b.number ∧ b.events ≠ []
  newest : s.reports[b.number]?.map Report.listener = some u ∧
    ∀ m report, s.reports[m]? = some report → report.listener = u → m ≤ b.number
  waiting : ∀ c, c ∈ b.due ∨ c ∈ b.others → s.got c b.number = [] ∧ s.client c ≠ .connected
  current : ∀ c rest, b.current = some (c, rest) → rest ≠ [] ∧
    s.got c b.number ++ rest = s.events b.number ∧ c ∉ b.due ∧ c ∉ b.others ∧ s.client c ≠ .connected

/-- **The invariant of every run.** -/
structure Delivering (s : EventServer U C) : Prop where
  broadcasts : ∀ u b, s.broadcast u = some b → s.BroadcastOk u b
  started : ∀ c n, s.got c n <+: s.events n
  whole : ∀ n c, n < s.reports.length → c ∈ s.audience n → (n, c) ∉ s.failed →
    s.got c n = s.events n ∨ ∃ u b, s.broadcast u = some b ∧ b.number = n ∧ b.Owes c
  known : ∀ c, ∀ sent ∈ s.received c, sent.1 < s.reports.length
  sorted : ∀ c, (s.received c).Pairwise fun sent later =>
    s.reports[sent.1]?.map Report.listener = s.reports[later.1]?.map Report.listener →
      sent.1 ≤ later.1
  connected : ∀ c, s.client c = .connected → s.received c = []
  listed : ∀ c ∈ s.deviceEventClients, s.client c = .watching

section Steps

variable {s t : EventServer U C} {u : U} {b : Broadcast C} {c : C}

omit [DecidableEq U] [DecidableEq C] in
theorem delivering_init (devices : U → List EventAttributes) :
    Delivering (init devices : EventServer U C) where
  broadcasts u b h := by cases h
  started c n := List.nil_prefix
  whole n c h := by cases h
  known c sent h := by cases h
  sorted c := List.Pairwise.nil
  connected c _ := rfl
  listed c h := by cases h

omit [DecidableEq U] [DecidableEq C] in
theorem events_of_report {n : Nat} {report : Report U} (h : s.reports[n]? = some report) :
    s.events n = report.events := by
  rw [events, h]
  rfl

omit [DecidableEq U] [DecidableEq C] in
theorem got_eq_nil (h : Delivering s) (n : Nat) (hn : s.reports.length ≤ n) : s.got c n = [] := by
  rw [got, List.map_eq_nil_iff, List.filter_eq_nil_iff]
  intro sent hmem hsame
  have hlt := h.known c sent hmem
  have hn' := of_decide_eq_true hsame
  omega

omit [DecidableEq U] [DecidableEq C] in
theorem BroadcastOk.lt (h : s.BroadcastOk u b) : b.number < s.reports.length := by
  obtain ⟨report, hreport, -⟩ := Option.map_eq_some_iff.mp h.newest.1
  exact (List.getElem?_eq_some_iff.mp hreport).1

omit [DecidableEq U] [DecidableEq C] in
/-- What a step of others leaves of it. -/
theorem BroadcastOk.frame (h : s.BroadcastOk u b)
    (hreports : ∀ m, t.reports[m]? = s.reports[m]? ∨
      m ≠ b.number ∧ ∀ report, t.reports[m]? = some report → report.listener ≠ u)
    (hgot : ∀ c, t.got c b.number = s.got c b.number)
    (hclient : ∀ c, t.client c = .connected → s.client c = .connected) : t.BroadcastOk u b := by
  have hsame : t.reports[b.number]? = s.reports[b.number]? :=
    (hreports b.number).resolve_right fun hno => hno.1 rfl
  have hevents : t.events b.number = s.events b.number := by
    rw [EventServer.events, hsame, EventServer.events]
  refine ⟨by rw [hevents]; exact h.events, ⟨by rw [hsame]; exact h.newest.1, ?_⟩,
    fun c hc => ?_, fun c rest hcurrent => ?_⟩
  · intro m report hreport hlistener
    obtain hm | ⟨-, hother⟩ := hreports m
    · exact h.newest.2 m report (hm.symm.trans hreport) hlistener
    · exact absurd hlistener (hother report hreport)
  · obtain ⟨hnone, hconnected⟩ := h.waiting c hc
    exact ⟨(hgot c).trans hnone, fun hc' => hconnected (hclient c hc')⟩
  · obtain ⟨hne, hrest, hdue, hothers, hconnected⟩ := h.current c rest hcurrent
    rw [hgot, hevents]
    exact ⟨hne, hrest, hdue, hothers, fun hc' => hconnected (hclient c hc')⟩

omit [DecidableEq U] [DecidableEq C] in
/-- The events of a report are sent by the thread that heard of it. -/
theorem Delivering.number_ne (h : Delivering s) {u' : U} {b' : Broadcast C}
    (hb : s.broadcast u = some b) (hb' : s.broadcast u' = some b') (hu : u' ≠ u) :
    b'.number ≠ b.number := by
  intro hsame
  have hlistener := (h.broadcasts u' b' hb').newest.1
  rw [hsame, (h.broadcasts u b hb).newest.1] at hlistener
  exact hu (Option.some.inj hlistener).symm

/-! ### Threads -/

omit [DecidableEq C] in
/-- The reports before a new one stay where they are. -/
theorem reports_push_of_ne (ld : Logs) (flags : List EventTypeFlags) {m : Nat}
    (hm : m ≠ s.reports.length) : (s.push u ld flags).reports[m]? = s.reports[m]? := by
  rw [EventServer.push]
  obtain hlt | hgt := Nat.lt_or_gt_of_ne hm
  · exact List.getElem?_append_left hlt
  · rw [List.getElem?_eq_none (by simp; omega), List.getElem?_eq_none (by omega)]

omit [DecidableEq C] in
theorem reports_push_self (ld : Logs) (flags : List EventTypeFlags) :
    (s.push u ld flags).reports[s.reports.length]? = some ⟨u, s.devices u, flags⟩ := by
  simp [EventServer.push]

omit [DecidableEq C] in
theorem length_reports_push (ld : Logs) (flags : List EventTypeFlags) :
    (s.push u ld flags).reports.length = s.reports.length + 1 :=
  List.length_append

section Push

variable {r : ListenResult} {ld : Logs}

omit [DecidableEq C] in
/-- What is known of the threads that are sending events stays, when another one reports some. -/
theorem Delivering.broadcastOk_push (h : Delivering s) (hidle : s.broadcast u = none) {u' : U}
    {b' : Broadcast C} (hb' : s.broadcast u' = some b') (flags : List EventTypeFlags) :
    (s.push u ld flags).BroadcastOk u' b' := by
  have hok := h.broadcasts u' b' hb'
  refine hok.frame (fun m => ?_) (fun _ => rfl) fun _ => id
  by_cases hm : m = s.reports.length
  · refine .inr ⟨fun hsame => absurd hok.lt (by omega), fun report hreport => ?_⟩
    rw [hm, reports_push_self] at hreport
    obtain rfl := Option.some.inj hreport
    rintro rfl
    rw [hidle] at hb'
    cases hb'
  · exact .inl (reports_push_of_ne ld flags hm)

omit [DecidableEq C] in
/-- The thread itself has yet to send everything. -/
theorem Delivering.broadcastOk_push_self (h : Delivering s)
    (hlisten : listen (s.devices u) r = some ld) (hne : translateEvents ld ≠ []) :
    (s.push u ld r.deviceEvents).BroadcastOk u
      ⟨s.reports.length, translateEvents ld, s.deviceEventClients, [], none⟩ := by
  have hnew := reports_push_self (s := s) (u := u) ld r.deviceEvents
  refine ⟨⟨?_, hne⟩, ⟨congrArg (Option.map Report.listener) hnew, fun m report hreport _ => ?_⟩,
    fun c hc => ⟨got_eq_nil h _ le_rfl, ?_⟩, fun c rest hcurrent => (by cases hcurrent)⟩
  · exact (translateEvents_listen hlisten).trans (events_of_report hnew).symm
  · have hlt := (List.getElem?_eq_some_iff.mp hreport).1
    rw [length_reports_push] at hlt
    exact Nat.lt_succ_iff.mp hlt
  · have hwatching := h.listed c (hc.resolve_right List.not_mem_nil)
    change s.client c ≠ _
    rw [hwatching]
    decide

omit [DecidableEq C] in
/-- The new report is owed to the clients in the map, and the others as before. -/
theorem Delivering.whole_push (h : Delivering s) (hidle : s.broadcast u = none)
    (hlisten : listen (s.devices u) r = some ld) {n : Nat}
    (hn : n < (s.push u ld r.deviceEvents).reports.length)
    (hc : c ∈ (s.push u ld r.deviceEvents).audience n) (hfailed : (n, c) ∉ s.failed) :
    (s.push u ld r.deviceEvents).got c n = (s.push u ld r.deviceEvents).events n ∨
      ∃ u' b', (s.push u ld r.deviceEvents).broadcast u' = some b' ∧ b'.number = n ∧ b'.Owes c := by
  by_cases hnew : n = s.reports.length
  · subst hnew
    by_cases hne : translateEvents ld = []
    · have hevents : translateEvents ld = (⟨u, s.devices u, r.deviceEvents⟩ : Report U).events :=
        translateEvents_listen hlisten
      refine .inl ((got_eq_nil h _ le_rfl).trans ?_)
      rw [events_of_report (reports_push_self ld r.deviceEvents), ← hevents, hne]
    · refine .inr ⟨u, ⟨s.reports.length, translateEvents ld, s.deviceEventClients, [], none⟩, ?_, rfl,
        .inl ?_⟩
      · rw [EventServer.push]
        dsimp only
        rw [if_neg hne, Function.update_self]
      · rw [EventServer.push] at hc
        dsimp only at hc
        rwa [Function.update_self] at hc
  · rw [length_reports_push] at hn
    rw [EventServer.push] at hc
    dsimp only at hc
    rw [Function.update_of_ne hnew] at hc
    refine (h.whole n c (by omega) hc hfailed).imp (fun hwhole => ?_) ?_
    · rw [EventServer.events, reports_push_of_ne ld r.deviceEvents hnew]
      exact hwhole
    · rintro ⟨u', b', hb', hnumber, howes⟩
      refine ⟨u', b', ?_, hnumber, howes⟩
      rw [EventServer.push]
      dsimp only
      split
      case isTrue => exact hb'
      case isFalse =>
        rw [Function.update_of_ne (by rintro rfl; rw [hidle] at hb'; cases hb')]
        exact hb'

omit [DecidableEq C] in
/-- A device gives events and their broadcast begins. -/
theorem Delivering.push (h : Delivering s) (hidle : s.broadcast u = none)
    (hlisten : listen (s.devices u) r = some ld) : Delivering (s.push u ld r.deviceEvents) := by
  refine ⟨fun u' b' hb' => ?_, fun c m => ?_, fun n c => h.whole_push hidle hlisten,
    fun c sent hsent => ?_, fun c => ?_, h.connected, h.listed⟩
  · rw [EventServer.push] at hb'
    dsimp only at hb'
    split at hb'
    case isTrue => exact h.broadcastOk_push hidle hb' _
    case isFalse hne =>
      by_cases hu : u' = u
      · subst hu
        rw [Function.update_self] at hb'
        obtain rfl := Option.some.inj hb'
        exact h.broadcastOk_push_self hlisten hne
      · rw [Function.update_of_ne hu] at hb'
        exact h.broadcastOk_push hidle hb' _
  · by_cases hm : m = s.reports.length
    · change s.got c m <+: _
      rw [got_eq_nil h m (Nat.le_of_eq hm.symm)]
      exact List.nil_prefix
    · rw [EventServer.events, reports_push_of_ne ld r.deviceEvents hm]
      exact h.started c m
  · rw [length_reports_push]
    exact Nat.lt_succ_of_lt (h.known c sent hsent)
  · refine (h.sorted c).imp_of_mem fun {sent later} hsent hlater hle hsame => hle ?_
    have hsent' := h.known c sent hsent
    have hlater' := h.known c later hlater
    rwa [reports_push_of_ne ld _ (by omega), reports_push_of_ne ld _ (by omega)] at hsame

end Push

/-- A broadcast comes to a client. -/
theorem Delivering.visit (h : Delivering s) (hb : s.broadcast u = some b) (hcurrent : b.current = none)
    (hc : c ∈ b.due ∨ c ∈ b.others) :
    Delivering { s with broadcast := Function.update s.broadcast u (some (b.visit c)) } := by
  have hok := h.broadcasts u b hb
  refine ⟨fun u' b' hb' => ?_, h.started, fun n c' hn hc' hfailed => ?_, h.known, h.sorted,
    h.connected, h.listed⟩
  · dsimp only at hb'
    by_cases hu : u' = u
    · subst hu
      rw [Function.update_self] at hb'
      obtain rfl := Option.some.inj hb'
      obtain ⟨hnone, hconnected⟩ := hok.waiting c hc
      refine ⟨hok.events, hok.newest, fun c' hc' => hok.waiting c' ?_, fun c' rest hrest => ?_⟩
      · exact hc'.imp (fun hmem => (List.mem_filter.mp hmem).1) fun hmem => (List.mem_filter.mp hmem).1
      · obtain ⟨rfl, rfl⟩ := Prod.mk.inj (Option.some.inj hrest)
        have hgot : s.got c b.number ++ b.events = s.events b.number := by
          rw [hnone, hok.events.1, List.nil_append]
        exact ⟨hok.events.2, hgot, by simp [Broadcast.visit], by simp [Broadcast.visit], hconnected⟩
    · rw [Function.update_of_ne hu] at hb'
      exact (h.broadcasts u' b' hb').frame (fun _ => .inl rfl) (fun _ => rfl) fun _ => id
  · refine (h.whole n c' hn hc' hfailed).imp_right ?_
    rintro ⟨u', b', hb', hnumber, howes⟩
    by_cases hu : u' = u
    · subst hu
      obtain rfl := Option.some.inj (hb.symm.trans hb')
      refine ⟨u', b.visit c, Function.update_self .., hnumber, ?_⟩
      obtain hdue | ⟨rest, hrest⟩ := howes
      · by_cases hsame : c' = c
        · exact .inr ⟨b.events, by rw [hsame]; rfl⟩
        · exact .inl (List.mem_filter.mpr ⟨hdue, decide_eq_true hsame⟩)
      · rw [hcurrent] at hrest
        cases hrest
    · exact ⟨u', b', (Function.update_of_ne hu _ _).trans hb', hnumber, howes⟩

/-- What one more event adds to what a client has been sent. -/
theorem filter_snoc (sent : List (Nat × DeviceEventResponse)) (n m : Nat) (event : DeviceEventResponse) :
    ((sent ++ [(n, event)]).filter fun e => e.1 = m).map Prod.snd =
      (sent.filter fun e => e.1 = m).map Prod.snd ++ if n = m then [event] else [] := by
  rw [List.filter_append, List.map_append]
  split
  case isTrue h => simp [h]
  case isFalse h => simp [h]

section Send

variable {event : DeviceEventResponse} {rest : List DeviceEventResponse}

/-- What the clients have been sent of the reports, after one more event. -/
theorem got_send (c' : C) (m : Nat) : (s.send u b c event rest true).got c' m =
    s.got c' m ++ if c' = c ∧ b.number = m then [event] else [] := by
  change ((Function.update s.received c _ c').filter _).map _ = _
  by_cases hc : c' = c
  · subst hc
    rw [Function.update_self, filter_snoc]
    simp only [true_and]
    rfl
  · rw [Function.update_of_ne hc, if_neg fun hno => hc hno.1, List.append_nil]
    rfl

/-- The event and the rest are what the client had yet to be sent of the report. -/
theorem BroadcastOk.got_send_append (h : s.BroadcastOk u b)
    (hcurrent : b.current = some (c, event :: rest)) :
    (s.send u b c event rest true).got c b.number ++ rest = s.events b.number := by
  obtain ⟨-, hrest, -⟩ := h.current c _ hcurrent
  rw [got_send, if_pos ⟨rfl, rfl⟩, List.append_assoc]
  exact hrest

/-- The thread goes on with the rest. -/
theorem BroadcastOk.send (h : s.BroadcastOk u b) (hcurrent : b.current = some (c, event :: rest)) :
    (s.send u b c event rest true).BroadcastOk u
      { b with current := if rest = [] then none else some (c, rest) } := by
  obtain ⟨-, -, hdue, hothers, hconnected⟩ := h.current c _ hcurrent
  refine ⟨h.events, h.newest, fun c' hc' => ?_, fun c' rest' hrest' => ?_⟩
  · have hne : c' ≠ c := by
      rintro rfl
      exact hc'.elim hdue hothers
    have hsame : (s.send u b c event rest true).got c' b.number = s.got c' b.number := by
      rw [got_send, if_neg fun hno => hne hno.1, List.append_nil]
    exact ⟨hsame.trans (h.waiting c' hc').1, (h.waiting c' hc').2⟩
  · dsimp only at hrest'
    split at hrest'
    case isTrue => cases hrest'
    case isFalse hne =>
      obtain ⟨rfl, rfl⟩ := Prod.mk.inj (Option.some.inj hrest')
      exact ⟨hne, h.got_send_append hcurrent, hdue, hothers, hconnected⟩

/-- Either this was the last event, or the rest of them is still owed. -/
theorem Delivering.whole_send (h : Delivering s) (hb : s.broadcast u = some b)
    (hcurrent : b.current = some (c, event :: rest)) {n : Nat} {c' : C}
    (hn : n < s.reports.length) (hc' : c' ∈ s.audience n) (hfailed : (n, c') ∉ s.failed) :
    (s.send u b c event rest true).got c' n = s.events n ∨
      ∃ u' b', (s.send u b c event rest true).broadcast u' = some b' ∧ b'.number = n ∧ b'.Owes c' := by
  by_cases hsame : c' = c ∧ b.number = n
  · obtain ⟨rfl, rfl⟩ := hsame
    have hmore := (h.broadcasts u b hb).got_send_append hcurrent
    by_cases hend : rest = []
    · refine .inl ?_
      rw [hend, List.append_nil] at hmore
      rw [hend]
      exact hmore
    · refine .inr ⟨u, _, Function.update_self .., rfl, .inr ⟨rest, ?_⟩⟩
      exact if_neg hend
  · rw [got_send, if_neg hsame, List.append_nil]
    refine (h.whole n c' hn hc' hfailed).imp_right ?_
    rintro ⟨u', b', hb', hnumber, howes⟩
    by_cases hu : u' = u
    · subst hu
      obtain rfl := Option.some.inj (hb.symm.trans hb')
      refine ⟨u', _, Function.update_self .., hnumber, .inl ?_⟩
      obtain hmem | ⟨rest', hrest'⟩ := howes
      · exact hmem
      · rw [hcurrent] at hrest'
        obtain ⟨rfl, -⟩ := Prod.mk.inj (Option.some.inj hrest')
        exact absurd ⟨rfl, hnumber⟩ hsame
    · exact ⟨u', b', (Function.update_of_ne hu _ _).trans hb', hnumber, howes⟩

omit [DecidableEq U] [DecidableEq C] in
/-- The report of the event is the newest one of its driver. -/
theorem Delivering.sorted_send (h : Delivering s) (hb : s.broadcast u = some b) :
    (s.received c ++ [(b.number, event)]).Pairwise fun sent later =>
      s.reports[sent.1]?.map Report.listener = s.reports[later.1]?.map Report.listener →
        sent.1 ≤ later.1 := by
  have hok := h.broadcasts u b hb
  refine List.pairwise_append.mpr ⟨h.sorted c, List.pairwise_singleton _ _, ?_⟩
  intro sent hmem later hlater hsame
  obtain rfl := List.mem_singleton.mp hlater
  obtain ⟨report, hreport⟩ : ∃ report, s.reports[sent.1]? = some report :=
    ⟨_, List.getElem?_eq_getElem (h.known c sent hmem)⟩
  refine hok.newest.2 sent.1 report hreport ?_
  have hlistener : s.reports[sent.1]?.map Report.listener = some u := hsame.trans hok.newest.1
  rw [hreport] at hlistener
  exact Option.some.inj hlistener

/-- One event is sent to the client the broadcast stands at. -/
theorem Delivering.send (h : Delivering s) (hb : s.broadcast u = some b)
    (hcurrent : b.current = some (c, event :: rest)) : Delivering (s.send u b c event rest true) := by
  have hok := h.broadcasts u b hb
  refine ⟨fun u' b' hb' => ?_, fun c' m => ?_, fun n c' => h.whole_send hb hcurrent,
    fun c' sent hmem => ?_, fun c' => ?_, fun c' hc' => ?_, h.listed⟩
  · -- another broadcast is of another report, so that what it has sent stays
    change Function.update s.broadcast u _ u' = _ at hb'
    by_cases hu : u' = u
    · subst hu
      rw [Function.update_self] at hb'
      obtain rfl := Option.some.inj hb'
      exact hok.send hcurrent
    · rw [Function.update_of_ne hu] at hb'
      refine (h.broadcasts u' b' hb').frame (fun _ => .inl rfl) (fun c' => ?_) fun _ => id
      rw [got_send, if_neg fun hno => h.number_ne hb hb' hu hno.2.symm, List.append_nil]
  · by_cases hsame : c' = c ∧ b.number = m
    · obtain ⟨rfl, rfl⟩ := hsame
      exact ⟨rest, hok.got_send_append hcurrent⟩
    · rw [got_send, if_neg hsame, List.append_nil]
      exact h.started c' m
  · change sent ∈ Function.update s.received c _ c' at hmem
    by_cases hc : c' = c
    · subst hc
      rw [Function.update_self] at hmem
      obtain hmem | hmem := List.mem_append.mp hmem
      · exact h.known c' sent hmem
      · obtain rfl := List.mem_singleton.mp hmem
        exact hok.lt
    · rw [Function.update_of_ne hc] at hmem
      exact h.known c' sent hmem
  · change (Function.update s.received c _ c').Pairwise _
    by_cases hc : c' = c
    · subst hc
      rw [Function.update_self]
      exact h.sorted_send hb
    · rw [Function.update_of_ne hc]
      exact h.sorted c'
  · change Function.update s.received c _ c' = []
    obtain ⟨-, -, -, -, hconnected⟩ := hok.current c _ hcurrent
    have hne : c' ≠ c := by
      rintro rfl
      exact hconnected hc'
    rw [Function.update_of_ne hne]
    exact h.connected c' hc'

end Send

/-- A failed send gives up this client alone. -/
theorem Delivering.send_failed (h : Delivering s) {event : DeviceEventResponse}
    {rest : List DeviceEventResponse} (hb : s.broadcast u = some b)
    (hcurrent : b.current = some (c, event :: rest)) : Delivering (s.send u b c event rest false) := by
  have hok := h.broadcasts u b hb
  refine ⟨fun u' b' hb' => ?_, h.started, fun n c' hn hc' hfailed => ?_, h.known, h.sorted,
    h.connected, h.listed⟩
  · change Function.update s.broadcast u _ u' = _ at hb'
    by_cases hu : u' = u
    · subst hu
      rw [Function.update_self] at hb'
      obtain rfl := Option.some.inj hb'
      exact ⟨hok.events, hok.newest, hok.waiting, fun c' rest' hrest' => by cases hrest'⟩
    · rw [Function.update_of_ne hu] at hb'
      exact (h.broadcasts u' b' hb').frame (fun _ => .inl rfl) (fun _ => rfl) fun _ => id
  · have hno : (n, c') ∉ s.failed ∧ ¬(n, c') = (b.number, c) := by
      change (n, c') ∉ s.failed ++ [(b.number, c)] at hfailed
      rwa [List.mem_append, List.mem_singleton, not_or] at hfailed
    refine (h.whole n c' hn hc' hno.1).imp_right ?_
    rintro ⟨u', b', hb', hnumber, howes⟩
    by_cases hu : u' = u
    · subst hu
      obtain rfl := Option.some.inj (hb.symm.trans hb')
      refine ⟨u', _, Function.update_self .., hnumber, .inl ?_⟩
      obtain hmem | ⟨rest', hrest'⟩ := howes
      · exact hmem
      · rw [hcurrent] at hrest'
        obtain ⟨rfl, -⟩ := Prod.mk.inj (Option.some.inj hrest')
        exact absurd (by rw [hnumber]) hno.2
    · exact ⟨u', b', (Function.update_of_ne hu _ _).trans hb', hnumber, howes⟩

omit [DecidableEq C] in
/-- The broadcast ends once no client is due. -/
theorem Delivering.endRange (h : Delivering s) (hb : s.broadcast u = some b)
    (hcurrent : b.current = none) (hdue : b.due = []) :
    Delivering { s with broadcast := Function.update s.broadcast u none } := by
  refine ⟨fun u' b' hb' => ?_, h.started, fun n c hn hc hfailed => ?_, h.known, h.sorted,
    h.connected, h.listed⟩
  · dsimp only at hb'
    by_cases hu : u' = u
    · subst hu
      rw [Function.update_self] at hb'
      cases hb'
    · rw [Function.update_of_ne hu] at hb'
      exact (h.broadcasts u' b' hb').frame (fun _ => .inl rfl) (fun _ => rfl) fun _ => id
  · refine (h.whole n c hn hc hfailed).imp_right ?_
    rintro ⟨u', b', hb', hnumber, howes⟩
    by_cases hu : u' = u
    · subst hu
      obtain rfl := Option.some.inj (hb.symm.trans hb')
      obtain hmem | ⟨rest, hrest⟩ := howes
      · rw [hdue] at hmem
        cases hmem
      · rw [hcurrent] at hrest
        cases hrest
    · exact ⟨u', b', (Function.update_of_ne hu _ _).trans hb', hnumber, howes⟩

/-! ### Clients -/

omit [DecidableEq U] in
/-- A client is stored and watches from now on. -/
theorem Delivering.store (h : Delivering s) (hc : s.client c = .connected) :
    Delivering { s with
      client := Function.update s.client c .watching
      deviceEventClients := c :: s.deviceEventClients
      broadcast := fun u => (s.broadcast u).map (Broadcast.store c) } := by
  have hclient (c' : C) (hc' : Function.update s.client c .watching c' = .connected) :
      s.client c' = .connected := by
    by_cases hsame : c' = c
    · rwa [hsame]
    · rwa [Function.update_of_ne hsame] at hc'
  refine ⟨fun u b' hb' => ?_, h.started, fun n c' hn hc' hfailed => ?_, h.known, h.sorted,
    fun c' hc' => h.connected c' (hclient c' hc'), fun c' hc' => ?_⟩
  · obtain ⟨b, hb, rfl⟩ := Option.map_eq_some_iff.mp hb'
    have hok := h.broadcasts u b hb
    refine ⟨hok.events, hok.newest, fun c' hmem => ?_, fun c' rest hrest => ?_⟩
    · by_cases hsame : c' = c
      · subst hsame
        refine ⟨?_, ?_⟩
        · change ((s.received c').filter _).map _ = []
          rw [h.connected c' hc]
          rfl
        · change Function.update s.client c' .watching c' ≠ _
          rw [Function.update_self]
          decide
      · obtain ⟨hnone, hconnected⟩ := hok.waiting c' (hmem.imp_right fun hmem =>
          (List.mem_cons.mp hmem).resolve_left hsame)
        exact ⟨hnone, fun hc' => hconnected (hclient c' hc')⟩
    · obtain ⟨hne, hgot, hdue, hothers, hconnected⟩ := hok.current c' rest hrest
      refine ⟨hne, hgot, hdue, fun hmem => ?_, fun hc' => hconnected (hclient c' hc')⟩
      obtain rfl | hmem := List.mem_cons.mp hmem
      · exact hconnected hc
      · exact hothers hmem
  · refine (h.whole n c' hn hc' hfailed).imp_right ?_
    rintro ⟨u, b, hb, hnumber, howes⟩
    exact ⟨u, b.store c, Option.map_eq_some_iff.mpr ⟨b, hb, rfl⟩, hnumber, howes⟩
  · change Function.update s.client c .watching c' = _
    by_cases hsame : c' = c
    · rw [hsame, Function.update_self]
    · rw [Function.update_of_ne hsame]
      exact h.listed c' ((List.mem_cons.mp hc').resolve_left hsame)

omit [DecidableEq U] in
/-- A client is closed and owed nothing more. -/
theorem Delivering.delete (h : Delivering s) (c : C) :
    Delivering { s with
      client := Function.update s.client c .closed
      deviceEventClients := s.deviceEventClients.filter (· ≠ c)
      broadcast := fun u => (s.broadcast u).map (Broadcast.delete c)
      audience := fun n => (s.audience n).filter (· ≠ c) } := by
  have hclient (c' : C) (hc' : Function.update s.client c .closed c' = .connected) :
      s.client c' = .connected := by
    by_cases hsame : c' = c
    · rw [hsame, Function.update_self] at hc'
      cases hc'
    · rwa [Function.update_of_ne hsame] at hc'
  refine ⟨fun u b' hb' => ?_, h.started, fun n c' hn hc' hfailed => ?_, h.known, h.sorted,
    fun c' hc' => h.connected c' (hclient c' hc'), fun c' hc' => ?_⟩
  · obtain ⟨b, hb, rfl⟩ := Option.map_eq_some_iff.mp hb'
    have hok := h.broadcasts u b hb
    rw [Broadcast.delete]
    split
    case isFalse => exact hok.frame (fun _ => .inl rfl) (fun _ => rfl) hclient
    case isTrue hdue =>
      refine ⟨hok.events, hok.newest, fun c' hmem => ?_, fun c' rest hrest => ?_⟩
      · have hwaiting : c' ∈ b.due ∨ c' ∈ b.others := by
          obtain hmem | hmem := hmem
          · exact .inl (List.mem_filter.mp hmem).1
          · obtain rfl | hmem := List.mem_cons.mp hmem
            · exact .inl hdue
            · exact .inr hmem
        obtain ⟨hnone, hconnected⟩ := hok.waiting c' hwaiting
        exact ⟨hnone, fun hc' => hconnected (hclient c' hc')⟩
      · obtain ⟨hne, hgot, hnot, hothers, hconnected⟩ := hok.current c' rest hrest
        refine ⟨hne, hgot, fun hmem => hnot (List.mem_filter.mp hmem).1, fun hmem => ?_,
          fun hc' => hconnected (hclient c' hc')⟩
        obtain rfl | hmem := List.mem_cons.mp hmem
        · exact hnot hdue
        · exact hothers hmem
  · obtain ⟨hc', hne⟩ := List.mem_filter.mp hc'
    refine (h.whole n c' hn hc' hfailed).imp_right ?_
    rintro ⟨u, b, hb, hnumber, howes⟩
    refine ⟨u, b.delete c, Option.map_eq_some_iff.mpr ⟨b, hb, rfl⟩, ?_, ?_⟩
    · rw [← hnumber, Broadcast.delete]
      split
      · rfl
      · rfl
    · rw [Broadcast.delete]
      split
      · exact howes.imp_left fun hdue => List.mem_filter.mpr ⟨hdue, hne⟩
      · exact howes
  · obtain ⟨hc', hne⟩ := List.mem_filter.mp hc'
    exact (Function.update_of_ne (of_decide_eq_true hne) _ _).trans (h.listed c' hc')

/-- **Every step keeps the invariant.** -/
theorem Delivering.step {a : EventAction U C} (h : Delivering s) (hstep : s.step a = some t) :
    Delivering t := by
  cases a with
  | listen u r =>
    obtain ⟨⟨hidle, -⟩, hstep⟩ := Option.ite_none_right_eq_some.mp hstep
    split at hstep
    case h_1 =>
      obtain rfl := Option.some.inj hstep
      exact h
    case h_2 ld hlisten =>
      obtain rfl := Option.some.inj hstep
      exact h.push hidle hlisten
  | visit u c =>
    rw [EventServer.step] at hstep
    split at hstep
    case h_1 => cases hstep
    case h_2 b hb =>
      obtain ⟨⟨hcurrent, hc⟩, hstep⟩ := Option.ite_none_right_eq_some.mp hstep
      obtain rfl := Option.some.inj hstep
      exact h.visit hb (Option.isNone_iff_eq_none.mp hcurrent) hc
  | send u success =>
    rw [EventServer.step] at hstep
    split at hstep
    case h_1 => cases hstep
    case h_2 b hb =>
      split at hstep
      case h_2 => cases hstep
      case h_1 c event rest hcurrent =>
        obtain rfl := Option.some.inj hstep
        cases success with
        | true => exact h.send hb hcurrent
        | false => exact h.send_failed hb hcurrent
  | endRange u =>
    rw [EventServer.step] at hstep
    split at hstep
    case h_1 => cases hstep
    case h_2 b hb =>
      obtain ⟨⟨hcurrent, hdue⟩, hstep⟩ := Option.ite_none_right_eq_some.mp hstep
      obtain rfl := Option.some.inj hstep
      exact h.endRange hb (Option.isNone_iff_eq_none.mp hcurrent) hdue
  | rescan u attrs =>
    obtain ⟨-, hstep⟩ := Option.ite_none_right_eq_some.mp hstep
    split at hstep
    case h_1 => cases hstep
    case h_2 =>
      obtain rfl := Option.some.inj hstep
      exact ⟨fun u' b' hb' => (h.broadcasts u' b' hb').frame (fun _ => .inl rfl) (fun _ => rfl)
        fun _ => id, h.started, h.whole, h.known, h.sorted, h.connected, h.listed⟩
  | store c =>
    obtain ⟨hc, hstep⟩ := Option.ite_none_right_eq_some.mp hstep
    obtain rfl := Option.some.inj hstep
    exact h.store hc
  | delete c =>
    obtain ⟨-, hstep⟩ := Option.ite_none_right_eq_some.mp hstep
    obtain rfl := Option.some.inj hstep
    exact h.delete c

end Steps

end EventServer

open EventServer in
/-- **Every event reaches every client.** In every run a client is sent the events of a report in their
order and none twice: all of them, if it has been in the map from the report on until the thread had done
with it and no send failed, and else the first of them. The reports of a driver come in their order. -/
theorem events_delivered (devices : U → List EventAttributes) {s : EventServer U C}
    {as : List (EventAction U C)} (hrun : Runs.follow EventServer.step (init devices) as = some s) :
    s.Delivered := by
  have hkeep : ∀ (s : EventServer U C) (a : EventAction U C) t, Delivering s → s.step a = some t →
      Delivering t := fun _ _ _ h hstep => h.step hstep
  have hall := Runs.follow_invariant_of_forall hkeep (delivering_init devices) hrun
  refine ⟨fun c n report hreport => ?_, fun c n report hreport hover hc hfailed => ?_, hall.known,
    hall.sorted⟩
  · rw [← events_of_report hreport]
    exact hall.started c n
  · rw [← events_of_report hreport]
    refine (hall.whole n c (List.getElem?_eq_some_iff.mp hreport).1 hc hfailed).resolve_right ?_
    rintro ⟨u, b, hb, hnumber, -⟩
    exact hover u b hb hnumber

/-- A device with an ID. -/
def attachedGpu : EventAttributes := ⟨"id", "gpu-1", "model", "0000:03:00.0", "e223", "8086"⟩

/-- A client hears that the device was attached. -/
def attachRun : List (EventAction Unit Unit) :=
  [.store (), .listen () ⟨1, [2], false⟩, .visit () (), .send () true, .endRange (),
    .rescan () none]

theorem events_delivered_attach : ∃ s : EventServer Unit Unit,
    Runs.follow EventServer.step (EventServer.init fun _ => [attachedGpu]) attachRun = some s ∧
      s.got () 0 = [deviceEvent attachedGpu 2] ∧ s.Delivered := by
  have hbits : flagsToBits 2#32 = [2#32] := by
    rw [flagsToBits, dif_neg (by decide)]
    simp
  have hevents : translateEvents [[deviceEventLogs attachedGpu 2#32]] = [deviceEvent attachedGpu 2#32] := by
    rw [translateEvents, List.flatMap_singleton, List.flatMap_singleton, filterMap_deviceEventLogs,
      hbits]
    rfl
  have hend : (Runs.follow EventServer.step (EventServer.init fun _ => [attachedGpu]) attachRun).map
      (fun s : EventServer Unit Unit => s.got () 0) = some [deviceEvent attachedGpu 2] := by
    simp [attachRun, Runs.follow, EventServer.step, EventServer.init, listen, EventServer.push,
      EventServer.send, Broadcast.visit, attached, hevents, EventServer.got]
  obtain ⟨s, hrun, hgot⟩ := Option.map_eq_some_iff.mp hend
  exact ⟨s, hrun, hgot, events_delivered _ hrun⟩

end XpuManager
