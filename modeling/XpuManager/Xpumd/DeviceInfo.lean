import XpuManager.Lib.Runs
import XpuManager.Xpumd.Translator

/-! # Health data for the clients

The server of the exporter (`exporter/intelxpuinfo/deviceinfo.go`). An update of the health data
replaces the data under a lock and then sends it to all clients that it finds in a map; a new client
is sent the data first and enters the map afterwards. Calls of either kind run at the same time. -/

namespace XpuManager

/-- Health data with the number of the update it is from, which the code does not keep. -/
structure Snapshot where
  update : Nat
  data : List DeviceHealth
  deriving DecidableEq

/-- Where a caller of `updateHealthData` stands. In `Range` it has yet to visit the clients in
`due`, which have been in the map ever since it began; those in `others`, which entered or left the
map in the meantime, it may visit or not. -/
inductive UpdatePhase (C : Type) where
  | idle
  | swapped
  | ranging (due others : List C)
  deriving DecidableEq

/-- Where a client's call of `WatchDeviceHealth` stands. -/
inductive ClientPhase where
  | connected
  | sent
  | registered
  | closed
  deriving DecidableEq

/-- The server with its callers `U` and clients `C`, and what was sent to each client. -/
structure DeviceInfoState (U C : Type) where
  healthData : Option Snapshot
  updates : Nat
  updater : U → UpdatePhase C
  client : C → ClientPhase
  deviceHealthClients : List C
  received : C → List Snapshot

/-- The steps of the calls: an update of the data, the begin of `Range`, a visit and the end of it;
the first data for a client, its entry into the map and its removal. -/
inductive DeviceInfoAction (F U C : Type) where
  | swap (u : U) (md : Metrics F)
  | beginRange (u : U)
  | visit (u : U) (c : C)
  | endRange (u : U)
  | sendFirst (c : C)
  | store (c : C)
  | delete (c : C)

variable {F U C : Type} [DecidableEq U] [DecidableEq C]

namespace UpdatePhase

/-- A client enters the map. -/
def store (c : C) : UpdatePhase C → UpdatePhase C
  | .ranging due others => .ranging due (c :: others)
  | phase => phase

/-- A client leaves the map. -/
def delete (c : C) : UpdatePhase C → UpdatePhase C
  | .ranging due others =>
    if c ∈ due then .ranging (due.filter (· ≠ c)) (c :: others) else .ranging due others
  | phase => phase

end UpdatePhase

namespace DeviceInfoState

/-- `sendHealthData`, none of whose sends fails. -/
def sendHealthData (c : C) (s : DeviceInfoState U C) : DeviceInfoState U C :=
  match s.healthData with
  | none => s
  | some data => { s with received := Function.update s.received c (s.received c ++ [data]) }

variable (toInt64 : F → Int64) (mappings : List HwStatusMapping)

/-- A step of one of the calls; none where it cannot be taken. -/
def step (s : DeviceInfoState U C) : DeviceInfoAction F U C → Option (DeviceInfoState U C)
  | .swap u md =>
    if s.updater u = .idle then
      some { s with
        healthData := some ⟨s.updates, translate toInt64 mappings md⟩
        updates := s.updates + 1
        updater := Function.update s.updater u .swapped }
    else none
  | .beginRange u =>
    if s.updater u = .swapped then
      let phase := .ranging s.deviceHealthClients []
      some { s with updater := Function.update s.updater u phase }
    else none
  | .visit u c =>
    match s.updater u with
    | .ranging due others =>
      if c ∈ due ∨ c ∈ others then
        let phase := .ranging (due.filter (· ≠ c)) (others.filter (· ≠ c))
        some (sendHealthData c { s with updater := Function.update s.updater u phase })
      else none
    | _ => none
  | .endRange u =>
    match s.updater u with
    | .ranging [] _ => some { s with updater := Function.update s.updater u .idle }
    | _ => none
  | .sendFirst c =>
    if s.client c = .connected then
      some (sendHealthData c { s with client := Function.update s.client c .sent })
    else none
  | .store c =>
    if s.client c = .sent then
      some { s with
        client := Function.update s.client c .registered
        deviceHealthClients := c :: s.deviceHealthClients
        updater := fun u => (s.updater u).store c }
    else none
  | .delete c =>
    if s.client c = .registered then
      some { s with
        client := Function.update s.client c .closed
        deviceHealthClients := s.deviceHealthClients.filter (· ≠ c)
        updater := fun u => (s.updater u).delete c }
    else none

/-- A new server. -/
def init : DeviceInfoState U C where
  healthData := none
  updates := 0
  updater := fun _ => .idle
  client := fun _ => .connected
  deviceHealthClients := []
  received := fun _ => []

/-- What a client was sent last. -/
def lastReceived (s : DeviceInfoState U C) (c : C) : Option Snapshot := (s.received c).getLast?

/-! ## What every step keeps -/

/-- The invariant of every run: the data held is that of the last update, and what was sent to a
client is in the order of the updates. -/
structure Watching (s : DeviceInfoState U C) : Prop where
  latest : ∀ data, s.healthData = some data → data.update + 1 = s.updates
  nothing : s.healthData = none → s.updates = 0
  received_lt : ∀ c, ∀ data ∈ s.received c, data.update < s.updates
  sorted : ∀ c, ((s.received c).map Snapshot.update).Pairwise (· ≤ ·)
  registered : ∀ c ∈ s.deviceHealthClients, s.client c = .registered

variable {toInt64 mappings} {s t : DeviceInfoState U C}

omit [DecidableEq U] [DecidableEq C] in
theorem watching_init : Watching (init : DeviceInfoState U C) where
  latest _ h := by cases h
  nothing _ := rfl
  received_lt _ _ h := absurd h List.not_mem_nil
  sorted _ := List.Pairwise.nil
  registered _ h := absurd h List.not_mem_nil

omit [DecidableEq U] in
/-- Sending leaves everything else. -/
theorem sendHealthData_frame (c : C) (s : DeviceInfoState U C) :
    (sendHealthData c s).healthData = s.healthData ∧ (sendHealthData c s).updates = s.updates ∧
      (sendHealthData c s).updater = s.updater ∧ (sendHealthData c s).client = s.client ∧
        (sendHealthData c s).deviceHealthClients = s.deviceHealthClients := by
  unfold sendHealthData
  split
  · exact ⟨rfl, rfl, rfl, rfl, rfl⟩
  · exact ⟨rfl, rfl, rfl, rfl, rfl⟩

omit [DecidableEq U] in
/-- Sending changes what one client has received. -/
theorem received_sendHealthData (s : DeviceInfoState U C) (c c' : C) :
    (sendHealthData c s).received c' =
      if c' = c then s.received c ++ s.healthData.toList else s.received c' := by
  rw [sendHealthData]
  by_cases hc : c' = c
  · subst hc
    cases s.healthData with
    | none => simp
    | some data => simp
  · rw [if_neg hc]
    cases s.healthData with
    | none => rfl
    | some data => exact Function.update_of_ne hc _ _

omit [DecidableEq U] in
/-- After a send the client has the data held, unless there is none. -/
theorem lastReceived_sendHealthData (h : s.healthData = none → s.received c = []) :
    (sendHealthData c s).lastReceived c = s.healthData := by
  rw [lastReceived, received_sendHealthData, if_pos rfl]
  cases hdata : s.healthData with
  | none => simp [h hdata]
  | some data => simp

omit [DecidableEq U] in
/-- **Sending the data held** keeps the invariant. -/
theorem Watching.send (h : Watching s) (c : C) : Watching (sendHealthData c s) := by
  obtain ⟨hdata, hupdates, -, hclient, hclients⟩ := sendHealthData_frame c s
  refine ⟨by rw [hdata, hupdates]; exact h.latest, by rw [hdata, hupdates]; exact h.nothing,
    fun c' data hmem => ?_, fun c' => ?_, by rw [hclients, hclient]; exact h.registered⟩
  · rw [hupdates]
    rw [received_sendHealthData] at hmem
    split at hmem
    case isFalse => exact h.received_lt c' data hmem
    case isTrue =>
    rcases List.mem_append.mp hmem with hmem | hmem
    · exact h.received_lt c data hmem
    · have hlatest := h.latest data (Option.mem_toList.mp hmem)
      omega
  · rw [received_sendHealthData]
    split
    case isFalse => exact h.sorted c'
    case isTrue =>
    rw [List.map_append]
    refine List.pairwise_append.mpr ⟨h.sorted c, ?_, ?_⟩
    · cases s.healthData with
      | none => exact List.Pairwise.nil
      | some data => exact List.pairwise_singleton _ _
    · intro a ha b hb
      obtain ⟨old, hold, rfl⟩ := List.mem_map.mp ha
      obtain ⟨new, hnew, rfl⟩ := List.mem_map.mp hb
      have hlt := h.received_lt c old hold
      have hlatest := h.latest new (Option.mem_toList.mp hnew)
      omega

/-- **Every step keeps the invariant.** -/
theorem Watching.step {a : DeviceInfoAction F U C} (h : Watching s)
    (hstep : step toInt64 mappings s a = some t) : Watching t := by
  cases a with
  | swap u md =>
    obtain ⟨-, ht⟩ := Option.ite_none_right_eq_some.mp hstep
    obtain rfl := Option.some.inj ht
    refine ⟨fun data hdata => ?_, fun hnone => (by cases hnone), fun c data hmem => ?_, h.sorted,
      h.registered⟩
    · obtain rfl := Option.some.inj hdata
      rfl
    · exact Nat.lt_succ_of_lt (h.received_lt c data hmem)
  | beginRange u =>
    obtain ⟨-, ht⟩ := Option.ite_none_right_eq_some.mp hstep
    obtain rfl := Option.some.inj ht
    exact ⟨h.latest, h.nothing, h.received_lt, h.sorted, h.registered⟩
  | visit u c =>
    rw [DeviceInfoState.step] at hstep
    split at hstep
    case h_2 => cases hstep
    case h_1 due others _ =>
    obtain ⟨-, ht⟩ := Option.ite_none_right_eq_some.mp hstep
    obtain rfl := Option.some.inj ht
    refine Watching.send ?_ c
    exact ⟨h.latest, h.nothing, h.received_lt, h.sorted, h.registered⟩
  | endRange u =>
    rw [DeviceInfoState.step] at hstep
    split at hstep
    case h_2 => cases hstep
    case h_1 =>
    obtain rfl := Option.some.inj hstep
    exact ⟨h.latest, h.nothing, h.received_lt, h.sorted, h.registered⟩
  | sendFirst c =>
    obtain ⟨hnew, ht⟩ := Option.ite_none_right_eq_some.mp hstep
    obtain rfl := Option.some.inj ht
    refine Watching.send ?_ c
    refine ⟨h.latest, h.nothing, h.received_lt, h.sorted, fun c' hc' => ?_⟩
    have hregistered := h.registered c' hc'
    have hne : c' ≠ c := by
      rintro rfl
      rw [hnew] at hregistered
      cases hregistered
    exact (Function.update_of_ne hne _ _).trans hregistered
  | store c =>
    obtain ⟨-, ht⟩ := Option.ite_none_right_eq_some.mp hstep
    obtain rfl := Option.some.inj ht
    refine ⟨h.latest, h.nothing, h.received_lt, h.sorted, fun c' hc' => ?_⟩
    by_cases hc : c' = c
    · subst hc
      exact Function.update_self _ _ _
    · exact (Function.update_of_ne hc _ _).trans
        (h.registered c' ((List.mem_cons.mp hc').resolve_left hc))
  | delete c =>
    obtain ⟨-, ht⟩ := Option.ite_none_right_eq_some.mp hstep
    obtain rfl := Option.some.inj ht
    refine ⟨h.latest, h.nothing, h.received_lt, h.sorted, fun c' hc' => ?_⟩
    obtain ⟨hc', hne⟩ := List.mem_filter.mp hc'
    exact (Function.update_of_ne (of_decide_eq_true hne) _ _).trans (h.registered c' hc')

/-- **No client is sent older data after newer data**, in any run. -/
theorem received_monotone {as : List (DeviceInfoAction F U C)}
    (hrun : Runs.follow (DeviceInfoState.step toInt64 mappings) init as = some s) (c : C) :
    ((s.received c).map Snapshot.update).Pairwise (· ≤ ·) := by
  have hkeep : ∀ (s : DeviceInfoState U C) (a : DeviceInfoAction F U C) t, Watching s →
      DeviceInfoState.step toInt64 mappings s a = some t → Watching t := fun _ _ _ => Watching.step
  exact (Runs.follow_invariant_of_forall hkeep watching_init hrun).sorted c

/-! ## The last data -/

/-- An updater has not finished, and will send the data held to the client. -/
def Pending (c : C) : UpdatePhase C → Prop
  | .idle => False
  | .swapped => True
  | .ranging due _ => c ∈ due

/-- Every client in the map has been sent the data held, or will be sent it. -/
def Served (s : DeviceInfoState U C) : Prop :=
  ∀ c ∈ s.deviceHealthClients, s.lastReceived c = s.healthData ∨ ∃ u, Pending c (s.updater u)

/-- A client enters the map while the data held is what it was sent first. -/
def EntersCurrent (s : DeviceInfoState U C) : DeviceInfoAction F U C → Prop
  | .store c => s.lastReceived c = s.healthData
  | _ => True

omit [DecidableEq C] in
/-- What the update of one updater's phase leaves of the others. -/
theorem pending_update {phase : UpdatePhase C} {u : U} {c : C}
    (h : ∃ u, Pending c (s.updater u)) (hu : Pending c (s.updater u) → Pending c phase) :
    ∃ u', Pending c (Function.update s.updater u phase u') := by
  obtain ⟨u', hu'⟩ := h
  by_cases hsame : u' = u
  · subst hsame
    exact ⟨u', by rw [Function.update_self]; exact hu hu'⟩
  · exact ⟨u', by rw [Function.update_of_ne hsame]; exact hu'⟩

omit [DecidableEq U] in
/-- A send serves its client, and no other client less. -/
theorem lastReceived_sendHealthData_of_ne {c c' : C} (h : c' ≠ c) :
    (sendHealthData c s).lastReceived c' = s.lastReceived c' := by
  rw [lastReceived, received_sendHealthData, if_neg h, lastReceived]

omit [DecidableEq U] [DecidableEq C] in
/-- Nothing was sent before there was data. -/
theorem Watching.received_eq_nil (h : Watching s) (hnone : s.healthData = none) (c : C) :
    s.received c = [] := by
  refine List.eq_nil_iff_forall_not_mem.mpr fun data hmem => ?_
  have hlt := h.received_lt c data hmem
  rw [h.nothing hnone] at hlt
  exact absurd hlt (Nat.not_lt_zero _)

/-- **Every step serves the clients**, if they enter the map with the data held. -/
theorem Served.step {a : DeviceInfoAction F U C} (hwatching : Watching s) (h : Served s)
    (henters : EntersCurrent s a) (hstep : DeviceInfoState.step toInt64 mappings s a = some t) :
    Served t := by
  cases a with
  | swap u md =>
    obtain ⟨-, ht⟩ := Option.ite_none_right_eq_some.mp hstep
    obtain rfl := Option.some.inj ht
    intro c hc
    refine .inr ⟨u, ?_⟩
    change Pending c (Function.update s.updater u .swapped u)
    rw [Function.update_self]
    trivial
  | beginRange u =>
    obtain ⟨-, ht⟩ := Option.ite_none_right_eq_some.mp hstep
    obtain rfl := Option.some.inj ht
    exact fun c hc => (h c hc).imp_right fun hp => pending_update hp fun _ => hc
  | visit u c =>
    rw [DeviceInfoState.step] at hstep
    split at hstep
    case h_2 => cases hstep
    case h_1 due others hphase =>
    obtain ⟨-, ht⟩ := Option.ite_none_right_eq_some.mp hstep
    obtain rfl := Option.some.inj ht
    intro c' hc'
    obtain ⟨hdata, -, hupdater, -, hclients⟩ := sendHealthData_frame c { s with
      updater := Function.update s.updater u
        (.ranging (due.filter (· ≠ c)) (others.filter (· ≠ c))) }
    rw [hclients] at hc'
    rw [hdata, hupdater]
    by_cases hsame : c' = c
    · subst hsame
      exact .inl (lastReceived_sendHealthData fun hnone => hwatching.received_eq_nil hnone _)
    · rw [lastReceived_sendHealthData_of_ne hsame]
      refine (h c' hc').imp_right fun hp => pending_update hp fun hu => ?_
      rw [hphase] at hu
      exact List.mem_filter.mpr ⟨hu, decide_eq_true hsame⟩
  | endRange u =>
    rw [DeviceInfoState.step] at hstep
    split at hstep
    case h_2 => cases hstep
    case h_1 hphase =>
    obtain rfl := Option.some.inj hstep
    refine fun c hc => (h c hc).imp_right fun hp => pending_update hp fun hu => ?_
    rw [hphase] at hu
    exact absurd hu List.not_mem_nil
  | sendFirst c =>
    obtain ⟨hnew, ht⟩ := Option.ite_none_right_eq_some.mp hstep
    obtain rfl := Option.some.inj ht
    intro c' hc'
    obtain ⟨hdata, -, hupdater, -, hclients⟩ := sendHealthData_frame c { s with
      client := Function.update s.client c .sent }
    rw [hclients] at hc'
    have hne : c' ≠ c := by
      rintro rfl
      have hregistered := hwatching.registered c' hc'
      rw [hnew] at hregistered
      cases hregistered
    rw [hdata, hupdater, lastReceived_sendHealthData_of_ne hne]
    exact h c' hc'
  | store c =>
    obtain ⟨-, ht⟩ := Option.ite_none_right_eq_some.mp hstep
    obtain rfl := Option.some.inj ht
    intro c' hc'
    rcases List.mem_cons.mp hc' with rfl | hc'
    · exact .inl henters
    · refine (h c' hc').imp_right fun ⟨u, hu⟩ => ⟨u, ?_⟩
      change Pending c' ((s.updater u).store c)
      cases hphase : s.updater u with
      | idle => rw [hphase] at hu; exact hu
      | swapped => trivial
      | ranging due others => rw [hphase] at hu; exact hu
  | delete c =>
    obtain ⟨-, ht⟩ := Option.ite_none_right_eq_some.mp hstep
    obtain rfl := Option.some.inj ht
    intro c' hc'
    obtain ⟨hc', hne⟩ := List.mem_filter.mp hc'
    refine (h c' hc').imp_right fun ⟨u, hu⟩ => ⟨u, ?_⟩
    change Pending c' ((s.updater u).delete c)
    cases hphase : s.updater u with
    | idle => rw [hphase] at hu; exact hu
    | swapped => trivial
    | ranging due others =>
      rw [hphase] at hu
      rw [UpdatePhase.delete]
      split
      · exact List.mem_filter.mpr ⟨hu, hne⟩
      · exact hu

/-- The clients have been served as they should: never older data after newer data, and when no
update is in progress every client in the map has been sent the data held last. -/
structure UpToDate (s : DeviceInfoState U C) : Prop where
  monotone : ∀ c, ((s.received c).map Snapshot.update).Pairwise (· ≤ ·)
  current : (∀ u, s.updater u = .idle) →
    ∀ c ∈ s.deviceHealthClients, s.lastReceived c = s.healthData

end DeviceInfoState

open DeviceInfoState in
/-- **The clients are up to date** in every run in which each of them enters the map while the data
held is what it was sent first. -/
theorem clients_upToDate (toInt64 : F → Int64) (mappings : List HwStatusMapping)
    {s : DeviceInfoState U C} {as : List (DeviceInfoAction F U C)}
    (henters : Runs.Meets (step toInt64 mappings) EntersCurrent init as)
    (hrun : Runs.follow (step toInt64 mappings) init as = some s) : s.UpToDate := by
  have hkeep : ∀ (s : DeviceInfoState U C) (a : DeviceInfoAction F U C) t,
      Watching s ∧ Served s → EntersCurrent s a → step toInt64 mappings s a = some t →
        Watching t ∧ Served t :=
    fun _ _ _ h henters hstep => ⟨h.1.step hstep, h.2.step h.1 henters hstep⟩
  have hinit : Served (init : DeviceInfoState U C) := fun _ h => absurd h List.not_mem_nil
  obtain ⟨hwatching, hserved⟩ :=
    Runs.follow_invariant hkeep ⟨watching_init, hinit⟩ henters hrun
  refine ⟨hwatching.sorted, fun hidle c hc => (hserved c hc).resolve_right ?_⟩
  rintro ⟨u, hu⟩
  rw [hidle u] at hu
  exact hu

/-- A client connects after one update and before the next. -/
def joinBetween : List (DeviceInfoAction ℤ Unit Unit) :=
  [.swap () [], .beginRange (), .endRange (), .sendFirst (), .store (), .swap () [],
    .beginRange (), .visit () (), .endRange ()]

/-- One client that enters the map between two updates. -/
theorem clients_upToDate_sample : ∃ s,
    Runs.follow (DeviceInfoState.step Int64.ofInt []) DeviceInfoState.init joinBetween = some s ∧
      s.deviceHealthClients = [()] ∧ s.UpToDate := by
  refine ⟨_, rfl, rfl, @clients_upToDate ℤ Unit Unit _ _ Int64.ofInt [] _ joinBetween ?_ rfl⟩
  exact .cons trivial rfl (.cons trivial rfl (.cons trivial rfl (.cons trivial rfl (.cons rfl rfl
    (.cons trivial rfl (.cons trivial rfl (.cons trivial rfl (.cons trivial rfl trivial))))))))

/-- **A client can be left behind.** An update between the first data for a client and its entry
into the map does not reach it. -/
theorem client_left_behind : ∃ s : DeviceInfoState Unit Unit,
    Runs.follow (DeviceInfoState.step Int64.ofInt []) DeviceInfoState.init
      [.sendFirst (), .swap () [], .beginRange (), .endRange (), .store ()] = some s ∧
      ¬s.UpToDate := by
  refine ⟨_, rfl, fun h => ?_⟩
  have hcurrent := h.current (fun _ => rfl) () List.mem_cons_self
  exact absurd hcurrent (by decide)

end XpuManager
