import XpuManager.Lib.History
import XpuManager.Lib.Prog
import XpuManager.Oal.PciQuery

/-! # The PCI library over a whole process

A process can query devices more than once (`oal/lin/linvf.cpp`). What it remembers of the library is in
a static variable, and each query closes the library behind it. -/

namespace XpuManager

namespace PciSystem

/-! ## The library -/

/-- The calls of the PCI library. -/
inductive PciCall where
  | systemInit (succeeded : Bool)
  | findBySlot (domain : UInt16) (bus device function : UInt8)
  | deviceProbe
  | systemCleanup
  deriving DecidableEq

/-- The static `pciInit`, whether the library is initialised, and the calls of it so far. -/
structure PciState where
  pciInit : Bool := false
  initialised : Bool := false
  calls : List PciCall := []
  deriving DecidableEq

namespace PciState

/-- A call is noted. -/
def log (call : PciCall) (s : PciState) : PciState := { s with calls := s.calls ++ [call] }

def init (succeeded : Bool) (s : PciState) : PciState :=
  { s.log (.systemInit succeeded) with initialised := s.initialised || succeeded }

def cleanup (s : PciState) : PciState := { s.log .systemCleanup with initialised := false }

end PciState

/-- A query: its address, and what the library answers at that time. What it finds when it is not
initialised is up to the library. -/
structure Query where
  domain : UInt16
  bus : UInt8
  device : UInt8
  function : UInt8
  systemInit : Bool
  found : Option PciDevice
  foundUninitialised : Option PciDevice

def Query.findCall (q : Query) : PciCall := .findBySlot q.domain q.bus q.device q.function

section Library

variable (q : Query)

def pciSystemInit : Prog PciState Bool := do
  Prog.modify (PciState.init q.systemInit)
  pure q.systemInit

def pciDeviceFindBySlot : Prog PciState (Option PciDevice) := do
  Prog.modify (PciState.log q.findCall)
  let s ← Prog.get
  pure (if s.initialised then q.found else q.foundUninitialised)

def pciDeviceProbe (dev : PciDevice) : Prog PciState Bool := do
  Prog.modify (PciState.log .deviceProbe)
  pure dev.probes

/-- The library is cleaned up; the flag of the program stays. -/
def cleanupPciSystem : Prog PciState Unit := Prog.modify PciState.cleanup

/-! ## A query -/

/-- The library is initialised unless the flag says that it is. -/
def initializePciSystem : Prog PciState Bool := do
  let s ← Prog.get
  if s.pciInit then pure true
  else
    let succeeded ← pciSystemInit q
    if succeeded then
      Prog.modify fun s => { s with pciInit := true }
      pure true
    else pure false

/-- A query of a library that counts as initialised; it does not end if the walk along the capabilities
does not. -/
def searchDevice : Prog PciState PciDeviceInfo := do
  let found ← pciDeviceFindBySlot q
  match found with
  | none =>
    cleanupPciSystem
    pure {}
  | some dev =>
    let probed ← pciDeviceProbe dev
    if probed = false then
      cleanupPciSystem
      pure {}
    else
      match readSriovCapability dev { valid := true, deviceId := dev.deviceId } with
      | none => Prog.cut
      | some info =>
        cleanupPciSystem
        pure info

/-- One query, at whose end the library is cleaned up. -/
def queryPciDevice : Prog PciState PciDeviceInfo := do
  let succeeded ← initializePciSystem q
  if succeeded = false then pure {} else searchDevice q

end Library

/-- The queries of a process. -/
def runQueries : List Query → Prog PciState (List PciDeviceInfo)
  | [] => pure []
  | q :: queries => do
    let info ← queryPciDevice q
    let infos ← runQueries queries
    pure (info :: infos)

/-! ## What is promised -/

/-- There has been a successful initialisation, and no cleanup since. -/
def Initialised (calls : List PciCall) : Prop :=
  History.Since (· = .systemInit true) (· = .systemCleanup) calls

/-- The call needs a library that is initialised. -/
def PciCall.Uses : PciCall → Prop
  | findBySlot _ _ _ _ | deviceProbe => True
  | systemInit _ | systemCleanup => False

/-- Devices are searched and probed only while the library is initialised. -/
def UsedInitialised (calls : List PciCall) : Prop :=
  History.Each (fun before call => call.Uses → Initialised before) calls

/-- What the library is for a query in some state of the process. -/
def Query.access (q : Query) (s : PciState) : PciAccess where
  pciInit := s.pciInit
  systemInit := q.systemInit
  findBySlot _ _ _ _ :=
    if s.initialised || (!s.pciInit && q.systemInit) then q.found else q.foundUninitialised

/-- What a query has as the first of a process, if it ends. -/
def Query.first (q : Query) : Option PciDeviceInfo :=
  XpuManager.queryPciDevice (q.access {}) q.domain q.bus q.device q.function

/-- The capabilities of the device are a circle. -/
def Query.Hangs (q : Query) : Prop :=
  ∃ dev, q.found = some dev ∧ dev.probes = true ∧
    readSriovCapability dev { valid := true, deviceId := dev.deviceId } = none

/-- Until a query can initialise the library, all fail; no other comes after it. -/
def OneInitialises : List Query → Prop
  | [] => True
  | q :: queries => if q.systemInit then queries = [] ∨ q.Hangs else OneInitialises queries

/-! ## What a query does -/

variable {q : Query} {queries : List Query} {s t : PciState}

/-- How a query ends. -/
def outcomeOf : Option PciDeviceInfo → Outcome PciDeviceInfo
  | none => .cut
  | some info => .ret info

/-- What is known of a device that was found. -/
def resultOf (found : Option PciDevice) : Option PciDeviceInfo :=
  match found with
  | none => some {}
  | some dev =>
    if dev.probes then readSriovCapability dev { valid := true, deviceId := dev.deviceId } else some {}

theorem queryPciDevice_access (q : Query) (s : PciState) :
    XpuManager.queryPciDevice (q.access s) q.domain q.bus q.device q.function =
      if s.pciInit || q.systemInit then
        resultOf (if s.initialised || (!s.pciInit && q.systemInit) then q.found
          else q.foundUninitialised)
      else some {} := by
  rw [XpuManager.queryPciDevice, XpuManager.initializePciSystem, Query.access]
  cases s.pciInit || q.systemInit <;> rfl

theorem first_of_not_systemInit (h : q.systemInit = false) : q.first = some {} := by
  rw [Query.first, queryPciDevice_access, h]
  rfl

theorem first_of_systemInit (h : q.systemInit = true) : q.first = resultOf q.found := by
  rw [Query.first, queryPciDevice_access, h]
  rfl

theorem hangs_iff : q.Hangs ↔ resultOf q.found = none := by
  rw [Query.Hangs]
  cases q.found with
  | none => simp [resultOf]
  | some dev => cases hprobes : dev.probes <;> simp [resultOf, hprobes]

/-- The library and the log of its calls agree. -/
structure Consistent (s : PciState) : Prop where
  initialised_iff : s.initialised = true ↔ Initialised s.calls

theorem initialised_concat {calls : List PciCall} {call : PciCall} : Initialised (calls ++ [call]) ↔
    call = .systemInit true ∨ Initialised calls ∧ call ≠ .systemCleanup :=
  History.since_snoc

theorem consistent_init (h : Consistent s) (succeeded : Bool) : Consistent (s.init succeeded) := by
  constructor
  change (s.initialised || succeeded) = true ↔ Initialised (s.calls ++ [.systemInit succeeded])
  rw [initialised_concat, Bool.or_eq_true, h.initialised_iff]
  simp [or_comm]

theorem consistent_cleanup (s : PciState) : Consistent s.cleanup := by
  constructor
  change false = true ↔ Initialised (s.calls ++ [.systemCleanup])
  rw [initialised_concat]
  simp

theorem consistent_log {call : PciCall} (hcall : call.Uses) (h : Consistent s) :
    Consistent (s.log call) := by
  constructor
  change s.initialised = true ↔ Initialised (s.calls ++ [call])
  rw [initialised_concat, h.initialised_iff]
  cases call with
  | systemInit | systemCleanup => cases hcall
  | _ => simp

theorem usedInitialised_log (call : PciCall) (h : UsedInitialised s.calls)
    (hcall : call.Uses → Initialised s.calls) : UsedInitialised (s.log call).calls :=
  History.Each.snoc h hcall

/-- **A search**, as what it does to the state. -/
theorem searchDevice_apply (q : Query) (s : PciState) : searchDevice q s =
    match if s.initialised then q.found else q.foundUninitialised with
    | none => (.ret {}, (s.log q.findCall).cleanup)
    | some dev =>
      if dev.probes = false then (.ret {}, ((s.log q.findCall).log .deviceProbe).cleanup)
      else
        match readSriovCapability dev { valid := true, deviceId := dev.deviceId } with
        | none => (.cut, (s.log q.findCall).log .deviceProbe)
        | some info => (.ret info, ((s.log q.findCall).log .deviceProbe).cleanup) := by
  have hfind : pciDeviceFindBySlot q s =
      (.ret (if s.initialised then q.found else q.foundUninitialised), s.log q.findCall) := rfl
  rw [searchDevice, Prog.bind_of_ret hfind]
  cases (if s.initialised then q.found else q.foundUninitialised) with
  | none => rfl
  | some dev =>
    have hprobe : pciDeviceProbe dev (s.log q.findCall) =
        (.ret dev.probes, (s.log q.findCall).log .deviceProbe) := rfl
    dsimp only
    rw [Prog.bind_of_ret hprobe]
    cases hprobes : dev.probes with
    | false => rfl
    | true =>
      rw [if_neg nofun, if_neg nofun]
      cases readSriovCapability dev { valid := true, deviceId := dev.deviceId } <;> rfl

/-- A search has a result, closes the library if it ends, and uses it. -/
structure Searches (q : Query) (s : PciState) (run : Outcome PciDeviceInfo × PciState) : Prop where
  outcome : run.1 =
    outcomeOf (resultOf (if s.initialised then q.found else q.foundUninitialised))
  pciInit : run.2.pciInit = s.pciInit
  closed : run.1 ≠ .cut → run.2.initialised = false
  consistent : Consistent run.2
  calls : s.calls ++ [q.findCall] <+: run.2.calls
  used : s.initialised = true → UsedInitialised s.calls → UsedInitialised run.2.calls

/-- **What a search does** to a state. -/
theorem searches_searchDevice (hs : Consistent s) (q : Query) : Searches q s (searchDevice q s) := by
  have hfind : Consistent (s.log q.findCall) := consistent_log trivial hs
  have hprobe : Consistent ((s.log q.findCall).log .deviceProbe) := consistent_log trivial hfind
  have hused (hinit : s.initialised = true) (h : UsedInitialised s.calls) :
      UsedInitialised (s.log q.findCall).calls :=
    usedInitialised_log q.findCall h fun _ => hs.initialised_iff.mp hinit
  have hused' (hinit : s.initialised = true) (h : UsedInitialised s.calls) :
      UsedInitialised ((s.log q.findCall).log .deviceProbe).calls :=
    usedInitialised_log .deviceProbe (hused hinit h) fun _ => hfind.initialised_iff.mp hinit
  have hcleanup {t : PciState} (h : UsedInitialised t.calls) : UsedInitialised t.cleanup.calls :=
    usedInitialised_log .systemCleanup h nofun
  rw [searchDevice_apply]
  cases hfound : (if s.initialised then q.found else q.foundUninitialised) with
  | none =>
    refine ⟨?_, rfl, fun _ => rfl, consistent_cleanup _, List.prefix_append _ _, fun hinit h => ?_⟩
    · rw [hfound]
      rfl
    · exact hcleanup (hused hinit h)
  | some dev =>
    dsimp only
    cases hprobes : dev.probes with
    | false =>
      rw [if_pos rfl]
      refine ⟨?_, rfl, fun _ => rfl, consistent_cleanup _, ?_, fun hinit h => ?_⟩
      · rw [hfound, resultOf, hprobes]
        rfl
      · exact (List.prefix_append _ _).trans (List.prefix_append _ _)
      · exact hcleanup (hused' hinit h)
    | true =>
      rw [if_neg nofun]
      have hresult : resultOf (some dev) =
          readSriovCapability dev { valid := true, deviceId := dev.deviceId } := by
        rw [resultOf, hprobes]
        rfl
      cases hread : readSriovCapability dev { valid := true, deviceId := dev.deviceId } with
      | none =>
        refine ⟨?_, rfl, fun hcut => absurd rfl hcut, hprobe, List.prefix_append _ _, hused'⟩
        rw [hfound, hresult, hread]
        rfl
      | some info =>
        refine ⟨?_, rfl, fun _ => rfl, consistent_cleanup _, ?_, fun hinit h => ?_⟩
        · rw [hfound, hresult, hread]
          rfl
        · exact (List.prefix_append _ _).trans (List.prefix_append _ _)
        · exact hcleanup (hused' hinit h)

/-- A process before it has initialised the library. -/
structure Fresh (s : PciState) : Prop where
  pciInit : s.pciInit = false
  initialised : s.initialised = false
  consistent : Consistent s

theorem fresh_start : Fresh {} where
  pciInit := rfl
  initialised := rfl
  consistent := ⟨iff_of_false nofun History.not_since_nil⟩

theorem Fresh.init_false (h : Fresh s) : Fresh (s.init false) where
  pciInit := h.pciInit
  initialised := by
    change (s.initialised || false) = false
    rw [h.initialised]
    rfl
  consistent := consistent_init h.consistent false

theorem queryPciDevice_failed (h : s.pciInit = false) (hq : q.systemInit = false) :
    queryPciDevice q s = (.ret {}, s.init false) := by
  have hinit : initializePciSystem q s = (.ret false, s.init false) := by
    simp [initializePciSystem, pciSystemInit, h, hq]
  rw [queryPciDevice, Prog.bind_of_ret hinit, if_pos rfl, Prog.pure_apply]

theorem queryPciDevice_of_systemInit (h : s.pciInit = false) (hq : q.systemInit = true) :
    queryPciDevice q s = searchDevice q { s.init true with pciInit := true } := by
  have hinit : initializePciSystem q s = (.ret true, { s.init true with pciInit := true }) := by
    simp [initializePciSystem, pciSystemInit, h, hq]
  rw [queryPciDevice, Prog.bind_of_ret hinit, if_neg nofun]

theorem queryPciDevice_of_pciInit (h : s.pciInit = true) (q : Query) :
    queryPciDevice q s = searchDevice q s := by
  have hinit : initializePciSystem q s = (.ret true, s) := by
    simp [initializePciSystem, h]
  rw [queryPciDevice, Prog.bind_of_ret hinit, if_neg nofun]

/-- A library that has just been initialised by a query. -/
theorem Consistent.initialise (h : Consistent s) : Consistent { s.init true with pciInit := true } :=
  ⟨(consistent_init h true).initialised_iff⟩

/-- **A query** has the result that one with the same answers has by itself. -/
theorem queryPciDevice_outcome (hs : Consistent s) (q : Query) : (queryPciDevice q s).1 =
    outcomeOf (XpuManager.queryPciDevice (q.access s) q.domain q.bus q.device q.function) := by
  rw [queryPciDevice_access]
  cases hpci : s.pciInit with
  | true =>
    rw [queryPciDevice_of_pciInit hpci, (searches_searchDevice hs q).outcome]
    simp
  | false =>
    cases hq : q.systemInit with
    | false =>
      rw [queryPciDevice_failed hpci hq]
      rfl
    | true =>
      rw [queryPciDevice_of_systemInit hpci hq, (searches_searchDevice hs.initialise q).outcome]
      simp [PciState.init]

/-- A process that has closed the library. -/
structure Spent (s : PciState) : Prop where
  pciInit : s.pciInit = true
  initialised : s.initialised = false
  consistent : Consistent s

/-- The first query that initialises the library uses it, and closes it. -/
theorem queryPciDevice_initialises (h : Fresh s) (hused : UsedInitialised s.calls)
    (hq : q.systemInit = true) :
    (queryPciDevice q s).1 = outcomeOf q.first ∧
      ((queryPciDevice q s).1 ≠ .cut → Spent (queryPciDevice q s).2) ∧
      UsedInitialised (queryPciDevice q s).2.calls := by
  have hon : (s.init true).initialised = true := Bool.or_true _
  have hsearch := searches_searchDevice h.consistent.initialise q
  have hbefore : UsedInitialised (s.init true).calls :=
    usedInitialised_log (.systemInit true) hused nofun
  rw [queryPciDevice_of_systemInit h.pciInit hq]
  refine ⟨?_, fun hret => ⟨hsearch.pciInit, hsearch.closed hret, hsearch.consistent⟩,
    hsearch.used hon hbefore⟩
  rw [hsearch.outcome, first_of_systemInit hq, if_pos hon]

/-- **Any later query** uses the closed library. -/
theorem queryPciDevice_spent (h : Spent s) (q : Query) :
    ¬ UsedInitialised (queryPciDevice q s).2.calls := by
  have hsearch := searches_searchDevice h.consistent q
  rw [queryPciDevice_of_pciInit h.pciInit]
  intro hused
  obtain ⟨rest, hrest⟩ := hsearch.calls
  have hinit := hused s.calls q.findCall rest (by rw [← hrest, List.append_assoc]; rfl) trivial
  rw [← h.consistent.initialised_iff, h.initialised] at hinit
  cases hinit

/-- It leaves the library closed. -/
theorem Spent.queryPciDevice (h : Spent s) (hq : q.foundUninitialised = none) :
    ∃ t, queryPciDevice q s = (.ret {}, t) ∧ Spent t := by
  have hsearch := searches_searchDevice h.consistent q
  have hret : (searchDevice q s).1 = .ret {} := by
    rw [hsearch.outcome, h.initialised, if_neg nofun, hq]
    rfl
  refine ⟨(searchDevice q s).2, ?_, hsearch.pciInit.trans h.pciInit, hsearch.closed ?_,
    hsearch.consistent⟩
  · rw [queryPciDevice_of_pciInit h.pciInit]
    exact Prog.eq_of_fst_eq hret
  · rw [hret]
    nofun

/-! ## Runs -/

/-- Calls are only added. -/
def Extends (s t : PciState) : Prop := s.calls <+: t.calls

instance : Std.Refl Extends := ⟨fun _ => List.prefix_rfl⟩

instance : IsTrans PciState Extends := ⟨fun _ _ _ => List.IsPrefix.trans⟩

theorem extends_queryPciDevice (q : Query) : Prog.Within Extends (queryPciDevice q) := by
  have hcleanup : Prog.Within Extends cleanupPciSystem :=
    Prog.Within.modify fun _ => List.prefix_append _ _
  have hlog (call : PciCall) : Prog.Within Extends (Prog.modify (PciState.log call)) :=
    Prog.Within.modify fun _ => List.prefix_append _ _
  have hinit : Prog.Within Extends (initializePciSystem q) := by
    refine Prog.Within.bind Prog.Within.get fun s => Prog.Within.ite (Prog.Within.pure _) ?_
    refine Prog.Within.bind (Prog.Within.bind ?_ fun _ => Prog.Within.pure _) fun succeeded => ?_
    · exact Prog.Within.modify fun _ => List.prefix_append _ _
    · refine Prog.Within.ite (Prog.Within.bind ?_ fun _ => Prog.Within.pure _) (Prog.Within.pure _)
      exact Prog.Within.modify fun _ => List.prefix_rfl
  refine Prog.Within.bind hinit fun succeeded => Prog.Within.ite (Prog.Within.pure _) ?_
  refine Prog.Within.bind (Prog.Within.bind (hlog _) fun _ =>
    Prog.Within.bind Prog.Within.get fun _ => Prog.Within.pure _) fun found => ?_
  cases found with
  | none => exact Prog.Within.bind hcleanup fun _ => Prog.Within.pure _
  | some dev =>
    refine Prog.Within.bind (Prog.Within.bind (hlog _) fun _ => Prog.Within.pure _) fun probed => ?_
    refine Prog.Within.ite (Prog.Within.bind hcleanup fun _ => Prog.Within.pure _) ?_
    cases readSriovCapability dev { valid := true, deviceId := dev.deviceId } with
    | none => exact Prog.Within.cut
    | some info => exact Prog.Within.bind hcleanup fun _ => Prog.Within.pure _

theorem extends_runQueries (queries : List Query) : Prog.Within Extends (runQueries queries) := by
  induction queries with
  | nil => exact Prog.Within.pure _
  | cons q queries ih =>
    refine Prog.Within.bind (extends_queryPciDevice q) fun info => ?_
    exact Prog.Within.bind ih fun infos => Prog.Within.pure _

theorem UsedInitialised.of_extends (h : UsedInitialised t.calls) (hext : Extends s t) :
    UsedInitialised s.calls := by
  obtain ⟨rest, hrest⟩ := hext
  intro before call after heq
  exact h before call (after ++ rest) (by rw [← hrest, heq, List.append_assoc, List.cons_append])

theorem runQueries_cons_of_ret {info : PciDeviceInfo} (h : queryPciDevice q s = (.ret info, t)) :
    runQueries (q :: queries) s = (runQueries queries >>= fun infos => pure (info :: infos)) t := by
  rw [runQueries, Prog.bind_of_ret h]

theorem runQueries_cons_of_cut (h : queryPciDevice q s = (.cut, t)) :
    runQueries (q :: queries) s = (.cut, t) := by
  rw [runQueries, Prog.bind_of_cut h]

/-- If a closed library finds nothing, no later query finds anything. -/
theorem runQueries_spent (h : Spent s) (hnone : ∀ q ∈ queries, q.foundUninitialised = none) :
    (runQueries queries s).1 = .ret (queries.map fun _ => {}) := by
  induction queries generalizing s with
  | nil => rfl
  | cons q queries ih =>
    rw [List.forall_mem_cons] at hnone
    obtain ⟨t, hquery, ht⟩ := h.queryPciDevice hnone.1
    rw [runQueries_cons_of_ret hquery, Prog.bind_of_ret (Prog.eq_of_fst_eq (ih ht hnone.2))]
    rfl

/-- All queries of a run go as the first. -/
structure GoAsFirst (queries : List Query) (run : Outcome (List PciDeviceInfo) × PciState) : Prop where
  used : UsedInitialised run.2.calls
  results : ∀ infos, run.1 = .ret infos →
    List.Forall₂ (fun q info => q.first = some info) queries infos

/-- A run goes on after its first query. -/
theorem extends_runQueries_cons (q : Query) (queries : List Query) (s : PciState) :
    Extends (queryPciDevice q s).2 (runQueries (q :: queries) s).2 := by
  rcases hquery : queryPciDevice q s with ⟨info | _ | _, t⟩
  · rw [runQueries_cons_of_ret hquery]
    exact Prog.Within.bind (extends_runQueries queries) (fun infos => Prog.Within.pure _) t
  · rw [runQueries, Prog.bind_of_fault hquery]
    exact List.prefix_rfl
  · rw [runQueries_cons_of_cut hquery]
    exact List.prefix_rfl

/-- After a query that went as the first the others have to. -/
theorem goAsFirst_cons {info : PciDeviceInfo} (h : queryPciDevice q s = (.ret info, t))
    (hfirst : q.first = some info) : GoAsFirst (q :: queries) (runQueries (q :: queries) s) ↔
      GoAsFirst queries (runQueries queries t) := by
  rw [runQueries_cons_of_ret h]
  rcases hrun : runQueries queries t with ⟨infos | _ | _, u⟩
  · rw [Prog.bind_of_ret hrun, Prog.pure_apply]
    constructor
    · rintro ⟨hused, hresults⟩
      refine ⟨hused, ?_⟩
      rintro _ ⟨⟩
      exact (List.forall₂_cons.mp (hresults _ rfl)).2
    · rintro ⟨hused, hresults⟩
      refine ⟨hused, ?_⟩
      rintro _ ⟨⟩
      exact .cons hfirst (hresults _ rfl)
  · rw [Prog.bind_of_fault hrun]
    exact ⟨fun h => ⟨h.used, nofun⟩, fun h => ⟨h.used, nofun⟩⟩
  · rw [Prog.bind_of_cut hrun]
    exact ⟨fun h => ⟨h.used, nofun⟩, fun h => ⟨h.used, nofun⟩⟩

theorem goAsFirst_nil (h : UsedInitialised s.calls) : GoAsFirst [] (runQueries [] s) := by
  refine ⟨h, ?_⟩
  rintro _ ⟨⟩
  exact .nil

theorem not_goAsFirst_of_spent (h : Spent s) (hne : queries ≠ []) :
    ¬ GoAsFirst queries (runQueries queries s) := by
  obtain ⟨q, queries, rfl⟩ := List.exists_cons_of_ne_nil hne
  exact fun hgo => queryPciDevice_spent h q (hgo.used.of_extends (extends_runQueries_cons q queries s))

/-- The induction is on the queries; as long as they fail to initialise the library, the process stays
fresh. -/
theorem goAsFirst_iff_of_fresh (hs : Fresh s) (hused : UsedInitialised s.calls) :
    GoAsFirst queries (runQueries queries s) ↔ OneInitialises queries := by
  induction queries generalizing s with
  | nil => exact iff_of_true (goAsFirst_nil hused) trivial
  | cons q queries ih =>
    rw [OneInitialises]
    cases hq : q.systemInit with
    | false =>
      have hquery := queryPciDevice_failed hs.pciInit hq
      rw [goAsFirst_cons hquery (first_of_not_systemInit hq), if_neg nofun]
      exact ih hs.init_false (usedInitialised_log (.systemInit false) hused nofun)
    | true =>
      rw [if_pos rfl, hangs_iff, ← first_of_systemInit hq]
      obtain ⟨houtcome, hspent, hused'⟩ := queryPciDevice_initialises hs hused hq
      rcases hquery : queryPciDevice q s with ⟨o, t⟩
      rw [hquery] at houtcome hspent hused'
      dsimp only at houtcome hspent hused'
      cases hfirst : q.first with
      | none =>
        rw [hfirst] at houtcome
        rw [houtcome] at hquery
        rw [runQueries_cons_of_cut hquery]
        exact iff_of_true ⟨hused', nofun⟩ (.inr rfl)
      | some info =>
        rw [hfirst] at houtcome
        rw [houtcome] at hquery hspent
        rw [goAsFirst_cons hquery hfirst]
        by_cases hnil : queries = []
        · subst hnil
          exact iff_of_true (goAsFirst_nil hused') (.inl rfl)
        · exact iff_of_false (not_goAsFirst_of_spent (hspent nofun) hnil) (by simp [hnil])

/-- **The queries of a process** all use an initialised library and go as the first, if and only if no
query comes after one that has initialised it. -/
theorem runQueries_iff (queries : List Query) :
    GoAsFirst queries (runQueries queries {}) ↔ OneInitialises queries :=
  goAsFirst_iff_of_fresh fresh_start History.each_nil

/-- A device that can be probed and has no capabilities. -/
def plainDevice : PciDevice where
  probes := true
  deviceId := 0xe211
  config _ := some 0

/-- A query of a present device, which a library that is not initialised does not find. -/
def plainQuery : Query where
  domain := 0
  bus := 3
  device := 0
  function := 0
  systemInit := true
  found := some plainDevice
  foundUninitialised := none

/-- The second query of a device does not find it. -/
theorem runQueries_twice :
    (runQueries [plainQuery, plainQuery] {}).1 = .ret [{ valid := true, deviceId := 0xe211 }, {}] ∧
      plainQuery.first = some { valid := true, deviceId := 0xe211 } ∧
      ¬ UsedInitialised (runQueries [plainQuery, plainQuery] {}).2.calls := by
  refine ⟨by decide, by decide, fun hused => ?_⟩
  -- the call before the second search is the cleanup of the first query
  have hinit : Initialised ([.systemInit true, plainQuery.findCall, .deviceProbe] ++ [.systemCleanup]) :=
    hused _ plainQuery.findCall [.systemCleanup] (by decide) trivial
  rw [initialised_concat] at hinit
  exact hinit.elim nofun fun h => h.2 rfl

end PciSystem

end XpuManager
