import Mathlib.Data.List.AList
import Mathlib.Tactic.Tauto
import XpuManager.Lib.FlagBits
import XpuManager.Lib.LastWrite
import XpuManager.Xpumd.SysmanNames

/-! # States of the PCI link

A scrape of the state of a device's PCI link (`scrapePciState`, `receiver/intelxpu/sysman/device.go`)
records the states that are active, and those that have been before. An issue has no state of its own,
only those of the flags in its mask. -/

namespace XpuManager

namespace Sysman

open FlagBits LastWrite

/-! ## The code -/

abbrev PciLinkStatus := UInt32

def PCI_LINK_STATUS_UNKNOWN : PciLinkStatus := 0
def PCI_LINK_STATUS_GOOD : PciLinkStatus := 1
def PCI_LINK_STATUS_QUALITY_ISSUES : PciLinkStatus := 2
def PCI_LINK_STATUS_STABILITY_ISSUES : PciLinkStatus := 3

/-- `zes_pci_state_t`; the speed is not looked at. -/
structure PciState where
  status : PciLinkStatus
  qualityIssues : BitVec 32
  stabilityIssues : BitVec 32
  deriving DecidableEq

/-- What a scrape finds of earlier ones; the statuses are a map's keys. -/
structure PciLink where
  stateDisabled : Bool
  statesSeen : Option (List PciLinkStatus)
  qualitySeen : BitVec 32
  stabilitySeen : BitVec 32
  deriving DecidableEq

/-- A link before its first scrape. -/
def PciLink.init : PciLink := ⟨false, none, 0, 0⟩

def pciLinkStatusString : PciLinkStatus → String :=
  enumString "PciLinkStatus" ["UNKNOWN", "GOOD", "QUALITY_ISSUES", "STABILITY_ISSUES"]

def pciLinkQualIssueFlagString (bit : BitVec 32) : String :=
  flagString "PciLinkQualIssueFlag" ["REPLAYS", "SPEED"] (UInt32.ofBitVec bit)

def pciLinkStabIssueFlagString (bit : BitVec 32) : String :=
  flagString "PciLinkStabIssueFlag" ["RETRAINING"] (UInt32.ofBitVec bit)

/-- The states by name, and whether they are active. -/
abbrev States := AList fun _ : String => Bool

/-- New states replace those of their names. -/
def setStates (states : States) (new : List (String × Bool)) : States :=
  new.foldl (fun states state => states.insert state.1 state.2) states

/-- The issues of a mask that have been seen. -/
def issueStates (string : BitVec 32 → String) (seen mask : BitVec 32) : List (String × Bool) :=
  (flagsToBits seen).map fun bit => (string bit ++ "_issue", decide (mask &&& bit ≠ 0))

/-- The status: an issue adds the flags of its mask to those that have been seen, and any other status is
a state. -/
def addStatus (pciLink : PciLink) (pci : PciState) : PciLink × States :=
  let statesSeen := pciLink.statesSeen.getD []
  let states := setStates ∅ (statesSeen.map fun flag => (pciLinkStatusString flag, false))
  if pci.status = PCI_LINK_STATUS_QUALITY_ISSUES then
    ({ pciLink with
        statesSeen := some statesSeen
        qualitySeen := pciLink.qualitySeen ||| pci.qualityIssues }, states)
  else if pci.status = PCI_LINK_STATUS_STABILITY_ISSUES then
    ({ pciLink with
        statesSeen := some statesSeen
        stabilitySeen := pciLink.stabilitySeen ||| pci.stabilityIssues }, states)
  else
    ({ pciLink with statesSeen := some (statesSeen.insert pci.status) },
      states.insert (pciLinkStatusString pci.status) true)

/-- `scrapePciState` up to the end, where the states are recorded. -/
def scrapePciState (pciLink : PciLink) (answer : Option PciState) : PciLink × States :=
  if pciLink.stateDisabled then (pciLink, ∅)
  else match answer with
    | none => ({ pciLink with stateDisabled := true }, ∅)
    | some pci =>
      if pciLink.statesSeen = none ∧ pci.status = PCI_LINK_STATUS_UNKNOWN then (pciLink, ∅)
      else
        let (pciLink, states) := addStatus pciLink pci
        (pciLink, setStates
          (setStates states
            (issueStates pciLinkQualIssueFlagString pciLink.qualitySeen pci.qualityIssues))
          (issueStates pciLinkStabIssueFlagString pciLink.stabilitySeen pci.stabilityIssues))

/-- A data point; the other attributes are those of the device. -/
structure StatePoint where
  value : Int
  state : String
  deriving DecidableEq

/-- The name that a state is recorded with. -/
def recordedState (state : String) : String :=
  if state.toLower = "good" then "ok" else state.toLower

/-- The data point of a state. -/
def statePoint (state : Sigma fun _ : String => Bool) : StatePoint :=
  ⟨if state.2 then 1 else 0, recordedState state.1⟩

/-- Scrapes one after the other, the newest first, with what each is answered and what it records. The
states are recorded in any order. -/
inductive PciRun : List (PciState × List StatePoint) → PciLink → Prop where
  | init : PciRun [] PciLink.init
  | scrape {run pciLink} (pci : PciState) (points : List StatePoint) (before : PciRun run pciLink)
      (hpoints : points.Perm ((scrapePciState pciLink (some pci)).2.entries.map statePoint)) :
      PciRun ((pci, points) :: run) (scrapePciState pciLink (some pci)).1

/-! ## Names of states -/

/-- What a name stands for. -/
inductive LinkState where
  | status (s : PciLinkStatus)
  | quality (bit : BitVec 32)
  | stability (bit : BitVec 32)
  deriving DecidableEq

namespace LinkState

def name : LinkState → String
  | .status s => pciLinkStatusString s
  | .quality bit => pciLinkQualIssueFlagString bit ++ "_issue"
  | .stability bit => pciLinkStabIssueFlagString bit ++ "_issue"

/-- The name of a state as it is recorded. -/
def recorded (state : LinkState) : String := recordedState state.name

def value : LinkState → Nat
  | .status s => s.toNat
  | .quality bit => bit.toNat
  | .stability bit => bit.toNat

/-- A status, or a flag that is not the last value of its enumeration, which has many bits. -/
def IsFlag : LinkState → Prop
  | status _ => True
  | quality bit => bit ≠ 2147483647
  | stability bit => bit ≠ 2147483647

/-- The states that have names, and what these are recorded as. -/
def named : List (LinkState × String) :=
  [(status 0, "unknown"), (status 1, "ok"), (status 2, "quality_issues"),
    (status 3, "stability_issues"), (status 2147483647, "force_uint32"),
    (quality 1, "replays_issue"), (quality 2, "speed_issue"), (stability 1, "retraining_issue")]

/-- What is before and after the number of any other state. -/
def printed : LinkState → String × String
  | status _ => ("pcilinkstatus(", ")")
  | quality _ => ("pcilinkqualissueflag(", ")_issue")
  | stability _ => ("pcilinkstabissueflag(", ")_issue")

/-- As much of a name as tells its kind. -/
def front (name : String) : List Char := name.toList.take 11

theorem front_append {s t : String} (h : 11 ≤ s.toList.length) : front (s ++ t) = front s := by
  rw [front, String.toList_append, List.take_append_of_le_length h, front]

theorem front_printed (state : LinkState) (n : Nat) :
    front (state.printed.1 ++ toString n ++ state.printed.2) = front state.printed.1 := by
  have hlength : 11 ≤ state.printed.1.toList.length := by
    cases state with
    | status s => exact (by decide : 11 ≤ "pcilinkstatus(".toList.length)
    | quality bit => exact (by decide : 11 ≤ "pcilinkqualissueflag(".toList.length)
    | stability bit => exact (by decide : 11 ≤ "pcilinkstabissueflag(".toList.length)
  rw [String.append_assoc, front_append hlength]

theorem toLower_eq_of_toList {s t : String} (h : s.toList.map Char.toLower = t.toList) :
    s.toLower = t := by
  rw [← String.toList_inj, toList_toLower, h]

theorem recordedState_of_toList {s t : String} (h : s.toList.map Char.toLower = t.toList)
    (ht : t ≠ "good") : recordedState s = t := by
  rw [recordedState, toLower_eq_of_toList h, if_neg ht]

theorem recordedState_good : recordedState "GOOD" = "ok" := by
  have hlower : "GOOD".toLower = "good" := toLower_eq_of_toList (by decide)
  rw [recordedState, if_pos hlower]

theorem recorded_of_named {state : LinkState} {name : String} (h : (state, name) ∈ named) :
    state.recorded = name := by
  have hall : ∀ entry ∈ named, entry = (status 1, "ok") ∨
      entry.1.name.toList.map Char.toLower = entry.2.toList ∧ entry.2 ≠ "good" := by
    decide
  rcases hall _ h with heq | ⟨hlower, hgood⟩
  · obtain ⟨rfl, rfl⟩ := Prod.mk.inj heq
    exact recordedState_good
  · exact recordedState_of_toList hlower hgood

/-- A name with a number in it, in small letters. -/
theorem recordedState_printed {before after before' after' : String} (n : Nat)
    (hbefore : before.toList.map Char.toLower = before'.toList)
    (hafter : after.toList.map Char.toLower = after'.toList) (hlength : 11 ≤ before'.toList.length) :
    recordedState (before ++ toString n ++ after) = before' ++ toString n ++ after' := by
  rw [recordedState, toLower_printed, toLower_eq_of_toList hbefore, toLower_eq_of_toList hafter, if_neg]
  intro hgood
  have hfront : front before' = "good".toList := by
    rw [← front_append hlength, ← String.append_assoc, hgood]
    decide
  have hlen := congrArg List.length hfront
  rw [front, List.length_take, Nat.min_eq_left hlength] at hlen
  exact absurd hlen (by decide)

theorem recorded_status {s : PciLinkStatus} (hnames : 4 ≤ s.toNat) (hlast : s ≠ 2147483647) :
    (status s).recorded = "pcilinkstatus(" ++ toString s.toNat ++ ")" := by
  have hname : pciLinkStatusString s = "PciLinkStatus(" ++ toString s.toNat ++ ")" :=
    enumString_of_le hnames hlast
  rw [recorded, name, hname]
  exact recordedState_printed s.toNat (by decide) (by decide) (by decide)

theorem recorded_quality {bit : BitVec 32} (hnames : bit.toNat = 0 ∨ 2 < bit.toNat)
    (hlast : bit ≠ 2147483647) :
    (quality bit).recorded = "pcilinkqualissueflag(" ++ toString bit.toNat ++ ")_issue" := by
  have hname : pciLinkQualIssueFlagString bit ++ "_issue" =
      "PciLinkQualIssueFlag(" ++ toString bit.toNat ++ ")_issue" := by
    rw [pciLinkQualIssueFlagString, flagString_of_lt, String.append_assoc]
    · rfl
    · exact hnames
    · exact fun heq => hlast (congrArg UInt32.toBitVec heq)
  rw [recorded, name, hname]
  exact recordedState_printed bit.toNat (by decide) (by decide) (by decide)

theorem recorded_stability {bit : BitVec 32} (hnames : bit.toNat = 0 ∨ 1 < bit.toNat)
    (hlast : bit ≠ 2147483647) :
    (stability bit).recorded = "pcilinkstabissueflag(" ++ toString bit.toNat ++ ")_issue" := by
  have hname : pciLinkStabIssueFlagString bit ++ "_issue" =
      "PciLinkStabIssueFlag(" ++ toString bit.toNat ++ ")_issue" := by
    rw [pciLinkStabIssueFlagString, flagString_of_lt, String.append_assoc]
    · rfl
    · exact hnames
    · exact fun heq => hlast (congrArg UInt32.toBitVec heq)
  rw [recorded, name, hname]
  exact recordedState_printed bit.toNat (by decide) (by decide) (by decide)

theorem recorded_eq_printed {state : LinkState} (h : state.IsFlag)
    (hnamed : ∀ entry ∈ named, entry.1 ≠ state) :
    state.recorded = state.printed.1 ++ toString state.value ++ state.printed.2 := by
  simp only [named, List.forall_mem_cons] at hnamed
  obtain ⟨h0, h1, h2, h3, hlast, hreplays, hspeed, hretraining, -⟩ := hnamed
  cases state with
  | status s =>
    rw [Ne, status.injEq, ← UInt32.toNat_inj] at h0 h1 h2 h3
    rw [Ne, status.injEq] at hlast
    refine recorded_status ?_ (Ne.symm hlast)
    change ¬(0 = s.toNat) at h0
    change ¬(1 = s.toNat) at h1
    change ¬(2 = s.toNat) at h2
    change ¬(3 = s.toNat) at h3
    omega
  | quality bit =>
    rw [Ne, quality.injEq, ← BitVec.toNat_inj] at hreplays hspeed
    refine recorded_quality ?_ h
    change ¬(1 = bit.toNat) at hreplays
    change ¬(2 = bit.toNat) at hspeed
    omega
  | stability bit =>
    rw [Ne, stability.injEq, ← BitVec.toNat_inj] at hretraining
    refine recorded_stability ?_ h
    change ¬(1 = bit.toNat) at hretraining
    omega

/-- The names that states have are no numbers. -/
theorem front_ne_printed {entry : LinkState × String} (h : entry ∈ named) (state : LinkState) :
    front entry.2 ≠ front state.printed.1 := by
  cases state with
  | status s =>
    have hall : ∀ entry ∈ named, front entry.2 ≠ front "pcilinkstatus(" := by decide
    exact hall entry h
  | quality bit =>
    have hall : ∀ entry ∈ named, front entry.2 ≠ front "pcilinkqualissueflag(" := by decide
    exact hall entry h
  | stability bit =>
    have hall : ∀ entry ∈ named, front entry.2 ≠ front "pcilinkstabissueflag(" := by decide
    exact hall entry h

/-- Numbers of one kind are told apart. -/
theorem printed_inj {state other : LinkState}
    (h : state.printed.1 ++ toString state.value ++ state.printed.2 =
      other.printed.1 ++ toString other.value ++ other.printed.2) : state = other := by
  have hfront := congrArg front h
  rw [front_printed, front_printed] at hfront
  have hvalue (hparts : state.printed = other.printed) : state.value = other.value := by
    rw [hparts, String.append_left_inj, String.append_right_inj] at h
    exact Numerals.toString_inj h
  have hquality : front "pcilinkstatus(" ≠ front "pcilinkqualissueflag(" := by decide
  have hstability : front "pcilinkstatus(" ≠ front "pcilinkstabissueflag(" := by decide
  have hissues : front "pcilinkqualissueflag(" ≠ front "pcilinkstabissueflag(" := by decide
  cases state <;> cases other
  case status.status => exact congrArg status (UInt32.toNat_inj.mp (hvalue rfl))
  case status.quality => exact absurd hfront hquality
  case status.stability => exact absurd hfront hstability
  case quality.status => exact absurd hfront.symm hquality
  case quality.quality => exact congrArg quality (BitVec.toNat_inj.mp (hvalue rfl))
  case quality.stability => exact absurd hfront hissues
  case stability.status => exact absurd hfront.symm hstability
  case stability.quality => exact absurd hfront.symm hissues
  case stability.stability => exact congrArg stability (BitVec.toNat_inj.mp (hvalue rfl))

/-- Each state is recorded with a name of its own. -/
theorem recorded_inj {state other : LinkState} (h : state.IsFlag) (hother : other.IsFlag)
    (heq : state.recorded = other.recorded) : state = other := by
  have hprinted {state : LinkState} (h : state.IsFlag) (hnamed : ¬∃ entry ∈ named, entry.1 = state) :=
    recorded_eq_printed h fun entry hentry heq => hnamed ⟨entry, hentry, heq⟩
  by_cases hnamed : ∃ entry ∈ named, entry.1 = state <;>
    by_cases hnamed' : ∃ entry ∈ named, entry.1 = other
  · obtain ⟨⟨_, name⟩, hentry, rfl⟩ := hnamed
    obtain ⟨⟨_, name'⟩, hentry', rfl⟩ := hnamed'
    rw [recorded_of_named hentry, recorded_of_named hentry'] at heq
    have hnodup : (named.map Prod.snd).Nodup := by decide
    exact congrArg Prod.fst (List.inj_on_of_nodup_map hnodup hentry hentry' heq)
  · obtain ⟨⟨_, name⟩, hentry, rfl⟩ := hnamed
    rw [recorded_of_named hentry, hprinted hother hnamed'] at heq
    exact absurd ((congrArg front heq).trans (front_printed other _)) (front_ne_printed hentry other)
  · obtain ⟨⟨_, name⟩, hentry, rfl⟩ := hnamed'
    rw [hprinted h hnamed, recorded_of_named hentry] at heq
    exact absurd ((congrArg front heq.symm).trans (front_printed state _))
      (front_ne_printed hentry state)
  · rw [hprinted h hnamed, hprinted hother hnamed'] at heq
    exact printed_inj heq

/-- No two states have one name. -/
theorem name_inj {state other : LinkState} (h : state.IsFlag) (hother : other.IsFlag)
    (heq : state.name = other.name) : state = other :=
  recorded_inj h hother (congrArg recordedState heq)

/-- The state has been seen. -/
def Seen (pciLink : PciLink) : LinkState → Prop
  | .status s => s ∈ pciLink.statesSeen.getD []
  | .quality bit => bit ∈ flagsToBits pciLink.qualitySeen
  | .stability bit => bit ∈ flagsToBits pciLink.stabilitySeen

/-- The answer has the state. -/
def isActive (pci : PciState) : LinkState → Bool
  | .status s => s = pci.status
  | .quality bit => pci.qualityIssues &&& bit ≠ 0
  | .stability bit => pci.stabilityIssues &&& bit ≠ 0

theorem ne_last_of_mem_flagsToBits {flags bit : BitVec 32} (h : bit ∈ flagsToBits flags) :
    bit ≠ 2147483647 := by
  rintro rfl
  exact absurd (eq_of_mem_flagsToBits (i := 0) (j := 1) h (by decide) (by decide)) (by decide)

theorem Seen.isFlag {pciLink : PciLink} {state : LinkState} (h : state.Seen pciLink) : state.IsFlag := by
  cases state with
  | status s => trivial
  | quality bit => exact ne_last_of_mem_flagsToBits h
  | stability bit => exact ne_last_of_mem_flagsToBits h

end LinkState

/-! ## The map of the states -/

/-- The last write decides. -/
theorem lookup_setStates (states : States) (new : List (String × Bool)) (name : String) :
    (setStates states new).lookup name = lastWrites states.lookup new name := by
  induction new generalizing states with
  | nil => rfl
  | cons state new ih =>
    have hinsert : (states.insert state.1 state.2).lookup =
        Function.update states.lookup state.1 (some state.2) := by
      funext name
      by_cases hname : name = state.1
      · rw [hname, AList.lookup_insert, Function.update_self]
      · rw [AList.lookup_insert_ne hname, Function.update_of_ne hname]
    exact (ih _).trans (by rw [hinsert]; rfl)

theorem mem_issueStates {string : BitVec 32 → String} {seen mask : BitVec 32} {name : String}
    {active : Bool} : (name, active) ∈ issueStates string seen mask ↔
      ∃ bit ∈ flagsToBits seen, string bit ++ "_issue" = name ∧ decide (mask &&& bit ≠ 0) = active := by
  simp only [issueStates, List.mem_map, Prod.mk.injEq]

section

variable {pciLink : PciLink} {pci : PciState} {name : String} {active : Bool}

/-- An issue is not among the statuses that have been seen. -/
def PciLink.NoIssue (pciLink : PciLink) : Prop :=
  ∀ s ∈ pciLink.statesSeen.getD [],
    s ≠ PCI_LINK_STATUS_QUALITY_ISSUES ∧ s ≠ PCI_LINK_STATUS_STABILITY_ISSUES

/-- The statuses seen before, none of them active. -/
theorem lookup_statesSeen (seen : List PciLinkStatus) :
    (setStates ∅ (seen.map fun flag => (pciLinkStatusString flag, false))).lookup name = some active ↔
      (∃ s ∈ seen, pciLinkStatusString s = name) ∧ active = false := by
  have hagree : Agree (seen.map fun flag => (pciLinkStatusString flag, false)) := by
    intro k v v' hv hv'
    obtain ⟨s, -, hs⟩ := List.mem_map.mp hv
    obtain ⟨s', -, hs'⟩ := List.mem_map.mp hv'
    exact (Prod.mk.inj hs).2.symm.trans (Prod.mk.inj hs').2
  have hempty : (∅ : States).lookup = fun _ => none := rfl
  rw [lookup_setStates, hempty, lastWrites_eq_some_iff hagree, List.mem_map]
  constructor
  · rintro ⟨s, hs, heq⟩
    obtain ⟨rfl, rfl⟩ := Prod.mk.inj heq
    exact ⟨⟨s, hs, rfl⟩, rfl⟩
  · rintro ⟨⟨s, hs, rfl⟩, rfl⟩
    exact ⟨s, hs, rfl⟩

theorem noIssue_addStatus (h : pciLink.NoIssue) : (addStatus pciLink pci).1.NoIssue := by
  rw [addStatus]
  split
  · exact h
  · split
    · exact h
    · rename_i hquality hstability
      intro s hs
      rcases List.mem_insert_iff.mp hs with rfl | hs
      · exact ⟨hquality, hstability⟩
      · exact h s hs

/-- What has been seen stays seen. -/
theorem LinkState.Seen.addStatus {state : LinkState} (h : state.Seen pciLink) (pci : PciState) :
    state.Seen (addStatus pciLink pci).1 := by
  have hor {x y bit : BitVec 32} (hbit : bit ∈ flagsToBits x) : bit ∈ flagsToBits (x ||| y) := by
    obtain ⟨i, hi, rfl⟩ := mem_flagsToBits.mp hbit
    exact mem_flagsToBits.mpr ⟨i, by rw [BitVec.getLsbD_or, hi, Bool.true_or], rfl⟩
  rw [Sysman.addStatus]
  split
  · cases state with
    | status s => exact h
    | quality bit => exact hor h
    | stability bit => exact h
  · split
    · cases state with
      | status s => exact h
      | quality bit => exact h
      | stability bit => exact hor h
    · cases state with
      | status s => exact List.mem_insert_of_mem h
      | quality bit => exact h
      | stability bit => exact h

/-- The statuses, of which at most that of the answer is active. -/
theorem lookup_addStatus (h : pciLink.NoIssue) :
    (addStatus pciLink pci).2.lookup name = some active ↔
      ∃ s ∈ (addStatus pciLink pci).1.statesSeen.getD [],
        pciLinkStatusString s = name ∧ decide (s = pci.status) = active := by
  have hold (hissue : pci.status = PCI_LINK_STATUS_QUALITY_ISSUES ∨
      pci.status = PCI_LINK_STATUS_STABILITY_ISSUES) :
      (setStates ∅ ((pciLink.statesSeen.getD []).map fun flag =>
          (pciLinkStatusString flag, false))).lookup name = some active ↔
        ∃ s ∈ pciLink.statesSeen.getD [],
          pciLinkStatusString s = name ∧ decide (s = pci.status) = active := by
    rw [lookup_statesSeen]
    constructor
    · rintro ⟨⟨s, hs, hname⟩, rfl⟩
      refine ⟨s, hs, hname, decide_eq_false ?_⟩
      rintro rfl
      exact hissue.elim (h _ hs).1 (h _ hs).2
    · rintro ⟨s, hs, hname, rfl⟩
      refine ⟨⟨s, hs, hname⟩, decide_eq_false ?_⟩
      rintro rfl
      exact hissue.elim (h _ hs).1 (h _ hs).2
  rw [addStatus]
  split
  case isTrue hquality => exact hold (.inl hquality)
  case isFalse =>
    split
    case isTrue hstability => exact hold (.inr hstability)
    case isFalse =>
      dsimp only [Option.getD_some]
      by_cases hname : name = pciLinkStatusString pci.status
      · subst hname
        rw [AList.lookup_insert, Option.some_inj]
        constructor
        · rintro rfl
          exact ⟨pci.status, List.mem_insert_self, rfl, decide_eq_true rfl⟩
        · rintro ⟨s, -, hname, rfl⟩
          have heq : LinkState.status s = .status pci.status := LinkState.name_inj trivial trivial hname
          exact (decide_eq_true (LinkState.status.inj heq)).symm
      · rw [AList.lookup_insert_ne hname, lookup_statesSeen]
        constructor
        · rintro ⟨⟨s, hs, rfl⟩, rfl⟩
          refine ⟨s, List.mem_insert_of_mem hs, rfl, decide_eq_false ?_⟩
          rintro rfl
          exact hname rfl
        · rintro ⟨s, hs, rfl, rfl⟩
          have hne : s ≠ pci.status := by
            rintro rfl
            exact hname rfl
          exact ⟨⟨s, (List.mem_insert_iff.mp hs).resolve_left hne, rfl⟩, decide_eq_false hne⟩

/-- The flags of a mask have names of their own. -/
theorem agree_issueStates {string : BitVec 32 → String} {state : BitVec 32 → LinkState}
    {seen mask : BitVec 32} (hname : ∀ bit, (state bit).name = string bit ++ "_issue")
    (hflag : ∀ bit ∈ flagsToBits seen, (state bit).IsFlag) (hinj : Function.Injective state) :
    Agree (issueStates string seen mask) := by
  intro name v v' hv hv'
  obtain ⟨bit, hbit, hbitName, rfl⟩ := mem_issueStates.mp hv
  obtain ⟨bit', hbit', hbitName', rfl⟩ := mem_issueStates.mp hv'
  have heq : state bit = state bit' := LinkState.name_inj (hflag bit hbit) (hflag bit' hbit')
    (by rw [hname, hname, hbitName, hbitName'])
  rw [hinj heq]

/-- The states of a scrape: all that have been seen, as the answer has them. -/
theorem lookup_scrapePciState (hdisabled : pciLink.stateDisabled = false)
    (hknown : ¬(pciLink.statesSeen = none ∧ pci.status = PCI_LINK_STATUS_UNKNOWN))
    (h : pciLink.NoIssue) :
    (scrapePciState pciLink (some pci)).2.lookup name = some active ↔
      ∃ state : LinkState, state.Seen (addStatus pciLink pci).1 ∧ state.name = name ∧
        state.isActive pci = active := by
  have hquality : Agree (issueStates pciLinkQualIssueFlagString (addStatus pciLink pci).1.qualitySeen
      pci.qualityIssues) :=
    agree_issueStates (fun bit => rfl) (fun bit => LinkState.ne_last_of_mem_flagsToBits)
      fun bit bit' => LinkState.quality.inj
  have hstability : Agree (issueStates pciLinkStabIssueFlagString
      (addStatus pciLink pci).1.stabilitySeen pci.stabilityIssues) :=
    agree_issueStates (fun bit => rfl) (fun bit => LinkState.ne_last_of_mem_flagsToBits)
      fun bit bit' => LinkState.stability.inj
  rw [scrapePciState, if_neg (by rw [hdisabled]; exact Bool.noConfusion)]
  dsimp only
  rw [if_neg hknown, lookup_setStates, lastWrites_eq_some_iff_or hstability, lookup_setStates,
    lastWrites_eq_some_iff_or hquality, lookup_addStatus h]
  simp only [mem_issueStates]
  constructor
  · rintro (⟨bit, hbit, hname, hactive⟩ | ⟨-, ⟨bit, hbit, hname, hactive⟩ | ⟨-, s, hs, hname, hactive⟩⟩)
    · exact ⟨.stability bit, hbit, hname, hactive⟩
    · exact ⟨.quality bit, hbit, hname, hactive⟩
    · exact ⟨.status s, hs, hname, hactive⟩
  · rintro ⟨state, hseen, rfl, hactive⟩
    have hne (other : LinkState) (hother : other.Seen (addStatus pciLink pci).1)
        (hname : other.name = state.name) : other = state :=
      LinkState.name_inj hother.isFlag hseen.isFlag hname
    cases state with
    | stability bit => exact .inl ⟨bit, hseen, rfl, hactive⟩
    | quality bit =>
      refine .inr ⟨?_, .inl ⟨bit, hseen, rfl, hactive⟩⟩
      rintro v ⟨bit', hbit', hname, -⟩
      exact LinkState.noConfusion (hne (.stability bit') hbit' hname)
    | status s =>
      refine .inr ⟨?_, .inr ⟨?_, s, hseen, rfl, hactive⟩⟩
      · rintro v ⟨bit', hbit', hname, -⟩
        exact LinkState.noConfusion (hne (.stability bit') hbit' hname)
      · rintro v ⟨bit', hbit', hname, -⟩
        exact LinkState.noConfusion (hne (.quality bit') hbit' hname)

end

/-! ## Runs -/

section

variable {run : List (PciState × List StatePoint)} {pciLink : PciLink} {pci : PciState}
  {points : List StatePoint}

/-- What scrapes find of the answers before. -/
structure PciLink.Follows (pciLink : PciLink) (answers : List PciState) : Prop where
  enabled : pciLink.stateDisabled = false
  known : pciLink.statesSeen = none ↔ ∀ pci ∈ answers, pci.status = PCI_LINK_STATUS_UNKNOWN
  noIssue : pciLink.NoIssue
  quality : ∀ i, pciLink.qualitySeen.getLsbD i = true ↔
    ∃ pci ∈ answers, pci.status = PCI_LINK_STATUS_QUALITY_ISSUES ∧ pci.qualityIssues.getLsbD i = true
  stability : ∀ i, pciLink.stabilitySeen.getLsbD i = true ↔
    ∃ pci ∈ answers, pci.status = PCI_LINK_STATUS_STABILITY_ISSUES ∧
      pci.stabilityIssues.getLsbD i = true

theorem scrapePciState_unknown {answers : List PciState} (h : pciLink.Follows answers)
    (hunknown : pciLink.statesSeen = none ∧ pci.status = PCI_LINK_STATUS_UNKNOWN) :
    scrapePciState pciLink (some pci) = (pciLink, ∅) := by
  rw [scrapePciState, if_neg (by rw [h.enabled]; exact Bool.noConfusion)]
  exact if_pos hunknown

theorem scrapePciState_fst {answers : List PciState} (h : pciLink.Follows answers)
    (hknown : ¬(pciLink.statesSeen = none ∧ pci.status = PCI_LINK_STATUS_UNKNOWN)) :
    (scrapePciState pciLink (some pci)).1 = (addStatus pciLink pci).1 := by
  rw [scrapePciState, if_neg (by rw [h.enabled]; exact Bool.noConfusion)]
  dsimp only
  rw [if_neg hknown]

/-- An answer with an issue adds the flags of its mask, and any other adds none. -/
theorem getLsbD_issues {answers : List PciState} {status : PciLinkStatus}
    {issues : PciState → BitVec 32} {seen : BitVec 32}
    (h : ∀ i, seen.getLsbD i = true ↔
      ∃ pci ∈ answers, pci.status = status ∧ (issues pci).getLsbD i = true) (i : Nat) :
    (if pci.status = status then seen ||| issues pci else seen).getLsbD i = true ↔
      ∃ p ∈ pci :: answers, p.status = status ∧ (issues p).getLsbD i = true := by
  rw [List.exists_mem_cons_iff, ← h i]
  split
  case isTrue hstatus => rw [BitVec.getLsbD_or, Bool.or_eq_true, or_comm, and_iff_right hstatus]
  case isFalse hstatus => simp only [hstatus, false_and, false_or]

theorem addStatus_fst (pciLink : PciLink) (pci : PciState) :
    (addStatus pciLink pci).1.stateDisabled = pciLink.stateDisabled ∧
    (addStatus pciLink pci).1.statesSeen ≠ none ∧
    (addStatus pciLink pci).1.qualitySeen =
      (if pci.status = PCI_LINK_STATUS_QUALITY_ISSUES then pciLink.qualitySeen ||| pci.qualityIssues
        else pciLink.qualitySeen) ∧
    (addStatus pciLink pci).1.stabilitySeen =
      (if pci.status = PCI_LINK_STATUS_STABILITY_ISSUES then
        pciLink.stabilitySeen ||| pci.stabilityIssues else pciLink.stabilitySeen) := by
  rw [addStatus]
  by_cases hquality : pci.status = PCI_LINK_STATUS_QUALITY_ISSUES
  · have hstability : pci.status ≠ PCI_LINK_STATUS_STABILITY_ISSUES := by
      rw [hquality]
      decide
    rw [if_pos hquality, if_pos hquality, if_neg hstability]
    exact ⟨rfl, Option.some_ne_none _, rfl, rfl⟩
  · rw [if_neg hquality, if_neg hquality]
    split
    · exact ⟨rfl, Option.some_ne_none _, rfl, rfl⟩
    · exact ⟨rfl, Option.some_ne_none _, rfl, rfl⟩

/-- One more answer is followed too, unless it is a first and unknown one. -/
theorem follows_addStatus {answers : List PciState} (h : pciLink.Follows answers)
    (hknown : ¬(pciLink.statesSeen = none ∧ pci.status = PCI_LINK_STATUS_UNKNOWN)) :
    (addStatus pciLink pci).1.Follows (pci :: answers) := by
  obtain ⟨henabled, hsome, hquality, hstability⟩ := addStatus_fst pciLink pci
  constructor
  case enabled => rw [henabled, h.enabled]
  case known =>
    refine iff_of_false hsome fun hall => hknown ?_
    rw [List.forall_mem_cons] at hall
    exact ⟨h.known.mpr hall.2, hall.1⟩
  case noIssue => exact noIssue_addStatus h.noIssue
  case quality =>
    rw [hquality]
    exact getLsbD_issues h.quality
  case stability =>
    rw [hstability]
    exact getLsbD_issues h.stability

/-- An answer without a known status is not kept. -/
theorem follows_unknown {answers : List PciState} (h : pciLink.Follows answers)
    (hunknown : pciLink.statesSeen = none ∧ pci.status = PCI_LINK_STATUS_UNKNOWN) :
    pciLink.Follows (pci :: answers) := by
  have hne (status : PciLinkStatus) (hstatus : status ≠ PCI_LINK_STATUS_UNKNOWN) :
      pci.status ≠ status := by
    rw [hunknown.2]
    exact hstatus.symm
  constructor
  case enabled => exact h.enabled
  case known =>
    refine iff_of_true hunknown.1 (List.forall_mem_cons.mpr ⟨hunknown.2, h.known.mp hunknown.1⟩)
  case noIssue => exact h.noIssue
  case quality =>
    intro i
    rw [← getLsbD_issues h.quality, if_neg (hne _ (by decide))]
  case stability =>
    intro i
    rw [← getLsbD_issues h.stability, if_neg (hne _ (by decide))]

/-- Every run keeps the record of its answers. -/
theorem PciRun.follows (h : PciRun run pciLink) : pciLink.Follows (run.map Prod.fst) := by
  induction h with
  | init =>
    exact ⟨rfl, by simp [PciLink.init], by simp [PciLink.NoIssue, PciLink.init],
      by simp [PciLink.init], by simp [PciLink.init]⟩
  | @scrape run pciLink pci points before hpoints ih =>
    by_cases hunknown : pciLink.statesSeen = none ∧ pci.status = PCI_LINK_STATUS_UNKNOWN
    · rw [scrapePciState_unknown ih hunknown]
      exact follows_unknown ih hunknown
    · rw [scrapePciState_fst ih hunknown]
      exact follows_addStatus ih hunknown

end

/-! ## What a scrape records -/

section

variable {run : List (PciState × List StatePoint)} {pciLink : PciLink} {pci : PciState}
  {points : List StatePoint} {answers : List PciState}

/-- The points are the states that have been seen, as the answer has them. -/
theorem mem_points (h : pciLink.Follows answers)
    (hknown : ¬(pciLink.statesSeen = none ∧ pci.status = PCI_LINK_STATUS_UNKNOWN))
    (hpoints : points.Perm ((scrapePciState pciLink (some pci)).2.entries.map statePoint))
    {point : StatePoint} : point ∈ points ↔
      ∃ state : LinkState, state.Seen (addStatus pciLink pci).1 ∧ point.state = state.recorded ∧
        point.value = if state.isActive pci then 1 else 0 := by
  rw [hpoints.mem_iff, List.mem_map]
  constructor
  · rintro ⟨⟨name, active⟩, hentry, rfl⟩
    obtain ⟨state, hseen, rfl, rfl⟩ := (lookup_scrapePciState h.enabled hknown h.noIssue).mp
      (AList.mem_lookup_iff.mpr hentry)
    exact ⟨state, hseen, rfl, rfl⟩
  · rintro ⟨state, hseen, hstate, hvalue⟩
    refine ⟨⟨state.name, state.isActive pci⟩, AList.mem_lookup_iff.mp
      ((lookup_scrapePciState h.enabled hknown h.noIssue).mpr ⟨state, hseen, rfl, rfl⟩), ?_⟩
    rw [statePoint, ← hvalue]
    exact congrArg (StatePoint.mk _) hstate.symm

/-- No name is recorded twice. -/
theorem nodup_points (h : pciLink.Follows answers)
    (hknown : ¬(pciLink.statesSeen = none ∧ pci.status = PCI_LINK_STATUS_UNKNOWN))
    (hpoints : points.Perm ((scrapePciState pciLink (some pci)).2.entries.map statePoint)) :
    (points.map StatePoint.state).Nodup := by
  rw [(hpoints.map StatePoint.state).nodup_iff]
  have hkeys := (scrapePciState pciLink (some pci)).2.keys_nodup
  have hmap : ((scrapePciState pciLink (some pci)).2.entries.map statePoint).map StatePoint.state =
      (scrapePciState pciLink (some pci)).2.keys.map recordedState := by
    rw [AList.keys, List.keys, List.map_map, List.map_map]
    rfl
  rw [hmap]
  refine hkeys.map_on fun name hname name' hname' heq => ?_
  have hseen {name : String} (hname : name ∈ (scrapePciState pciLink (some pci)).2.keys) :
      ∃ state : LinkState, state.IsFlag ∧ state.name = name := by
    obtain ⟨active, hactive⟩ := AList.lookup_isSome.mpr hname |> Option.isSome_iff_exists.mp
    obtain ⟨state, hseen, rfl, -⟩ :=
      (lookup_scrapePciState h.enabled hknown h.noIssue).mp hactive
    exact ⟨state, hseen.isFlag, rfl⟩
  obtain ⟨state, hflag, rfl⟩ := hseen hname
  obtain ⟨state', hflag', rfl⟩ := hseen hname'
  rw [LinkState.recorded_inj hflag hflag' heq]

/-- All that a run has recorded has been seen. -/
theorem PciRun.seen (h : PciRun run pciLink) : ∀ scrape ∈ run, ∀ point ∈ scrape.2,
    ∃ state : LinkState, state.Seen pciLink ∧ point.state = state.recorded := by
  induction h with
  | init => exact fun scrape hscrape => absurd hscrape List.not_mem_nil
  | @scrape run pciLink pci points before hpoints ih =>
    by_cases hunknown : pciLink.statesSeen = none ∧ pci.status = PCI_LINK_STATUS_UNKNOWN
    · rw [scrapePciState_unknown before.follows hunknown] at hpoints ⊢
      have hnil : points = [] := hpoints.eq_nil
      refine List.forall_mem_cons.mpr ⟨fun point hpoint => ?_, ih⟩
      rw [hnil] at hpoint
      exact absurd hpoint List.not_mem_nil
    · rw [scrapePciState_fst before.follows hunknown]
      refine List.forall_mem_cons.mpr ⟨fun point hpoint => ?_, fun scrape hscrape point hpoint => ?_⟩
      · obtain ⟨state, hseen, hstate, -⟩ := (mem_points before.follows hunknown hpoints).mp hpoint
        exact ⟨state, hseen, hstate⟩
      · obtain ⟨state, hseen, hstate⟩ := ih scrape hscrape point hpoint
        exact ⟨state, hseen.addStatus pci, hstate⟩

/-- Something is active where the answer's status is a state, or has an issue that has been seen. -/
theorem exists_isActive_iff : (∃ state : LinkState, state.Seen pciLink ∧ state.isActive pci = true) ↔
    pci.status ∈ pciLink.statesSeen.getD [] ∨ pciLink.qualitySeen &&& pci.qualityIssues ≠ 0 ∨
      pciLink.stabilitySeen &&& pci.stabilityIssues ≠ 0 := by
  have hflags (seen mask : BitVec 32) : (∃ bit ∈ flagsToBits seen, mask &&& bit ≠ 0) ↔
      seen &&& mask ≠ 0 := exists_mem_flagsToBits_iff
  rw [← hflags, ← hflags]
  constructor
  · rintro ⟨s | bit | bit, hseen, hactive⟩
    · exact .inl (of_decide_eq_true hactive ▸ hseen)
    · exact .inr (.inl ⟨bit, hseen, of_decide_eq_true hactive⟩)
    · exact .inr (.inr ⟨bit, hseen, of_decide_eq_true hactive⟩)
  · rintro (hstatus | ⟨bit, hbit, hactive⟩ | ⟨bit, hbit, hactive⟩)
    · exact ⟨.status pci.status, hstatus, decide_eq_true rfl⟩
    · exact ⟨.quality bit, hbit, decide_eq_true hactive⟩
    · exact ⟨.stability bit, hbit, decide_eq_true hactive⟩

end

/-- What every scrape records, from the first status that is known on: each state once, `ok` as active
only where the status is good, and all states recorded before. -/
structure RecordsStates (run : List (PciState × List StatePoint)) (pci : PciState)
    (points : List StatePoint) : Prop where
  once : (points.map StatePoint.state).Nodup
  ok : ∀ point ∈ points, point.state = "ok" → point.value = 1 → pci.status = PCI_LINK_STATUS_GOOD
  kept : ∀ scrape ∈ run, ∀ point ∈ scrape.2, point.state ∈ points.map StatePoint.state

/-- An issue without a flag: the answer's own mask is empty, and the other one has no flag that an
earlier answer with the other issue had. -/
def NoFlag (answers : List PciState) (pci : PciState) : Prop :=
  (pci.status = PCI_LINK_STATUS_QUALITY_ISSUES ∧ pci.qualityIssues = 0 ∧
    ∀ before ∈ answers, before.status = PCI_LINK_STATUS_STABILITY_ISSUES →
      before.stabilityIssues &&& pci.stabilityIssues = 0) ∨
  (pci.status = PCI_LINK_STATUS_STABILITY_ISSUES ∧ pci.stabilityIssues = 0 ∧
    ∀ before ∈ answers, before.status = PCI_LINK_STATUS_QUALITY_ISSUES →
      before.qualityIssues &&& pci.qualityIssues = 0)

section

variable {run : List (PciState × List StatePoint)} {pciLink : PciLink} {pci : PciState}
  {points : List StatePoint} {answers : List PciState}

/-- Flags that have been seen with a status are in an answer with it. -/
theorem seen_and_ne_zero_iff {status : PciLinkStatus} {issues : PciState → BitVec 32}
    {seen mask : BitVec 32} (h : ∀ i, seen.getLsbD i = true ↔
      ∃ pci ∈ answers, pci.status = status ∧ (issues pci).getLsbD i = true) :
    seen &&& mask ≠ 0 ↔ ¬∀ before ∈ answers, before.status = status → issues before &&& mask = 0 := by
  have hcommon (flags : BitVec 32) : flags &&& mask ≠ 0 ↔
      ∃ i, flags.getLsbD i = true ∧ mask.getLsbD i = true := and_ne_zero_iff
  rw [hcommon]
  constructor
  · rintro ⟨i, hi, hmask⟩ hall
    obtain ⟨before, hbefore, hstatus, hissue⟩ := (h i).mp hi
    exact (hcommon _).mpr ⟨i, hissue, hmask⟩ (hall before hbefore hstatus)
  · intro hall
    simp only [not_forall] at hall
    obtain ⟨before, hbefore, hstatus, hne⟩ := hall
    obtain ⟨i, hissue, hmask⟩ := (hcommon _).mp hne
    exact ⟨i, (h i).mpr ⟨before, hbefore, hstatus, hissue⟩, hmask⟩

theorem or_and_self (x y : BitVec 32) : (x ||| y) &&& y = y := by
  rw [BitVec.and_comm]
  ext i
  simp +contextual

/-- After the status is added something is active, unless it is an issue without a flag. -/
theorem exists_isActive_addStatus (h : pciLink.Follows answers) :
    (∃ state : LinkState, state.Seen (addStatus pciLink pci).1 ∧ state.isActive pci = true) ↔
      ¬NoFlag answers pci := by
  obtain ⟨-, -, hquality, hstability⟩ := addStatus_fst pciLink pci
  have hnoIssue : pci.status ∈ (addStatus pciLink pci).1.statesSeen.getD [] → _ :=
    noIssue_addStatus h.noIssue pci.status
  rw [exists_isActive_iff, hquality, hstability, NoFlag]
  by_cases hq : pci.status = PCI_LINK_STATUS_QUALITY_ISSUES
  · have hs : pci.status ≠ PCI_LINK_STATUS_STABILITY_ISSUES := by
      rw [hq]
      decide
    rw [if_pos hq, if_neg hs, or_and_self, seen_and_ne_zero_iff h.stability]
    tauto
  · rw [if_neg hq, seen_and_ne_zero_iff h.quality]
    by_cases hs : pci.status = PCI_LINK_STATUS_STABILITY_ISSUES
    · rw [if_pos hs, or_and_self]
      tauto
    · have hmem : pci.status ∈ (addStatus pciLink pci).1.statesSeen.getD [] := by
        rw [addStatus, if_neg hq, if_neg hs]
        exact List.mem_insert_self
      tauto

end

/-- **The states of the PCI link**, in every run: before the first status that is known nothing is
recorded, and from then on each scrape records what it should, with a state that is active unless the
status is an issue without a flag. -/
theorem scrapePciState_spec {run : List (PciState × List StatePoint)} {pci : PciState}
    {points : List StatePoint} {pciLink : PciLink} (h : PciRun ((pci, points) :: run) pciLink) :
    if ∀ answer ∈ pci :: run.map Prod.fst, answer.status = PCI_LINK_STATUS_UNKNOWN then points = []
    else RecordsStates run pci points ∧
      ((∃ point ∈ points, point.value = 1) ↔ ¬NoFlag (run.map Prod.fst) pci) := by
  cases h with
  | @scrape _ pciLink _ _ before hpoints =>
    have hfollows := before.follows
    have hunknown : (∀ answer ∈ pci :: run.map Prod.fst, answer.status = PCI_LINK_STATUS_UNKNOWN) ↔
        pciLink.statesSeen = none ∧ pci.status = PCI_LINK_STATUS_UNKNOWN := by
      rw [List.forall_mem_cons, hfollows.known, and_comm]
    split
    case isTrue hall =>
      rw [scrapePciState_unknown hfollows (hunknown.mp hall)] at hpoints
      exact hpoints.eq_nil
    case isFalse hall =>
      have hknown := mt hunknown.mpr hall
      have hmem (point : StatePoint) : point ∈ points ↔ _ := mem_points hfollows hknown hpoints
      refine ⟨⟨nodup_points hfollows hknown hpoints, fun point hpoint hok hvalue => ?_,
        fun scrape hscrape point hpoint => ?_⟩, ?_⟩
      · obtain ⟨state, hseen, hstate, hactive⟩ := (hmem point).mp hpoint
        have hgood : (LinkState.status PCI_LINK_STATUS_GOOD).recorded = "ok" :=
          LinkState.recorded_of_named (by decide)
        obtain rfl : state = .status PCI_LINK_STATUS_GOOD :=
          LinkState.recorded_inj hseen.isFlag trivial (by rw [← hstate, hok, hgood])
        by_contra hne
        rw [if_neg fun h => hne (of_decide_eq_true h).symm, hvalue] at hactive
        cases hactive
      · obtain ⟨state, hseen, hstate⟩ := before.seen scrape hscrape point hpoint
        exact List.mem_map.mpr ⟨⟨if state.isActive pci then 1 else 0, state.recorded⟩,
          (hmem _).mpr ⟨state, hseen.addStatus pci, rfl, rfl⟩, hstate.symm⟩
      · rw [← exists_isActive_addStatus hfollows]
        constructor
        · rintro ⟨point, hpoint, hvalue⟩
          obtain ⟨state, hseen, hstate, hactive⟩ := (hmem point).mp hpoint
          refine ⟨state, hseen, ?_⟩
          by_contra hnot
          rw [if_neg hnot, hvalue] at hactive
          cases hactive
        · rintro ⟨state, hseen, hactive⟩
          exact ⟨⟨1, state.recorded⟩, (hmem _).mpr ⟨state, hseen, rfl, (if_pos hactive).symm⟩, rfl⟩

/-- After a good state one with replays is active. -/
theorem scrapePciState_spec_replays :
    ∃ point ∈ (scrapePciState (scrapePciState PciLink.init (some ⟨1, 0, 0⟩)).1
      (some ⟨2, 1, 0⟩)).2.entries.map statePoint, point.value = 1 := by
  have h := scrapePciState_spec
    (.scrape ⟨2, 1, 0⟩ _ (.scrape ⟨1, 0, 0⟩ _ .init (List.Perm.refl _)) (List.Perm.refl _))
  rw [if_neg (by decide)] at h
  refine h.2.mpr ?_
  rw [NoFlag]
  decide

/-- Nothing is recorded for an issue with an empty mask. -/
theorem scrapePciState_noFlag : (∃ pciLink, PciRun [(⟨2, 0, 0⟩, [])] pciLink) ∧
    (⟨2, 0, 0⟩ : PciState).status ≠ PCI_LINK_STATUS_UNKNOWN ∧
    ¬∃ point ∈ ([] : List StatePoint), point.value = 1 := by
  have hempty : (scrapePciState PciLink.init (some ⟨2, 0, 0⟩)).2 = ∅ := by
    simp [scrapePciState, addStatus, PciLink.init, issueStates, setStates,
      PCI_LINK_STATUS_UNKNOWN, PCI_LINK_STATUS_QUALITY_ISSUES]
  exact ⟨⟨_, .scrape ⟨2, 0, 0⟩ [] .init (by rw [hempty]; exact .nil)⟩, by decide, by simp⟩

end Sysman

end XpuManager
