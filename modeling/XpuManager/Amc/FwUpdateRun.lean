import XpuManager.Amc.FwUpdateData
import XpuManager.Amc.FwUpdateReply

/-! # The update of a whole package

What a run of `fwUpdInitialize` has done when it returns. A run is seen through its milestones: the
exchanges that ended, the data phases that ended, and the two requests that close an update. -/

namespace XpuManager

open Prog

/-! ## Milestones -/

/-- A step of an update that decides what the device has been told. -/
inductive Milestone where
  /-- The exchange of `cmd` ended with the status `ret`. -/
  | exchanged (cmd ret : UInt8)
  /-- An ActivateFirmware request was written to the device. -/
  | activateWritten
  /-- A CancelUpdate request was handed to the bus. -/
  | cancelAttempted
  /-- The data phase of component `comp` ended with the status `ret`, its last message being `cmd`
  with the completion code `code`. -/
  | transferred (comp cmd code ret : UInt8)
  deriving DecidableEq

/-- The milestone an event is, if it is one. -/
def milestone : Event → Option Milestone
  | .write bs ok =>
    if isRequest pldmFirmwareUpdate cancelUpdate bs then some .cancelAttempted
    else if isRequest pldmFirmwareUpdate activateFirmware bs ∧ ok = true then
      some .activateWritten
    else none
  | .exchange _ cmd ret _ _ => some (.exchanged cmd ret)
  | .transfer comp f ret => some (.transferred comp f.cmdCode (f.respPayload 0) ret)
  | .read _ => none
  | .message _ => none
  | .fread _ _ _ => none

/-- The milestones of the trace. -/
def milestones (s : Pldm) : List Milestone := s.trace.filterMap milestone

/-- The milestones behind a common trace. -/
theorem milestones_of_trace {s t : Pldm} {evs : List Event} (h : t.trace = s.trace ++ evs) :
    milestones t = milestones s ++ evs.filterMap milestone := by
  rw [milestones, h, List.filterMap_append]
  rfl

/-- Reads are no milestones. -/
theorem filterMap_milestone_reads {evs : List Event} (h : ∀ e ∈ evs, e.isReceived = true) :
    evs.filterMap milestone = [] := by
  refine List.filterMap_eq_nil_iff.mpr fun e he => ?_
  have hread := h e he
  cases e with
  | read | message => rfl
  | write | fread | exchange | transfer => simp [Event.isReceived] at hread

/-- The answers of the data phase are no milestones. -/
theorem filterMap_milestone_answers {evs : List Event} (h : ∀ e ∈ evs, e.IsAnswer) :
    evs.filterMap milestone = [] := by
  refine List.filterMap_eq_nil_iff.mpr fun e he => ?_
  rcases h e he with hread | hreply
  · cases e with
    | read | message => rfl
    | write | fread | exchange | transfer => simp [Event.isReceived] at hread
  · cases e with
    | fread => rfl
    | write bs ok =>
      have hresp : wireRequest bs = pldmResponse := hreply
      rw [milestone, isRequest_of_wireRequest hresp, isRequest_of_wireRequest hresp]
      rfl
    | read | message | exchange | transfer => exact hreply.elim

/-! ## Commands -/

/-- The milestones of handing a request of `cmd` to the bus, its write ending with `ok`. -/
def sentBy (cmd : UInt8) (ok : Bool) : List Milestone :=
  if cmd = cancelUpdate then [.cancelAttempted]
  else if cmd = activateFirmware ∧ ok = true then [.activateWritten] else []

/-- The commands an update runs, with sizes that let the closing requests be built. -/
structure UpdateCmd (cmd size : UInt8) : Prop where
  plain : cmd = cancelUpdate ∨ cmd = activateFirmware → PlainRequest cmd size

/-- The milestones of a request on the wire. -/
theorem filterMap_milestone_request {cmd size id : UInt8} {bs : Bytes} {ok : Bool}
    (hcmd : UpdateCmd cmd size) (h : FwRequest cmd size id bs) :
    [Event.write bs ok].filterMap milestone = sentBy cmd ok := by
  obtain ⟨f, len, rfl, hdr, hlen⟩ := h
  have hno (c : UInt8) (hc : c ≠ 0) (hne : cmd ≠ c) :
      isRequest pldmFirmwareUpdate c (f.slice 1 len) = false := by
    refine Bool.eq_false_iff.mpr fun hr => hne (hdr.eq_of_isRequest hc hr).symm
  have hyes (hp : PlainRequest cmd size) :
      isRequest pldmFirmwareUpdate cmd (f.slice 1 len) = true := by
    refine hdr.isRequest (by decide) ?_
    rw [hlen hp]
    exact Nat.lt_of_lt_of_le (by decide) hp.headers
  by_cases hcan : cmd = cancelUpdate
  · have hreq := hyes (hcmd.plain (.inl hcan))
    subst hcan
    simp [milestone, sentBy, hreq]
  · have hcan' := hno cancelUpdate (by decide) hcan
    by_cases hact : cmd = activateFirmware
    · have hreq := hyes (hcmd.plain (.inr hact))
      subst hact
      cases ok <;> simp [milestone, sentBy, hcan', hreq] <;> exact hcan
    · have hact' := hno activateFirmware (by decide) hact
      simp [milestone, sentBy, hcan', hact', hcan, hact]

/-- **The milestones of a command.** -/
theorem fwUpdCmd_milestones {fuel : Nat} {cmd size r : UInt8} {s t : Pldm}
    (hcmd : UpdateCmd cmd size) (hid : s.instanceID ≤ pldmInstanceIdMax)
    (h : fwUpdCmd fuel cmd size s = (.ret r, t)) :
    milestones t = milestones s ++ (sentBy cmd s.writes.head ++ [.exchanged cmd r]) := by
  have hrun := fwUpdCmd_run fuel cmd size hid
  rw [wp_of_eq h] at hrun
  obtain ⟨bus, hbus, htrace⟩ := hrun.trace
  rw [List.append_assoc] at htrace
  rw [milestones_of_trace htrace, List.filterMap_append]
  have hclose : (closing pldmFirmwareUpdate cmd (.ret r) s.instanceID).filterMap milestone =
      [.exchanged cmd r] := rfl
  rw [hclose]
  congr 2
  cases hbus with
  | unbuilt _ hnot =>
    -- only the requests that can always be built leave a milestone
    have hcan : cmd ≠ cancelUpdate := fun hc => hnot (hcmd.plain (.inl hc))
    have hact : cmd ≠ activateFirmware := fun hc => hnot (hcmd.plain (.inr hc))
    simp [sentBy, hcan, hact]
  | sent hbs _ hreads =>
    rw [← filterMap_milestone_request hcmd hbs, List.filterMap_cons,
      filterMap_milestone_reads hreads]
    rfl

/-- A command leaves the instance ID within its limit. -/
theorem fwUpdCmd_instanceID {fuel : Nat} {cmd size : UInt8} {o : Outcome UInt8} {s t : Pldm}
    (hid : s.instanceID ≤ pldmInstanceIdMax) (h : fwUpdCmd fuel cmd size s = (o, t)) :
    t.instanceID ≤ pldmInstanceIdMax := by
  have hrun := fwUpdCmd_run fuel cmd size hid
  rw [wp_of_eq h] at hrun
  rw [hrun.instanceID]
  exact endId_le o hid

/-! ## The inventory of a component -/

/-- The milestones of inventory commands that all succeeded. -/
def inventoryDone (cmds : List (UInt8 × UInt8)) : List Milestone :=
  cmds.map fun entry => .exchanged entry.1 pldmSuccess

/-- No inventory command closes an update. -/
theorem not_closing_of_mem {entry : UInt8 × UInt8} (h : entry ∈ cmdTable) :
    entry.1 ≠ cancelUpdate ∧ entry.1 ≠ activateFirmware := by
  have hall : cmdTable.all (fun e => e.1 ≠ cancelUpdate ∧ e.1 ≠ activateFirmware) = true := by
    decide
  exact of_decide_eq_true (List.all_eq_true.mp hall entry h)

theorem updateCmd_of_mem {entry : UInt8 × UInt8} (h : entry ∈ cmdTable) :
    UpdateCmd entry.1 entry.2 := ⟨fun hc => absurd hc (not_or.mpr (not_closing_of_mem h))⟩

theorem plainRequest_cancelUpdate : PlainRequest cancelUpdate fwuCommandBaseSize :=
  ⟨.inr (.inr (.inr (.inl rfl))), by decide, by decide⟩

theorem plainRequest_getStatus : PlainRequest getStatus fwuCommandBaseSize :=
  ⟨.inr (.inr (.inr (.inr (.inl rfl)))), by decide, by decide⟩

theorem plainRequest_activateFirmware : PlainRequest activateFirmware activateFirmwareSize :=
  ⟨.inr (.inr (.inr (.inr (.inr rfl)))), by decide, by decide⟩

theorem plainRequest_queryDeviceIdentifiers : PlainRequest queryDeviceIdentifiers 12 :=
  ⟨.inl rfl, by decide, by decide⟩

theorem plainRequest_getFirmwareParameters : PlainRequest getFirmwareParameters 12 :=
  ⟨.inr (.inl rfl), by decide, by decide⟩

/-- The command is none of those that close an update, so its request is no milestone. -/
theorem sentBy_eq_nil {cmd : UInt8} (h : cmd ≠ cancelUpdate ∧ cmd ≠ activateFirmware) (ok : Bool) :
    sentBy cmd ok = [] := by
  simp [sentBy, h.1, h.2]

theorem sentBy_of_mem {entry : UInt8 × UInt8} (h : entry ∈ cmdTable) (ok : Bool) :
    sentBy entry.1 ok = [] := sentBy_eq_nil (not_closing_of_mem h) ok

/-- One inventory command goes on exactly when its exchange succeeded. -/
theorem runInventoryCmd_next_iff {fuel : Nat} {entry : UInt8 × UInt8} {r r' : UInt8} {s t : Pldm} :
    runInventoryCmd fuel entry r s = (.ret (.inr r'), t) ↔
      r' = pldmSuccess ∧ fwUpdCmd fuel entry.1 entry.2 s = (.ret pldmSuccess, t) := by
  rw [runInventoryCmd, bind_eq_ret_iff]
  constructor
  · rintro ⟨q, u, hcmd, h⟩
    by_cases hq : q = pldmSuccess
    · obtain ⟨rfl, rfl⟩ : q = r' ∧ u = t := by simpa [hq, eq_comm] using h
      exact ⟨hq, hq ▸ hcmd⟩
    · rw [if_neg hq, Prog.ite_apply] at h
      split at h
      · obtain ⟨_, _, -, h⟩ := bind_eq_ret_iff.mp h
        simp at h
      · simp at h
  · rintro ⟨rfl, hcmd⟩
    exact ⟨pldmSuccess, t, hcmd, rfl⟩

/-- The inventory commands after which a failure cancels the update. -/
abbrev Cancels (cmd : UInt8) : Prop :=
  cmd = requestUpdate ∨ cmd = passComponentTable ∨ cmd = updateComponent

/-- An inventory command leaves the loop exactly when its exchange failed; some of them cancel. -/
theorem runInventoryCmd_leave_iff {fuel : Nat} {entry : UInt8 × UInt8} {r q : UInt8}
    {s t : Pldm} :
    runInventoryCmd fuel entry r s = (.ret (.inl q), t) ↔
      q ≠ pldmSuccess ∧ ∃ u, fwUpdCmd fuel entry.1 entry.2 s = (.ret q, u) ∧
        if Cancels entry.1 then ∃ c, fwUpdCmd fuel cancelUpdate fwuCommandBaseSize u = (.ret c, t)
        else u = t := by
  rw [runInventoryCmd, bind_eq_ret_iff]
  constructor
  · rintro ⟨q', u, hcmd, h⟩
    by_cases hq : q' = pldmSuccess
    · simp [hq] at h
    · rw [if_neg hq, Prog.ite_apply] at h
      by_cases hc : Cancels entry.1
      · rw [if_pos hc] at h
        obtain ⟨c, v, hcan, h⟩ := bind_eq_ret_iff.mp h
        obtain ⟨rfl, rfl⟩ : q' = q ∧ v = t := by simpa using h
        exact ⟨hq, u, hcmd, by rw [if_pos hc]; exact ⟨c, hcan⟩⟩
      · rw [if_neg hc] at h
        obtain ⟨rfl, rfl⟩ : q' = q ∧ u = t := by simpa using h
        exact ⟨hq, u, hcmd, by rw [if_neg hc]⟩
  · rintro ⟨hq, u, hcmd, h⟩
    refine ⟨q, u, hcmd, ?_⟩
    rw [if_neg hq, Prog.ite_apply]
    by_cases hc : Cancels entry.1
    · rw [if_pos hc] at h ⊢
      obtain ⟨c, hcan⟩ := h
      rw [bind_of_ret hcan]
      rfl
    · rw [if_neg hc] at h ⊢
      rw [h]
      rfl

/-- **Inventory run.** Inventory commands that went through leave their milestones and nothing
else. -/
theorem runInventory_done {fuel : Nat} {cmds : List (UInt8 × UInt8)} {r r' : UInt8} {s t : Pldm}
    (hcmds : ∀ entry ∈ cmds, entry ∈ cmdTable) (hid : s.instanceID ≤ pldmInstanceIdMax)
    (h : Prog.forEach (runInventoryCmd fuel) cmds r s = (.ret (.inr r'), t)) :
    milestones t = milestones s ++ inventoryDone cmds ∧ t.instanceID ≤ pldmInstanceIdMax ∧
      SamePackage s t ∧ (cmds ≠ [] → r' = pldmSuccess) := by
  induction cmds generalizing r s with
  | nil =>
    obtain ⟨-, rfl⟩ : r = r' ∧ s = t := by simpa using h
    exact ⟨(List.append_nil _).symm, hid, Std.Refl.refl s, fun hne => absurd rfl hne⟩
  | cons entry cmds ih =>
    have hmem := hcmds entry List.mem_cons_self
    obtain ⟨a, u, hone, hrest⟩ := bind_eq_ret_iff.mp h
    rcases a with a | a
    · simp at hrest
    obtain ⟨rfl, hcmd⟩ := runInventoryCmd_next_iff.mp hone
    have hm := fwUpdCmd_milestones (updateCmd_of_mem hmem) hid hcmd
    rw [sentBy_of_mem hmem] at hm
    have hsame : SamePackage s u := by
      have := samePackage_fwUpdCmd fuel entry.1 entry.2 s
      rwa [hcmd] at this
    obtain ⟨hm', hid', hsame', hr⟩ := ih (fun e he => hcmds e (List.mem_cons_of_mem _ he))
      (fwUpdCmd_instanceID hid hcmd) hrest
    refine ⟨?_, hid', IsTrans.trans _ _ _ hsame hsame', fun _ => ?_⟩
    · rw [hm', hm, List.append_assoc]
      rfl
    · rcases cmds with _ | ⟨e, cmds⟩
      · obtain ⟨h, -⟩ : pldmSuccess = r' ∧ u = t := by simpa using hrest
        exact h.symm
      · exact hr (by simp)

/-! ## The component loop -/

/-- The milestones of a component that was installed. -/
def completedComponent (n : Nat) : List Milestone :=
  inventoryDone cmdTable ++ [.transferred (UInt8.ofNat n) applyComplete pldmSuccess pldmSuccess]

/-- The object with component `n` selected. -/
def Pldm.atComp (s : Pldm) (n : Nat) : Pldm := { s with fw := { s.fw with mCurComp := UInt8.ofNat n } }

/-- The data phase, as its milestone. -/
theorem readFromFD_milestones {fuel : Nat} {r : UInt8} {s t : Pldm}
    (h : readFromFD fuel s = (.ret r, t)) :
    t.instanceID = s.instanceID ∧ ∃ cmd code,
      milestones t = milestones s ++ [.transferred s.fw.mCurComp cmd code r] ∧
      (r = pldmSuccess → cmd = applyComplete ∧ code = pldmSuccess) := by
  have hrun := readFromFD_run fuel s
  rw [wp_of_eq h] at hrun
  obtain ⟨u, hu, ht⟩ := hrun
  obtain ⟨rfl, hok⟩ := ht r rfl
  obtain ⟨evs, htrace, hevs⟩ := hu.events
  refine ⟨hu.instanceID, u.mI2cPldmRead.cmdCode, u.mI2cPldmRead.respPayload 0, ?_, hok⟩
  have hm : milestones u = milestones s := by
    rw [milestones_of_trace htrace, filterMap_milestone_answers hevs, List.append_nil]
  have htransfer : Pldm.trace { u with trace :=
      u.trace ++ [.transfer s.fw.mCurComp u.mI2cPldmRead r] } =
      u.trace ++ [.transfer s.fw.mCurComp u.mI2cPldmRead r] := rfl
  rw [← hm]
  exact milestones_of_trace htransfer

/-- A component that was installed left its milestones. -/
theorem runComponent_done {fuel n : Nat} {r r' : UInt8} {s t : Pldm}
    (hid : s.instanceID ≤ pldmInstanceIdMax)
    (h : runComponent fuel n r s = (.ret (.inr r'), t)) :
    milestones t = milestones s ++ completedComponent n ∧ t.instanceID ≤ pldmInstanceIdMax ∧
      r' = pldmSuccess := by
  rw [runComponent, modify_bind_apply] at h
  change ((Prog.forEach (runInventoryCmd fuel) cmdTable r) >>= _) (s.atComp n) = _ at h
  obtain ⟨a, u, hinv, h⟩ := bind_eq_ret_iff.mp h
  rcases a with a | a
  · simp at h
  obtain ⟨hm, hid', hsame, hr⟩ := runInventory_done (s := s.atComp n) (fun _ he => he) hid hinv
  obtain ⟨fd, v, hfd, h⟩ := bind_eq_ret_iff.mp h
  rw [Prog.ite_apply] at h
  split at h
  case isFalse =>
    obtain ⟨_, _, -, h⟩ := bind_eq_ret_iff.mp h
    simp at h
  case isTrue hok =>
    obtain ⟨rfl, rfl⟩ : a = r' ∧ v = t := by simpa using h
    obtain ⟨hidv, cmd, code, hmv, hcode⟩ := readFromFD_milestones hfd
    obtain ⟨rfl, rfl⟩ := hcode hok
    refine ⟨?_, by rwa [hidv], hr (by simp [cmdTable])⟩
    have hcomp : u.fw.mCurComp = UInt8.ofNat n := hsame.mCurComp
    rw [hmv, hm, hcomp, hok, completedComponent, List.append_assoc]
    rfl

/-- **The component loop.** Once it has run through `count` components, every one of them has been
installed, and `ret` still holds the success of the last inventory command. -/
theorem runComponents_done {fuel count : Nat} {r : UInt8} {s t : Pldm}
    (hid : s.instanceID ≤ pldmInstanceIdMax)
    (h : runComponents fuel count s = (.ret (.inr r), t)) :
    milestones t = milestones s ++ (List.range count).flatMap completedComponent ∧
      t.instanceID ≤ pldmInstanceIdMax ∧ r = if count = 0 then pldmError else pldmSuccess := by
  let I (done : List Nat) (r : UInt8) (u : Pldm) : Prop :=
    milestones u = milestones s ++ done.flatMap completedComponent ∧
      u.instanceID ≤ pldmInstanceIdMax ∧ r = if done.length = 0 then pldmError else pldmSuccess
  have hstart : I [] pldmError s := ⟨(List.append_nil _).symm, hid, rfl⟩
  have hnext (pre : List Nat) (n : Nat) (post : List Nat) (b : UInt8) (u : Pldm) (b' : UInt8)
      (u' : Pldm) (_ : List.range count = pre ++ n :: post) (hI : I ([] ++ pre) b u)
      (hn : runComponent fuel n b u = (.ret (.inr b'), u')) : I ([] ++ pre ++ [n]) b' u' := by
    obtain ⟨hm, hidu, -⟩ := hI
    obtain ⟨hm', hid', rfl⟩ := runComponent_done hidu hn
    refine ⟨?_, hid', by simp⟩
    rw [hm', hm, List.append_assoc, ← List.flatMap_singleton completedComponent n,
      ← List.flatMap_append]
  have hloop : wp (Prog.forEach (runComponent fuel) (List.range count) pldmError)
      (fun o u => ∀ r, o = .ret (.inr r) → I (List.range count) r u) s := by
    refine forEach_induct ?_ hnext ?_ hstart
    · intro b u hI r hr
      obtain rfl : b = r := by simpa using hr
      exact hI
    · intro pre n post b u _ _ hstop r hr
      have hn : runComponent fuel n b u = (.ret (.inr r), (runComponent fuel n b u).2) :=
        Prod.ext hr rfl
      exact absurd hn (hstop r _)
  rw [runComponents] at h
  rw [wp_of_eq h] at hloop
  obtain ⟨hm, hid', hr⟩ := hloop r rfl
  rw [List.length_range] at hr
  exact ⟨hm, hid', hr⟩

end XpuManager
