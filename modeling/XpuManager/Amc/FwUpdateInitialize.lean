import XpuManager.Amc.FwUpdateRun

/-! # What an update guarantees when it returns

The two guarantees of `fwUpdInitialize`, each with the exact condition under which the code gives
it: success means that every component was installed and activated, and a device that was put into
update mode is either activated or told to cancel. Both fail on the exits that return the `ret` of
an earlier command or do not send CancelUpdate. -/

namespace XpuManager

open Prog

/-! ## Outcomes of plain commands -/

/-- A reply is a success or an error, nothing else. -/
theorem fwReply_ret {cmd id r : UInt8} {n : Nat} {multi : Bool} {buf : Frame}
    {reads : Stream' (Option Bytes)} (h : fwReply cmd id n multi buf reads = .ret r) :
    r = pldmSuccess ∨ r = pldmError := by
  induction n generalizing multi buf reads with
  | zero => cases h
  | succ n ih =>
    rw [fwReply] at h
    split at h
    · exact .inr (Outcome.ret.inj h).symm
    · simp only at h
      split at h
      · exact .inr (Outcome.ret.inj h).symm
      · exact .inl (Outcome.ret.inj h).symm
      · exact ih h
      · cases h
      · cases h

/-- The answers make a command succeed, fail with `PLDM_ERROR`, or get stuck. -/
theorem fwOutcome_ret {fuel : Nat} {cmd r : UInt8} {s : Pldm}
    (h : fwOutcome fuel cmd s = .ret r) : r = pldmSuccess ∨ r = pldmError := by
  rw [fwOutcome] at h
  split at h
  · split at h
    · exact .inl (Outcome.ret.inj h).symm
    · exact fwReply_ret h
  · exact .inr (Outcome.ret.inj h).symm

/-- A plain command that returned, seen from outside. -/
theorem fwUpdCmd_plain_ret {fuel : Nat} {cmd size r : UInt8} {s t : Pldm}
    (hp : PlainRequest cmd size) (hid : s.instanceID ≤ pldmInstanceIdMax)
    (h : fwUpdCmd fuel cmd size s = (.ret r, t)) :
    fwOutcome fuel cmd s = .ret r ∧ t.writes = s.writes.tail ∧ t.instanceID ≤ pldmInstanceIdMax ∧
      milestones t = milestones s ++ (sentBy cmd s.writes.head ++ [.exchanged cmd r]) := by
  obtain ⟨hout, hw⟩ := fwUpdCmd_plain fuel hp hid
  rw [h] at hout hw
  exact ⟨hout.symm, hw, fwUpdCmd_instanceID hid h, fwUpdCmd_milestones ⟨fun _ => hp⟩ hid h⟩

/-- A failed plain command reports `PLDM_ERROR`, and its answers make it fail. -/
theorem not_answered_of_fails {fuel : Nat} {cmd size r : UInt8} {s t : Pldm}
    (hp : PlainRequest cmd size) (hid : s.instanceID ≤ pldmInstanceIdMax)
    (h : fwUpdCmd fuel cmd size s = (.ret r, t)) (hr : r ≠ pldmSuccess) : ¬Answered fuel cmd s := by
  obtain ⟨hout, -⟩ := fwUpdCmd_plain_ret hp hid h
  rcases fwOutcome_ret hout with rfl | rfl
  · exact absurd rfl hr
  · exact not_not_intro hout

/-- A plain command that is not answered fails. -/
theorem fails_of_not_answered {fuel : Nat} {cmd size : UInt8} {s : Pldm}
    (hp : PlainRequest cmd size) (hid : s.instanceID ≤ pldmInstanceIdMax)
    (h : ¬Answered fuel cmd s) : ∃ t, fwUpdCmd fuel cmd size s = (.ret pldmError, t) := by
  obtain ⟨hout, -⟩ := fwUpdCmd_plain fuel hp hid
  exact ⟨_, Prod.ext (hout.trans (not_not.mp h)) rfl⟩

/-! ## The closing commands -/

/-- The milestones of the closing commands when both succeeded. -/
def activationDone : List Milestone :=
  [.exchanged getStatus pldmSuccess, .activateWritten, .exchanged activateFirmware pldmSuccess]

/-- The milestones of the closing commands when one of them failed. -/
def ActivationFailed (ms : List Milestone) : Prop :=
  ms = [.exchanged getStatus pldmError] ∨
    ms = [.exchanged getStatus pldmSuccess, .exchanged activateFirmware pldmError]

/-- The answers in `u` let both closing commands go through. -/
structure ActivationAnswered (fuel : Nat) (u : Pldm) : Prop where
  status : Answered fuel getStatus u
  activate : fwOutcome fuel getStatus u = .ret pldmSuccess → u.writes.tail.head = true

/-- **The closing commands.** Answered, they succeed or get stuck; otherwise the run returns the
`ret` it came with. -/
theorem runActivation_cases {fuel : Nat} (ret : UInt8) {u : Pldm}
    (hid : u.instanceID ≤ pldmInstanceIdMax) :
    (∃ t, runActivation fuel ret u = (.ret pldmSuccess, t) ∧ ActivationAnswered fuel u ∧
        milestones t = milestones u ++ activationDone) ∨
      (∃ t ms, runActivation fuel ret u = (.ret ret, t) ∧ ¬ActivationAnswered fuel u ∧
        milestones t = milestones u ++ ms ∧ ActivationFailed ms) ∨
      (ActivationAnswered fuel u ∧ ∀ r, (runActivation fuel ret u).1 ≠ .ret r) := by
  obtain ⟨hout, -⟩ := fwUpdCmd_plain fuel plainRequest_getStatus hid
  rcases hst : fwUpdCmd fuel getStatus fwuCommandBaseSize u with ⟨r | _ | _, v⟩
  · obtain ⟨hout, hw, hidv, hm⟩ := fwUpdCmd_plain_ret plainRequest_getStatus hid hst
    rw [sentBy_eq_nil (by decide), List.nil_append] at hm
    rcases fwOutcome_ret hout with rfl | rfl
    · -- GetStatus went through, so ActivateFirmware decides
      have hgo : runActivation fuel ret u =
          (fwUpdCmd fuel activateFirmware activateFirmwareSize >>= fun activate =>
            if activate ≠ pldmSuccess then pure ret else pure pldmSuccess) v := by
        rw [runActivation, bind_of_ret hst]
        rfl
      obtain ⟨hact, -⟩ := fwUpdCmd_plain fuel plainRequest_activateFirmware hidv
      rw [fwOutcome, if_pos rfl, hw] at hact
      by_cases hwrite : u.writes.tail.head = true
      · rw [if_pos hwrite] at hact
        have hact' : fwUpdCmd fuel activateFirmware activateFirmwareSize v =
            (.ret pldmSuccess, _) := Prod.ext hact rfl
        obtain ⟨-, -, -, hm'⟩ := fwUpdCmd_plain_ret plainRequest_activateFirmware hidv hact'
        refine .inl ⟨_, hgo.trans (bind_of_ret hact'), ⟨?_, fun _ => hwrite⟩, ?_⟩
        · rw [Answered, hout]
          decide
        · rw [hm', hm, hw, hwrite, List.append_assoc]
          rfl
      · rw [if_neg hwrite] at hact
        have hact' : fwUpdCmd fuel activateFirmware activateFirmwareSize v =
            (.ret pldmError, _) := Prod.ext hact rfl
        obtain ⟨-, -, -, hm'⟩ := fwUpdCmd_plain_ret plainRequest_activateFirmware hidv hact'
        refine .inr (.inl ⟨_, _, hgo.trans (bind_of_ret hact'), ?_, ?_, .inr rfl⟩)
        · exact fun h => hwrite (h.activate hout)
        · rw [hm', hm, hw, Bool.eq_false_iff.mpr hwrite, List.append_assoc]
          rfl
    · refine .inr (.inl ⟨v, _, ?_, fun h => h.status hout, hm, .inl rfl⟩)
      rw [runActivation, bind_of_ret hst]
      rfl
  all_goals
    rw [hst] at hout
    refine .inr (.inr ⟨⟨?_, ?_⟩, fun r hr => ?_⟩)
    · rw [Answered, ← hout]
      simp
    · rw [← hout]
      simp
  · rw [runActivation, bind_of_fault hst] at hr
    cases hr
  · rw [runActivation, bind_of_cut hst] at hr
    cases hr

/-! ## Leaving the component loop -/

/-- The answers in `u` let the two queries of a component go through. -/
structure QueriesAnswered (fuel : Nat) (u : Pldm) : Prop where
  identifiers : Answered fuel queryDeviceIdentifiers u
  parameters : ∀ v, fwUpdCmd fuel queryDeviceIdentifiers 12 u = (.ret pldmSuccess, v) →
    Answered fuel getFirmwareParameters v

/-- The milestone of a query. -/
def Milestone.IsQuery (m : Milestone) : Prop :=
  ∃ cmd ret, m = .exchanged cmd ret ∧ (cmd = queryDeviceIdentifiers ∨ cmd = getFirmwareParameters)

/-- A component whose queries are not answered is left right after them. -/
theorem runComponent_unanswered {fuel n : Nat} (r : UInt8) {s : Pldm}
    (hid : s.instanceID ≤ pldmInstanceIdMax) (h : ¬QueriesAnswered fuel (s.atComp n)) :
    ∃ q t ms, runComponent fuel n r s = (.ret (.inl q), t) ∧ milestones t = milestones s ++ ms ∧
      ∀ m ∈ ms, m.IsQuery := by
  have hleave {q : UInt8} {t : Pldm}
      (hinv : Prog.forEach (runInventoryCmd fuel) cmdTable r (s.atComp n) = (.ret (.inl q), t)) :
      runComponent fuel n r s = (.ret (.inl q), t) := by
    rw [runComponent, modify_bind_apply]
    exact bind_of_ret hinv
  by_cases hqdi : Answered fuel queryDeviceIdentifiers (s.atComp n)
  · -- the second query is the one that fails
    have hgfp : ∃ v, fwUpdCmd fuel queryDeviceIdentifiers 12 (s.atComp n) = (.ret pldmSuccess, v) ∧
        ¬Answered fuel getFirmwareParameters v := by
      by_contra hno
      refine h ⟨hqdi, fun v hv => ?_⟩
      by_contra hans
      exact hno ⟨v, hv, hans⟩
    obtain ⟨v, hv, hans⟩ := hgfp
    obtain ⟨-, -, hidv, hmv⟩ :=
      fwUpdCmd_plain_ret (s := s.atComp n) plainRequest_queryDeviceIdentifiers hid hv
    obtain ⟨t, ht⟩ := fails_of_not_answered plainRequest_getFirmwareParameters hidv hans
    obtain ⟨-, -, -, hmt⟩ := fwUpdCmd_plain_ret plainRequest_getFirmwareParameters hidv ht
    have hone : runInventoryCmd fuel (queryDeviceIdentifiers, 12) r (s.atComp n) =
        (.ret (.inr pldmSuccess), v) := runInventoryCmd_next_iff.mpr ⟨rfl, hv⟩
    have htwo : runInventoryCmd fuel (getFirmwareParameters, 12) pldmSuccess v =
        (.ret (.inl pldmError), t) :=
      runInventoryCmd_leave_iff.mpr ⟨by decide, t, ht, by rw [if_neg (by decide)]⟩
    have hloop : Prog.forEach (runInventoryCmd fuel) cmdTable r (s.atComp n) =
        (.ret (.inl pldmError), t) :=
      (forEach_cons_of_next hone).trans (forEach_cons_of_leave htwo)
    rw [sentBy_eq_nil (by decide)] at hmv hmt
    refine ⟨pldmError, t, _, hleave hloop, by rw [hmt, hmv, List.append_assoc]; rfl, ?_⟩
    intro m hm
    rcases List.mem_cons.mp hm with rfl | hm
    · exact ⟨_, _, rfl, .inl rfl⟩
    · obtain rfl := List.mem_singleton.mp hm
      exact ⟨_, _, rfl, .inr rfl⟩
  · obtain ⟨t, ht⟩ := fails_of_not_answered (s := s.atComp n) plainRequest_queryDeviceIdentifiers
      hid hqdi
    obtain ⟨-, -, -, hmt⟩ :=
      fwUpdCmd_plain_ret (s := s.atComp n) plainRequest_queryDeviceIdentifiers hid ht
    have hone : runInventoryCmd fuel (queryDeviceIdentifiers, 12) r (s.atComp n) =
        (.ret (.inl pldmError), t) :=
      runInventoryCmd_leave_iff.mpr ⟨by decide, t, ht, by rw [if_neg (by decide)]⟩
    rw [sentBy_eq_nil (by decide)] at hmt
    refine ⟨pldmError, t, _, hleave (forEach_cons_of_leave hone), hmt, ?_⟩
    intro m hm
    obtain rfl := List.mem_singleton.mp hm
    exact ⟨_, _, rfl, .inl rfl⟩

/-- The two queries stand first in the table, and only they do not cancel. -/
theorem cmdTable_split {pre post : List (UInt8 × UInt8)} {entry : UInt8 × UInt8}
    (h : cmdTable = pre ++ entry :: post) (hc : ¬Cancels entry.1) :
    (pre = [] ∧ entry = (queryDeviceIdentifiers, 12)) ∨
      (pre = [(queryDeviceIdentifiers, 12)] ∧ entry = (getFirmwareParameters, 12)) := by
  rcases pre with _ | ⟨a, _ | ⟨b, pre⟩⟩
  · obtain ⟨rfl, -⟩ := List.cons.inj h
    exact .inl ⟨rfl, rfl⟩
  · obtain ⟨rfl, h₁⟩ := List.cons.inj h
    obtain ⟨rfl, -⟩ := List.cons.inj h₁
    exact .inr ⟨rfl, rfl⟩
  · obtain ⟨-, h₁⟩ := List.cons.inj h
    obtain ⟨-, h₂⟩ := List.cons.inj h₁
    have hmem : entry ∈ cmdTable.drop 2 := by
      rw [show cmdTable.drop 2 = pre ++ entry :: post from h₂]
      simp
    have hall : (cmdTable.drop 2).all (fun e => Cancels e.1) = true := by decide
    exact absurd (of_decide_eq_true (List.all_eq_true.mp hall entry hmem)) hc

/-- A CancelUpdate that was sent is a milestone. -/
theorem cancelAttempted_mem {fuel : Nat} {c : UInt8} {s t : Pldm}
    (hid : s.instanceID ≤ pldmInstanceIdMax)
    (h : fwUpdCmd fuel cancelUpdate fwuCommandBaseSize s = (.ret c, t)) :
    .cancelAttempted ∈ milestones t := by
  obtain ⟨-, -, -, hm⟩ := fwUpdCmd_plain_ret plainRequest_cancelUpdate hid h
  rw [hm]
  simp [sentBy]

/-- **Leaving a component.** A component is left with an error, and a CancelUpdate was attempted
unless the component's queries were not answered. -/
theorem runComponent_leave {fuel n : Nat} {r q : UInt8} {s t : Pldm}
    (hid : s.instanceID ≤ pldmInstanceIdMax)
    (h : runComponent fuel n r s = (.ret (.inl q), t)) :
    q ≠ pldmSuccess ∧ (QueriesAnswered fuel (s.atComp n) → .cancelAttempted ∈ milestones t) := by
  rw [runComponent, modify_bind_apply] at h
  change ((Prog.forEach (runInventoryCmd fuel) cmdTable r) >>= _) (s.atComp n) = _ at h
  obtain ⟨a, u, hinv, h⟩ := bind_eq_ret_iff.mp h
  rcases a with a | a
  · obtain ⟨rfl, rfl⟩ : a = q ∧ u = t := by simpa using h
    obtain ⟨pre, entry, post, b, v, hsplit, hpre, hentry⟩ := forEach_eq_leave_iff.mp hinv
    obtain ⟨hq, w, hcmd, hcan⟩ := runInventoryCmd_leave_iff.mp hentry
    refine ⟨hq, fun hans => ?_⟩
    have hmem (e : UInt8 × UInt8) (he : e ∈ pre) : e ∈ cmdTable := by
      rw [hsplit]
      exact List.mem_append_left _ he
    obtain ⟨-, hidv, -, -⟩ := runInventory_done (s := s.atComp n) hmem hid hpre
    by_cases hc : Cancels entry.1
    · rw [if_pos hc] at hcan
      obtain ⟨c, hcan⟩ := hcan
      exact cancelAttempted_mem (fwUpdCmd_instanceID hidv hcmd) hcan
    · -- an answered query does not fail
      exfalso
      rcases cmdTable_split hsplit hc with ⟨rfl, rfl⟩ | ⟨rfl, rfl⟩
      · obtain ⟨-, rfl⟩ : r = b ∧ s.atComp n = v := by simpa using hpre
        exact not_answered_of_fails plainRequest_queryDeviceIdentifiers hidv hcmd hq
          hans.identifiers
      · obtain ⟨a', v', hone, hrest⟩ := bind_eq_ret_iff.mp hpre
        rcases a' with a' | a'
        · simp at hrest
        obtain ⟨-, rfl⟩ : a' = b ∧ v' = v := by simpa using hrest
        obtain ⟨-, hqdi⟩ := runInventoryCmd_next_iff.mp hone
        exact not_answered_of_fails plainRequest_getFirmwareParameters hidv hcmd hq
          (hans.parameters v' hqdi)
  · obtain ⟨fd, v, hfd, h⟩ := bind_eq_ret_iff.mp h
    rw [Prog.ite_apply] at h
    split at h
    case isTrue => simp at h
    case isFalse =>
      obtain ⟨c, w, hcan, h⟩ := bind_eq_ret_iff.mp h
      obtain ⟨rfl, rfl⟩ : pldmError = q ∧ w = t := by simpa using h
      obtain ⟨-, hidu, -, -⟩ := runInventory_done (s := s.atComp n) (fun _ he => he) hid hinv
      obtain ⟨hidv, -⟩ := readFromFD_milestones hfd
      exact ⟨by decide, fun _ => cancelAttempted_mem (by rwa [hidv]) hcan⟩

/-! ## The whole run -/

/-- A `pldm` object whose trace starts empty. -/
structure Idle (s : Pldm) : Prop where
  trace : s.trace = []
  instanceID : s.instanceID ≤ pldmInstanceIdMax

theorem Idle.milestones {s : Pldm} (h : Idle s) : milestones s = [] := by
  rw [XpuManager.milestones, h.trace]
  rfl

/-- A new object is idle. -/
theorem idle_init (reads : Stream' (Option Bytes)) (writes : Stream' Bool) :
    Idle (Pldm.init reads writes) := ⟨rfl, show (1 : UInt8) ≤ pldmInstanceIdMax by decide⟩

/-- The object once the package file has been opened and parsed. -/
def Pldm.opened (s : Pldm) (file : Bytes) (pkg : FwPkg) : Pldm :=
  { s with fw := { s.fw with mReqUpdate := default, mPassCompTable := default, mUpdComp := default,
                             compFile := file, pkg := some pkg } }

/-- What `fwUpdInitialize` does after the component loop. -/
def afterComponents (fuel : Nat) : UInt8 ⊕ UInt8 → Prog Pldm UInt8
  | .inl ret => pure ret
  | .inr ret => runActivation fuel ret

/-- An accepted package is opened; the rest is the component loop and the closing commands. -/
theorem fwUpdInitialize_accepted (fuel : Nat) {file : Bytes} {pkg : FwPkg} (s : Pldm)
    (hpkg : fwpkgParse file = .ret (some pkg)) :
    fwUpdInitialize fuel (some file) s =
      (runComponents fuel pkg.compImageCount >>= afterComponents fuel) (s.opened file pkg) := by
  have hopen : openPackage (some file) s = (.ret pldmSuccess, s.opened file pkg) := by
    simp only [openPackage, modify_bind_apply, orError, fwpkgParseInfo, Prog.bind_assoc,
      get_bind_apply, hpkg, Prog.pure_bind, if_pos, pure_apply]
    rfl
  have hgo : fwUpdInitialize fuel (some file) s =
      (getPkg >>= fun pkg => runComponents fuel pkg.compImageCount >>= afterComponents fuel)
        (s.opened file pkg) := (bind_of_ret hopen).trans (by congr)
  rw [hgo]
  rfl

/-- A package that is not accepted ends the run before anything reaches the device. -/
theorem fwUpdInitialize_refused (fuel : Nat) {pkgFile : Option Bytes} {s : Pldm}
    (h : ∀ file pkg, pkgFile = some file → fwpkgParse file ≠ .ret (some pkg)) :
    (fwUpdInitialize fuel pkgFile s).1 ≠ .ret pldmSuccess ∧
      milestones (fwUpdInitialize fuel pkgFile s).2 = milestones s := by
  have hopen : (openPackage pkgFile s).1 ≠ .ret pldmSuccess ∧
      (openPackage pkgFile s).2.trace = s.trace := by
    rcases pkgFile with _ | file
    · exact ⟨by simp [openPackage], rfl⟩
    · rcases hparse : fwpkgParse file with (_ | pkg) | _ | _
      · simp [openPackage, orError, fwpkgParseInfo, hparse]
      · exact absurd hparse (h file pkg rfl)
      · simp [openPackage, orError, fwpkgParseInfo, hparse]
      · simp [openPackage, orError, fwpkgParseInfo, hparse]
  rw [fwUpdInitialize, andThen, chain_of_ne hopen.1]
  exact ⟨hopen.1, congrArg (List.filterMap milestone) hopen.2⟩

/-- The milestones of an update that was completed. -/
def completedUpdate (count : Nat) : List Milestone :=
  (List.range count).flatMap completedComponent ++ activationDone

/-- The failed closing commands are not the completed ones. -/
theorem not_completed {ms : List Milestone} {count : Nat} (h : ActivationFailed ms) :
    (List.range count).flatMap completedComponent ++ ms ≠ completedUpdate count := by
  rw [completedUpdate, Ne, List.append_cancel_left_eq]
  rcases h with rfl | rfl <;> decide

/-- The component loop is left with errors only. -/
theorem runComponents_leave {fuel count : Nat} {q : UInt8} {s t : Pldm}
    (hid : s.instanceID ≤ pldmInstanceIdMax)
    (h : runComponents fuel count s = (.ret (.inl q), t)) :
    ∃ n r u, n < count ∧ runComponents fuel n s = (.ret (.inr r), u) ∧
      runComponent fuel n r u = (.ret (.inl q), t) ∧ u.instanceID ≤ pldmInstanceIdMax := by
  obtain ⟨pre, n, post, r, u, hsplit, hpre, hn⟩ := forEach_eq_leave_iff.mp h
  have hlen : pre.length < count := by
    have := congrArg List.length hsplit
    simp at this
    omega
  have hpre' : pre = List.range pre.length := by
    have := congrArg (List.take pre.length) hsplit
    rwa [List.take_range, Nat.min_eq_left (Nat.le_of_lt hlen), List.take_left, eq_comm] at this
  have hn' : n = pre.length := by
    have := congrArg (fun l => l[pre.length]?) hsplit
    simpa [hlen, eq_comm] using this
  subst hn'
  rw [hpre'] at hpre
  exact ⟨pre.length, r, u, hlen, hpre, hn, (runComponents_done hid hpre).2.1⟩

/-! ## Success -/

/-- **When success means a completed update.** For an accepted package, `PLDM_SUCCESS` implies that
every component ran its five inventory commands and its data phase to the end, GetStatus succeeded
and ActivateFirmware was written, exactly if the answers that come after a non-empty component loop
do not make GetStatus or ActivateFirmware fail: the exits behind the loop return the success of the
last inventory command. -/
theorem fwUpdInitialize_success_iff (fuel : Nat) {file : Bytes} {pkg : FwPkg} {s : Pldm}
    (hpkg : fwpkgParse file = .ret (some pkg)) (hs : Idle s) :
    ((fwUpdInitialize fuel (some file) s).1 = .ret pldmSuccess →
        milestones (fwUpdInitialize fuel (some file) s).2 = completedUpdate pkg.compImageCount) ↔
      ∀ ret u, 0 < pkg.compImageCount →
        runComponents fuel pkg.compImageCount (s.opened file pkg) = (.ret (.inr ret), u) →
        ActivationAnswered fuel u := by
  have hid : (s.opened file pkg).instanceID ≤ pldmInstanceIdMax := hs.instanceID
  have hm₀ : milestones (s.opened file pkg) = [] := hs.milestones
  rw [fwUpdInitialize_accepted fuel s hpkg]
  rcases hrun : runComponents fuel pkg.compImageCount (s.opened file pkg)
    with ⟨(ret | ret) | _ | _, u⟩
  · -- left early: with an error, so nothing is promised
    obtain ⟨n, r, v, -, -, hn, hidv⟩ := runComponents_leave hid hrun
    have hne : ret ≠ pldmSuccess := (runComponent_leave hidv hn).1
    rw [bind_of_ret hrun, afterComponents, pure_apply]
    exact iff_of_true (fun h => absurd (Outcome.ret.inj h) hne) (by simp)
  · obtain ⟨hm, hidu, hret⟩ := runComponents_done hid hrun
    rw [hm₀, List.nil_append] at hm
    rw [bind_of_ret hrun, afterComponents]
    have hreached (h : ∀ ret' u', 0 < pkg.compImageCount →
        ((.ret (.inr ret), u) : Outcome (UInt8 ⊕ UInt8) × Pldm) = (.ret (.inr ret'), u') →
        ActivationAnswered fuel u') (hpos : 0 < pkg.compImageCount) : ActivationAnswered fuel u :=
      h ret u hpos rfl
    rcases runActivation_cases ret hidu with ⟨t, ht, hans, hmt⟩ | ⟨t, ms, ht, hans, hmt, hfail⟩ |
      ⟨hans, hstuck⟩
    · rw [ht, hmt, hm]
      refine iff_of_true (fun _ => rfl) fun _ _ _ h => ?_
      obtain ⟨-, rfl⟩ := Prod.mk.inj h
      exact hans
    · rw [ht, hmt, hm]
      constructor
      · -- with a component installed the stale `ret` is a success
        intro h _ _ hpos _
        have hsucc : ret = pldmSuccess := hret.trans (if_neg (Nat.ne_of_gt hpos))
        exact absurd (h (congrArg Outcome.ret hsucc)) (not_completed hfail)
      · intro h hsucc
        by_cases hpos : 0 < pkg.compImageCount
        · exact absurd (hreached h hpos) hans
        · have hsucc' : ret = pldmSuccess := Outcome.ret.inj hsucc
          rw [hret, if_pos (Nat.eq_zero_of_not_pos hpos)] at hsucc'
          exact absurd hsucc' (by decide)
    · refine iff_of_true (fun h => absurd h (hstuck pldmSuccess)) fun _ _ _ h => ?_
      obtain ⟨-, rfl⟩ := Prod.mk.inj h
      exact hans
  · rw [bind_of_fault hrun]
    exact iff_of_true (by simp) (by simp)
  · rw [bind_of_cut hrun]
    exact iff_of_true (by simp) (by simp)

/-- A response as the bus delivers it, without the address byte. -/
def sampleResponse (id cmd code : UInt8) : Option Bytes :=
  some [mctpCmdCode, 10, 0, 0, 0, 0, 0xC0, 1, id, pldmFirmwareUpdate, cmd, code]

/-- The answers that install a component, its first instance ID being `id`. -/
def sampleAnswers (id : UInt8) : List (Option Bytes) :=
  [sampleResponse id queryDeviceIdentifiers 0, sampleResponse (id + 1) getFirmwareParameters 0,
   sampleResponse (id + 2) requestUpdate 0, sampleResponse (id + 3) passComponentTable 0,
   sampleResponse (id + 4) updateComponent 0, sampleResponse (id + 5) applyComplete 0]

/-- A device that gives these answers and no others, every write going through. -/
def sampleDevice (answers : List (Option Bytes)) : Pldm :=
  Pldm.init (answers ++ₛ Stream'.const none) (Stream'.const true)

theorem fwpkgParse_oneImage : ∃ pkg,
    fwpkgParse (samplePackage [sampleImage 100 32]) = .ret (some pkg) ∧ pkg.compImageCount = 1 := by
  obtain ⟨pkg, hpkg, hregions⟩ := exists_of_acceptedRegions
    (show acceptedRegions (fwpkgParse (samplePackage [sampleImage 100 32])) = some [(100, 32)] by
      decide +kernel)
  exact ⟨pkg, hpkg, by simpa [FwPkg.compImageCount] using congrArg List.length hregions⟩

/-- One component is installed, the read for GetStatus fails, and the run returns success. -/
theorem fwUpdInitialize_success_without_status :
    ¬∀ fuel file pkg s, fwpkgParse file = .ret (some pkg) → Idle s →
      (fwUpdInitialize fuel (some file) s).1 = .ret pldmSuccess →
      milestones (fwUpdInitialize fuel (some file) s).2 = completedUpdate pkg.compImageCount := by
  intro h
  obtain ⟨pkg, hpkg, hcount⟩ := fwpkgParse_oneImage
  have hdone := h 2 _ pkg (sampleDevice (sampleAnswers 1)) hpkg (idle_init _ _)
    (by decide +kernel)
  rw [hcount] at hdone
  revert hdone
  decide +kernel

/-- With GetStatus answered, the same run meets the condition and completes the update. -/
theorem fwUpdInitialize_success_iff_sample :
    ∃ pkg, fwpkgParse (samplePackage [sampleImage 100 32]) = .ret (some pkg) ∧
      Idle (sampleDevice (sampleAnswers 1 ++ [sampleResponse 6 getStatus 0])) ∧
      ∀ ret u, 0 < pkg.compImageCount →
        runComponents 2 pkg.compImageCount
          ((sampleDevice (sampleAnswers 1 ++ [sampleResponse 6 getStatus 0])).opened
            (samplePackage [sampleImage 100 32]) pkg) = (.ret (.inr ret), u) →
        ActivationAnswered 2 u := by
  obtain ⟨pkg, hpkg, hcount⟩ := fwpkgParse_oneImage
  refine ⟨pkg, hpkg, idle_init _ _, ?_⟩
  refine (fwUpdInitialize_success_iff 2 hpkg (idle_init _ _)).mp fun _ => ?_
  rw [hcount]
  decide +kernel

/-! ## Cancelling -/

/-- The answers let every query after the first component and the closing commands go through. -/
structure UpdateAnswered (fuel count : Nat) (s : Pldm) : Prop where
  queries : ∀ n ret u, 0 < n → n < count → runComponents fuel n s = (.ret (.inr ret), u) →
    QueriesAnswered fuel (u.atComp n)
  activation : ∀ ret u, 0 < count → runComponents fuel count s = (.ret (.inr ret), u) →
    ActivationAnswered fuel u

/-- The milestone of a RequestUpdate that succeeded: the device is in update mode. -/
abbrev updateRequested : Milestone := .exchanged requestUpdate pldmSuccess

/-- The device was told how the update ends. -/
def Closed (ms : List Milestone) : Prop :=
  .activateWritten ∈ ms ∨ .cancelAttempted ∈ ms

/-- Installed components have put the device into update mode, and left it there. -/
theorem completedComponents_open (count : Nat) :
    (updateRequested ∈ (List.range count).flatMap completedComponent ↔ 0 < count) ∧
      ¬Closed ((List.range count).flatMap completedComponent) := by
  have hone (n : Nat) : updateRequested ∈ completedComponent n ∧
      .activateWritten ∉ completedComponent n ∧ .cancelAttempted ∉ completedComponent n := by
    simp [completedComponent, inventoryDone, cmdTable]
  refine ⟨?_, ?_⟩
  · rw [List.mem_flatMap]
    constructor
    · rintro ⟨n, hn, -⟩
      exact Nat.lt_of_le_of_lt (Nat.zero_le n) (List.mem_range.mp hn)
    · exact fun h => ⟨0, List.mem_range.mpr h, (hone 0).1⟩
  · rintro (h | h)
    · obtain ⟨n, -, hn⟩ := List.mem_flatMap.mp h
      exact (hone n).2.1 hn
    · obtain ⟨n, -, hn⟩ := List.mem_flatMap.mp h
      exact (hone n).2.2 hn

/-- Milestones that neither request an update nor close one. -/
theorem closed_append_iff {ms ms' : List Milestone} (h : ¬Closed ms') :
    Closed (ms ++ ms') ↔ Closed ms := by
  simp only [Closed, List.mem_append] at h ⊢
  tauto

theorem not_closed_of_isQuery {ms : List Milestone} (h : ∀ m ∈ ms, m.IsQuery) : ¬Closed ms := by
  rintro (hm | hm)
  · obtain ⟨_, _, hq, -⟩ := h _ hm
    cases hq
  · obtain ⟨_, _, hq, -⟩ := h _ hm
    cases hq

theorem updateRequested_not_mem_of_isQuery {ms : List Milestone} (h : ∀ m ∈ ms, m.IsQuery) :
    updateRequested ∉ ms := by
  intro hm
  obtain ⟨cmd, ret, hq, hcmd⟩ := h _ hm
  obtain ⟨rfl, -⟩ := Milestone.exchanged.inj hq
  revert hcmd
  decide

theorem not_closed_of_activationFailed {ms : List Milestone} (h : ActivationFailed ms) :
    ¬Closed ms := by
  rcases h with rfl | rfl <;> simp [Closed]

theorem updateRequested_not_mem_of_activationFailed {ms : List Milestone}
    (h : ActivationFailed ms) : updateRequested ∉ ms := by
  rcases h with rfl | rfl <;> decide

/-- A component that is left ends the component loop. -/
theorem runComponents_of_leave {fuel count n : Nat} {r q : UInt8} {s u t : Pldm} (hn : n < count)
    (hrun : runComponents fuel n s = (.ret (.inr r), u))
    (hleave : runComponent fuel n r u = (.ret (.inl q), t)) :
    runComponents fuel count s = (.ret (.inl q), t) := by
  obtain ⟨k, rfl⟩ := Nat.exists_eq_add_of_lt hn
  refine forEach_eq_leave_iff.mpr
    ⟨List.range n, n, ((List.range k).map Nat.succ).map (n + ·), r, u, ?_, hrun, hleave⟩
  rw [Nat.add_assoc, List.range_add, List.range_succ_eq_map, List.map_cons, Nat.add_zero]

section Cancels

variable {fuel count : Nat} {s : Pldm}

/-- The device was never left in update mode: a run that returned after a RequestUpdate succeeded
has closed the update. -/
def NeverLeftOpen (run : Outcome UInt8 × Pldm) : Prop :=
  ∀ ret, run.1 = .ret ret → updateRequested ∈ milestones run.2 → Closed (milestones run.2)

/-- Each answer left out would leave the update mode open. -/
theorem updateAnswered_of_neverLeftOpen (hid : s.instanceID ≤ pldmInstanceIdMax)
    (hm₀ : milestones s = [])
    (h : NeverLeftOpen ((runComponents fuel count >>= afterComponents fuel) s)) :
    UpdateAnswered fuel count s where
  queries := by
    intro n ret u hpos hn hrun
    by_contra hans
    obtain ⟨hm, hidu, -⟩ := runComponents_done hid hrun
    obtain ⟨q, t, ms, hleave, hmt, hms⟩ := runComponent_unanswered ret hidu hans
    rw [hm₀, List.nil_append] at hm
    rw [bind_of_ret (runComponents_of_leave hn hrun hleave), afterComponents, pure_apply] at h
    have hopen := completedComponents_open n
    have hclosed := h q rfl (by rw [hmt, hm]; exact List.mem_append_left _ (hopen.1.mpr hpos))
    rw [hmt, hm, closed_append_iff (not_closed_of_isQuery hms)] at hclosed
    exact hopen.2 hclosed
  activation := by
    intro ret u hpos hrun
    by_contra hans
    obtain ⟨hm, hidu, -⟩ := runComponents_done hid hrun
    rw [hm₀, List.nil_append] at hm
    rw [bind_of_ret hrun, afterComponents] at h
    have hopen := completedComponents_open count
    rcases runActivation_cases ret hidu with ⟨-, -, hans', -⟩ | ⟨t, ms, ht, -, hmt, hfail⟩ |
      ⟨hans', -⟩
    · exact hans hans'
    · rw [ht] at h
      have hclosed := h ret rfl (by rw [hmt, hm]; exact List.mem_append_left _ (hopen.1.mpr hpos))
      rw [hmt, hm, closed_append_iff (not_closed_of_activationFailed hfail)] at hclosed
      exact hopen.2 hclosed
    · exact hans hans'

/-- Where all were answered the device left the update mode. -/
theorem neverLeftOpen_of_updateAnswered (hid : s.instanceID ≤ pldmInstanceIdMax)
    (hm₀ : milestones s = []) (h : UpdateAnswered fuel count s) :
    NeverLeftOpen ((runComponents fuel count >>= afterComponents fuel) s) := by
  intro ret hret hmode
  rcases hrun : runComponents fuel count s with ⟨(q | r) | _ | _, t⟩
  · rw [bind_of_ret hrun, afterComponents, pure_apply] at hmode ⊢
    obtain ⟨n, r, u, hn, hrun', hleave, hidu⟩ := runComponents_leave hid hrun
    by_cases hans : QueriesAnswered fuel (u.atComp n)
    · exact .inr ((runComponent_leave hidu hleave).2 hans)
    · -- only the first component's queries may fail, and then nothing was requested yet
      exfalso
      have hzero : n = 0 := Nat.eq_zero_of_not_pos fun hpos => hans (h.queries n r u hpos hn hrun')
      obtain ⟨hm, -, -⟩ := runComponents_done hid hrun'
      obtain ⟨q', t', ms, hleave', hmt, hms⟩ := runComponent_unanswered r hidu hans
      obtain ⟨-, rfl⟩ := Prod.mk.inj (hleave.symm.trans hleave')
      rw [hmt, hm, hm₀, hzero] at hmode
      exact updateRequested_not_mem_of_isQuery hms hmode
  · obtain ⟨hm, hidu, -⟩ := runComponents_done hid hrun
    rw [hm₀, List.nil_append] at hm
    rw [bind_of_ret hrun, afterComponents] at hret hmode ⊢
    rcases runActivation_cases r hidu with ⟨v, hv, -, hmv⟩ | ⟨v, ms, hv, hans, hmv, hfail⟩ |
      ⟨-, hstuck⟩
    · rw [hv, hmv]
      exact .inl (List.mem_append_right _ (by simp [activationDone]))
    · rw [hv, hmv, hm] at hmode
      rcases List.mem_append.mp hmode with hmem | hmem
      · have hpos := (completedComponents_open count).1.mp hmem
        exact absurd (h.activation r t hpos hrun) hans
      · exact absurd hmem (updateRequested_not_mem_of_activationFailed hfail)
    · exact absurd hret (hstuck ret)
  · rw [bind_of_fault hrun] at hret
    cases hret
  · rw [bind_of_cut hrun] at hret
    cases hret

end Cancels

/-- **When a device in update mode is never left alone.** Every run that returns after a
RequestUpdate succeeded has written ActivateFirmware or attempted CancelUpdate, exactly if the
answers do not make a query of a later component, GetStatus or ActivateFirmware fail: those exits
do not cancel. -/
theorem fwUpdInitialize_neverLeftOpen_iff (fuel : Nat) (pkgFile : Option Bytes) {s : Pldm}
    (hs : Idle s) :
    NeverLeftOpen (fwUpdInitialize fuel pkgFile s) ↔
      ∀ file pkg, pkgFile = some file → fwpkgParse file = .ret (some pkg) →
        UpdateAnswered fuel pkg.compImageCount (s.opened file pkg) := by
  have hid (file : Bytes) (pkg : FwPkg) : (s.opened file pkg).instanceID ≤ pldmInstanceIdMax :=
    hs.instanceID
  have hm₀ (file : Bytes) (pkg : FwPkg) : milestones (s.opened file pkg) = [] := hs.milestones
  by_cases hacc : ∃ file pkg, pkgFile = some file ∧ fwpkgParse file = .ret (some pkg)
  · obtain ⟨file, pkg, rfl, hpkg⟩ := hacc
    rw [fwUpdInitialize_accepted fuel s hpkg]
    constructor
    · intro h file' pkg' hfile hpkg'
      obtain rfl := Option.some.inj hfile
      obtain rfl : pkg = pkg' := Option.some.inj (Outcome.ret.inj (hpkg.symm.trans hpkg'))
      exact updateAnswered_of_neverLeftOpen (hid _ _) (hm₀ _ _) h
    · exact fun h => neverLeftOpen_of_updateAnswered (hid _ _) (hm₀ _ _) (h file pkg rfl hpkg)
  · have href : ∀ file pkg, pkgFile = some file → fwpkgParse file ≠ .ret (some pkg) :=
      fun file pkg hfile hpkg => hacc ⟨file, pkg, hfile, hpkg⟩
    refine iff_of_true ?_ fun file pkg hfile hpkg => absurd hpkg (href file pkg hfile)
    intro ret _ hmode
    rw [(fwUpdInitialize_refused fuel href).2, hs.milestones] at hmode
    simp at hmode

/-- The second component's QueryDeviceIdentifiers is not answered: the run returns an error and the
device stays in update mode. -/
theorem fwUpdInitialize_leaves_update_open :
    ¬∀ fuel pkgFile s, Idle s → NeverLeftOpen (fwUpdInitialize fuel pkgFile s) := by
  intro h
  have hrun := h 2 (some (samplePackage [sampleImage 100 32, sampleImage 200 32]))
    (sampleDevice (sampleAnswers 1)) (idle_init _ _) pldmError
  revert hrun
  unfold Closed
  decide +kernel

/-- A run in which every query is answered and whose update is activated. -/
theorem fwUpdInitialize_neverLeftOpen_sample :
    ∃ pkg, fwpkgParse (samplePackage [sampleImage 100 32]) = .ret (some pkg) ∧
      UpdateAnswered 2 pkg.compImageCount
        ((sampleDevice (sampleAnswers 1 ++ [sampleResponse 6 getStatus 0])).opened
          (samplePackage [sampleImage 100 32]) pkg) := by
  obtain ⟨pkg, hpkg, -⟩ := fwpkgParse_oneImage
  refine ⟨pkg, hpkg, (fwUpdInitialize_neverLeftOpen_iff 2 _ (idle_init _ _)).mp ?_ _ pkg rfl hpkg⟩
  intro _ _
  unfold Closed
  decide +kernel

end XpuManager
