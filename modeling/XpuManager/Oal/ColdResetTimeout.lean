import XpuManager.Oal.ColdReset

/-! # The timeout of a cold reset

A cold reset (`oal/lin/lin.cpp`) polls for the device until it is back, and then for a driver. Whether
it was in time is read off the time that has passed after the loop, and a driver that was bound off
what the stream of the bind file says. -/

namespace XpuManager

open Prog

section

variable (answers : ResetAnswers) (gpuBdf : String)

/-- The reset leaves with 1 and nothing was accessed since the device was looked for. -/
def ReportsTimeout : Prop :=
  ∃ t, coldResetViaSysfs answers gpuBdf [] = (.ret 1, t) ∧
    t.getLast? = some (.looked (devicePath gpuBdf))

/-- The directory of the device is absent at every poll, of which the last is at 10000 ms. -/
def NeverSeen : Prop :=
  ∀ k < reenumTimeoutMs / pollIntervalMs, answers.presentAt ((k + 1) * pollIntervalMs) = false

/-- A driver is bound to the device at one of the polls for it. -/
def BoundAgain : Prop :=
  ∃ k < bindTimeoutMs / pollIntervalMs,
    driverNameOf (answers.driverLinkAt (k * pollIntervalMs)) ≠ ""

/-- A timeout is reported exactly if the device was never seen, and success only if it was seen and
has a driver if it had one. -/
structure SpeaksTruly : Prop where
  timeout : ReportsTimeout answers gpuBdf ↔ NeverSeen answers
  success : ∀ t, coldResetViaSysfs answers gpuBdf [] = (.ret 0, t) →
    ¬NeverSeen answers ∧
      (initialDriver answers ≠ "" → BoundAgain answers ∨ answers.bind = .taken)

/-- The slot of the device is found, its driver lets go of it, and its power goes off and on. -/
structure CyclesPower (slotNum : Nat) : Prop where
  slot : SlotFound answers gpuBdf slotNum
  unbind : Unbinds answers
  powerOff : answers.powerOff.passes = true
  confirmed : answers.powerState = some "0"
  powerOn : answers.powerOn.passes = true

/-- The device is there at the last poll and at none before. -/
def SeenLast : Prop :=
  (∀ k, (k + 1) * pollIntervalMs < reenumTimeoutMs →
    answers.presentAt ((k + 1) * pollIntervalMs) = false) ∧
  answers.presentAt reenumTimeoutMs = true

/-- The device is back in time, its driver is not, and the write that should bind it gets lost when
the stream is closed. -/
def LosesBind : Prop :=
  ReEnumerates answers ∧ initialDriver answers ≠ "" ∧ ¬BoundAgain answers ∧ answers.bind = .lost

end

variable {answers : ResetAnswers} {gpuBdf : String} {slotNum : Nat}

/-- A step that passes its check. -/
theorem Checks.passes {m : Prog SysTrace Int} {t : SysTrace} {c : Prop} {ws : List SysWrite}
    (h : Checks m t c ws) (hc : c) : ∃ u, m t = (.ret 0, u) := by
  obtain ⟨u, -, ⟨-, hrun⟩ | ⟨hnot, -⟩⟩ := h
  · exact ⟨u, hrun⟩
  · exact absurd hc hnot

theorem chain_of_ret {m k : Prog SysTrace Int} {t u : SysTrace} (h : m t = (.ret 0, u)) :
    Prog.chain 0 m k t = k u := by
  rw [Prog.chain, bind_of_ret h, if_pos rfl]

theorem chain_of_one {m k : Prog SysTrace Int} {t u : SysTrace} (h : m t = (.ret 1, u)) :
    Prog.chain 0 m k t = (.ret 1, u) := by
  rw [Prog.chain, bind_of_ret h, if_neg (by decide), pure_apply]

theorem note_bind {α : Type} (event : SysEvent) (k : Unit → Prog SysTrace α) (t : SysTrace) :
    (note event >>= k) t = k () (t ++ [event]) := rfl

/-- With the slot found, the reset comes to unbinding the driver. -/
theorem coldResetViaSysfs_of_slotFound (h : SlotFound answers gpuBdf slotNum) (t : SysTrace) :
    ∃ u, coldResetViaSysfs answers gpuBdf t = cyclePower answers gpuBdf slotNum u := by
  obtain ⟨rootPortBdf, slotCap, hport, hcap, hswitch, rfl, hpresent, haddress⟩ := h
  obtain ⟨u, hroot, -⟩ := findRootPortBdf_apply answers gpuBdf t
  rw [hport] at hroot
  have hread (v : SysTrace) : readSlotCapabilities answers rootPortBdf v =
      (.ret (some slotCap), v ++ [.read (devicePath rootPortBdf ++ "/config")]) := by
    rw [← hcap]
    rfl
  rw [coldResetViaSysfs, bind_of_ret hroot]
  dsimp only
  rw [bind_of_ret (hread u)]
  dsimp only
  rw [if_pos hswitch, note_bind, if_pos hpresent, note_bind, if_pos haddress]
  exact ⟨_, rfl⟩

/-- What is left when the power is on again: the polls for the device, and for its driver. -/
theorem CyclesPower.run (h : CyclesPower answers gpuBdf slotNum) :
    ∃ u, coldResetViaSysfs answers gpuBdf [] =
      Prog.chain 0 (awaitDevice answers gpuBdf)
        (rebindDriver answers gpuBdf (initialDriver answers)) u := by
  obtain ⟨t, hcycle⟩ := coldResetViaSysfs_of_slotFound h.slot []
  have hdriver : getPciDriverName answers.driverLink gpuBdf t = (.ret (initialDriver answers),
      t ++ [.readLink (devicePath gpuBdf ++ "/driver")]) := rfl
  obtain ⟨u₁, h₁⟩ := (unbindDriver_checks gpuBdf _).passes h.unbind
  obtain ⟨u₂, h₂⟩ := (switchOff_checks slotNum u₁).passes h.powerOff
  obtain ⟨u₃, h₃⟩ := (confirmOff_checks slotNum u₂).passes h.confirmed
  obtain ⟨u₄, h₄⟩ := (switchOn_checks slotNum u₃).passes h.powerOn
  refine ⟨u₄, ?_⟩
  rw [hcycle, cyclePower, bind_of_ret hdriver, chain_of_ret h₁, cycleSlot, chain_of_ret h₂,
    chain_of_ret h₃, chain_of_ret h₄]

/-- A poll is the last access of a run of polls. -/
theorem getLast?_iterate (event : SysEvent) (n : Nat) (t : SysTrace) :
    ((fun t => t ++ [event])^[n + 1] t).getLast? = some event := by
  rw [Function.iterate_succ_apply', List.getLast?_append]
  rfl

/-- A timeout is what a run that ends so says. -/
theorem reportsTimeout_iff {code : Int} {t : SysTrace}
    (hrun : coldResetViaSysfs answers gpuBdf [] = (.ret code, t)) :
    ReportsTimeout answers gpuBdf ↔ code = 1 ∧ t.getLast? = some (.looked (devicePath gpuBdf)) := by
  constructor
  · rintro ⟨u, hrun', hlast⟩
    obtain ⟨hcode, rfl⟩ := Prod.mk.inj (hrun.symm.trans hrun')
    exact ⟨Outcome.ret.inj hcode, hlast⟩
  · rintro ⟨rfl, hlast⟩
    exact ⟨t, hrun, hlast⟩

/-- After a run that ends with a code other than 0 nothing was promised. -/
theorem speaksTruly_iff_of_fails {t : SysTrace}
    (hrun : coldResetViaSysfs answers gpuBdf [] = (.ret 1, t)) :
    SpeaksTruly answers gpuBdf ↔
      (t.getLast? = some (.looked (devicePath gpuBdf)) ↔ NeverSeen answers) := by
  have htimeout : ReportsTimeout answers gpuBdf ↔ t.getLast? = some (.looked (devicePath gpuBdf)) :=
    (reportsTimeout_iff hrun).trans (and_iff_right rfl)
  refine ⟨fun h => htimeout.symm.trans h.timeout, fun h => ⟨htimeout.trans h, fun u hrun' => ?_⟩⟩
  have hcode := Outcome.ret.inj (congrArg Prod.fst (hrun.symm.trans hrun'))
  exact absurd hcode (by decide)

theorem speaksTruly_iff_of_succeeds {t : SysTrace}
    (hrun : coldResetViaSysfs answers gpuBdf [] = (.ret 0, t)) (hseen : ¬NeverSeen answers) :
    SpeaksTruly answers gpuBdf ↔
      (initialDriver answers ≠ "" → BoundAgain answers ∨ answers.bind = .taken) := by
  refine ⟨fun h => (h.success t hrun).2, fun h => ⟨?_, fun _ _ => ⟨hseen, h⟩⟩⟩
  refine iff_of_false (fun htimeout => ?_) hseen
  exact absurd ((reportsTimeout_iff hrun).mp htimeout).1 (by decide)

/-- A device that is back in time has been seen, and not only at the last poll. -/
theorem ReEnumerates.seen (h : ReEnumerates answers) : ¬NeverSeen answers ∧ ¬SeenLast answers := by
  obtain ⟨k, hk, hpresent⟩ := h
  have hlt : k < reenumTimeoutMs / pollIntervalMs := by
    have hk' : (k + 1) * 200 < 10000 := hk
    show k < 50
    omega
  constructor
  · intro hnever
    rw [hnever k hlt] at hpresent
    cases hpresent
  · rintro ⟨hbefore, -⟩
    rw [hbefore k hk] at hpresent
    cases hpresent

/-- A device that is not seen before the last poll is there at that one, or never. -/
theorem seenLast_of_late {k : Nat} (hk : k < reenumTimeoutMs / pollIntervalMs)
    (hlate : reenumTimeoutMs ≤ (k + 1) * pollIntervalMs)
    (hpresent : answers.presentAt ((k + 1) * pollIntervalMs) = true)
    (hearlier : ∀ j < k, answers.presentAt ((j + 1) * pollIntervalMs) = false) :
    SeenLast answers := by
  have hk' : k < 50 := hk
  have hlate' : 10000 ≤ (k + 1) * 200 := hlate
  obtain rfl : k = 49 := by omega
  refine ⟨fun j hj => hearlier j ?_, hpresent⟩
  have hj' : (j + 1) * 200 < 10000 := hj
  omega

theorem NeverSeen.not_seenLast (h : NeverSeen answers) : ¬SeenLast answers := by
  rintro ⟨-, hlast⟩
  have hnot := h 49 (by decide)
  rw [show (49 + 1) * pollIntervalMs = reenumTimeoutMs from rfl, hlast] at hnot
  cases hnot

theorem NeverSeen.not_reEnumerates (h : NeverSeen answers) : ¬ReEnumerates answers :=
  fun hback => hback.seen.1 h

/-- A device that is seen at the last poll is reported as not being back. -/
theorem CyclesPower.not_speaksTruly (h : CyclesPower answers gpuBdf slotNum)
    (hlast : SeenLast answers) : ¬SpeaksTruly answers gpuBdf := by
  obtain ⟨u, hrun⟩ := h.run
  rcases awaitDevice_cases answers gpuBdf u with ⟨k, hk, hpresent, -, hawait⟩ | ⟨hnever, -⟩
  · have hlate : reenumTimeoutMs ≤ (k + 1) * pollIntervalMs := by
      by_contra hearly
      rw [hlast.1 k (Nat.lt_of_not_le hearly)] at hpresent
      cases hpresent
    rw [if_pos hlate] at hawait
    rw [chain_of_one hawait] at hrun
    rw [speaksTruly_iff_of_fails hrun, getLast?_iterate]
    intro htimeout
    rw [htimeout.mp rfl k hk] at hpresent
    cases hpresent
  · exact absurd hlast (NeverSeen.not_seenLast hnever)

/-- With the device back in time, it is a matter of the driver. -/
theorem speaksTruly_iff_of_back {u : SysTrace} (hback : ReEnumerates answers)
    (hrun : coldResetViaSysfs answers gpuBdf [] =
      rebindDriver answers gpuBdf (initialDriver answers) u) :
    SpeaksTruly answers gpuBdf ↔ ¬SeenLast answers ∧ ¬LosesBind answers := by
  obtain ⟨hseen, hnotLast⟩ := hback.seen
  rw [and_iff_right hnotLast]
  by_cases hdriver : initialDriver answers = ""
  · rw [rebindDriver, if_neg (not_not_intro hdriver)] at hrun
    rw [speaksTruly_iff_of_succeeds hrun hseen]
    exact iff_of_true (fun h => absurd hdriver h) fun h => h.2.1 hdriver
  rcases rebindDriver_cases answers gpuBdf hdriver u with ⟨k, hk, hbound, v, hrebind⟩ | ⟨hnone, hrebind⟩
  · rw [speaksTruly_iff_of_succeeds (hrun.trans hrebind) hseen]
    have hagain : BoundAgain answers := ⟨k, hk, hbound⟩
    exact iff_of_true (fun _ => .inl hagain) fun h => h.2.2.1 hagain
  · have hagain : ¬BoundAgain answers := by
      rintro ⟨k, hk, hbound⟩
      exact hbound (hnone k hk)
    rw [hrebind] at hrun
    have hloses : LosesBind answers ↔ answers.bind = .lost := by
      rw [LosesBind, and_iff_right hback, and_iff_right hdriver, and_iff_right hagain]
    rw [hloses]
    cases hbind : answers.bind with
    | notOpened | failed =>
      -- The reset fails after the write, which is no timeout.
      rw [hbind] at hrun
      rw [speaksTruly_iff_of_fails hrun, List.getLast?_append]
      refine iff_of_true (iff_of_false (fun h => ?_) hseen) (by decide)
      cases Option.some.inj h
    | lost | taken =>
      rw [hbind] at hrun
      rw [speaksTruly_iff_of_succeeds hrun hseen, imp_iff_right hdriver, or_iff_right hagain, hbind]
      decide

/-- **When a cold reset tells the truth about the device.** With the slot, the driver and the power in
order, it does unless the device is seen at the last poll only, or the write that should bind the
driver gets lost. -/
theorem coldResetViaSysfs_speaksTruly_iff (answers : ResetAnswers) (gpuBdf : String) (slotNum : Nat)
    (h : CyclesPower answers gpuBdf slotNum) :
    SpeaksTruly answers gpuBdf ↔ ¬SeenLast answers ∧ ¬LosesBind answers := by
  obtain ⟨u, hrun⟩ := h.run
  rcases awaitDevice_cases answers gpuBdf u with
    ⟨k, hk, hpresent, hearlier, hawait⟩ | ⟨hnever, hawait⟩
  · by_cases hlate : reenumTimeoutMs ≤ (k + 1) * pollIntervalMs
    · have hlast := seenLast_of_late hk hlate hpresent hearlier
      exact iff_of_false (h.not_speaksTruly hlast) fun hnot => hnot.1 hlast
    · rw [if_neg hlate] at hawait
      rw [chain_of_ret hawait] at hrun
      exact speaksTruly_iff_of_back ⟨k, Nat.lt_of_not_le hlate, hpresent⟩ hrun
  · rw [chain_of_one hawait] at hrun
    have hseen : NeverSeen answers := hnever
    have hlast := getLast?_iterate (.looked (devicePath gpuBdf)) 49 u
    rw [speaksTruly_iff_of_fails hrun]
    exact iff_of_true (iff_of_true hlast hseen)
      ⟨hseen.not_seenLast, fun hloses => hseen.not_reEnumerates hloses.1⟩

/-- A reset of a device that is back after so many milliseconds. -/
def backAfter (time : Nat) : ResetAnswers :=
  { notConfirmedAnswers with
    powerState := some "0"
    presentAt := fun elapsed => decide (time ≤ elapsed) }

theorem sampleConfig_slot : slotCapabilities sampleConfig = some 0x00380042 := by decide

theorem backAfter_rootPort : rootPortOf notConfirmedAnswers "0000:4d:00.0" = some "0000:4c:01.0" := by
  decide

theorem backAfter_cyclesPower (time : Nat) : CyclesPower (backAfter time) "0000:4d:00.0" 7 where
  slot := ⟨"0000:4c:01.0", 0x00380042, backAfter_rootPort, sampleConfig_slot, by decide, by decide,
    rfl, congrArg some (by decide)⟩
  unbind := .inr rfl
  powerOff := rfl
  confirmed := rfl
  powerOn := rfl

theorem coldResetViaSysfs_speaksTruly_back : SpeaksTruly (backAfter 600) "0000:4d:00.0" := by
  refine (coldResetViaSysfs_speaksTruly_iff _ _ 7 (backAfter_cyclesPower 600)).mpr ⟨?_, ?_⟩
  · rintro ⟨hbefore, -⟩
    exact absurd (hbefore 2 (by decide)) (by decide)
  · rintro ⟨-, -, -, hlost⟩
    cases hlost

/-- A device that comes back just in time for the last poll. -/
theorem coldResetViaSysfs_lastPoll : CyclesPower (backAfter 9900) "0000:4d:00.0" 7 ∧
    ¬SpeaksTruly (backAfter 9900) "0000:4d:00.0" := by
  have hcycles := backAfter_cyclesPower 9900
  refine ⟨hcycles, hcycles.not_speaksTruly ⟨fun k hk => ?_, by decide⟩⟩
  have hk' : (k + 1) * 200 < 10000 := hk
  have htime : ¬9900 ≤ (k + 1) * 200 := by omega
  exact decide_eq_false htime

end XpuManager
