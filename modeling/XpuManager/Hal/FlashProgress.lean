import XpuManager.Hal.FirmwareUpdate
import XpuManager.Lib.Runs

/-! # The progress of a flash

A flash by the driver takes its time, and a second thread shows how far it has got. The two
(`updateFW`, `trackFirmwareFlashProgress`, `hal/fwupd/fwupd.cpp`) share a flag and a mutex, and take their
steps in any order. -/

namespace XpuManager

namespace FirmwareUpdate

open Firmware Runs

/-! ## The threads -/

/-- `firmwareProgressInfo`, as far as it says where the progress is shown. -/
structure FirmwareProgressInfo where
  deviceIndex : UInt32
  curThread : UInt32
  totalThreads : UInt32

/-- What is shown: a line among those of other threads, or the only one. -/
inductive Shown where
  | setProgress (devIndex lineNum totalThreads progress : UInt32)
  | print (progressPercent : UInt32) (newline : Bool)

/-- The percentage that is shown. -/
def Shown.percent : Shown → UInt32
  | .setProgress _ _ _ progress => progress
  | .print progressPercent _ => progressPercent

def FirmwareProgressInfo.shown (flashData : FirmwareProgressInfo) (progressPercent : UInt32)
    (last : Bool) : Shown :=
  if 0 < flashData.totalThreads then
    .setProgress flashData.deviceIndex flashData.curThread flashData.totalThreads progressPercent
  else .print progressPercent last

/-- Where `updateFW` stands, from the creation of the progress thread on. -/
inductive FlashPhase where
  | creating
  | flashing
  | locking (result : ZeResult)
  | storing (result : ZeResult)
  | unlocking (result : ZeResult)
  | joining (result : ZeResult)
  | returned (result : ZeResult)

/-- Where `trackFirmwareFlashProgress` stands. -/
inductive TrackPhase where
  | unborn
  | asking
  | showing (progressPercent : UInt32)
  | sleeping
  | locking
  | reading
  | unlocking (loopContinue : Bool)
  | askingLast
  | showingLast (progressPercent : UInt32)
  | ended
  deriving DecidableEq

/-- The thread that holds the mutex. -/
inductive Holder where
  | flash
  | track
  deriving DecidableEq

/-- The two threads, and what they share. -/
structure FlashRun where
  flash : FlashPhase
  track : TrackPhase
  firmwareProgressMutex : Option Holder
  flashComplete : Bool
  /-- The latest comes last. -/
  shown : List Shown

/-- A step of a thread, or the return of its call; `none` is an error. -/
inductive FlashAction where
  | flash
  | zesFirmwareFlash (result : ZeResult)
  | track
  | zesFirmwareGetFlashProgress (progressPercent : Option UInt32)

namespace FlashRun

/-- Before the thread that tracks the progress is created. -/
def start : FlashRun where
  flash := .creating
  track := .unborn
  firmwareProgressMutex := none
  flashComplete := false
  shown := []

/-- The next step of the thread that flashes, but for the call itself. -/
def flashStep (s : FlashRun) : Option FlashRun :=
  match s.flash with
  | .creating => some { s with flash := .flashing, track := .asking }
  | .locking result =>
    if s.firmwareProgressMutex = none then
      some { s with flash := .storing result, firmwareProgressMutex := some .flash }
    else none
  | .storing result => some { s with flash := .unlocking result, flashComplete := true }
  | .unlocking result => some { s with flash := .joining result, firmwareProgressMutex := none }
  | .joining result => if s.track = .ended then some { s with flash := .returned result } else none
  | .flashing | .returned _ => none

/-- The next step of the thread that tracks the progress, but for the call itself. -/
def trackStep (flashData : FirmwareProgressInfo) (s : FlashRun) : Option FlashRun :=
  match s.track with
  | .showing progressPercent => some { s with
      track := .sleeping
      shown := s.shown ++ [flashData.shown progressPercent false] }
  | .sleeping => some { s with track := .locking }
  | .locking =>
    if s.firmwareProgressMutex = none then
      some { s with track := .reading, firmwareProgressMutex := some .track }
    else none
  | .reading => some { s with track := .unlocking (!s.flashComplete) }
  | .unlocking loopContinue => some { s with
      track := if loopContinue then .asking else .askingLast
      firmwareProgressMutex := none }
  | .showingLast progressPercent => some { s with
      track := .ended
      shown := s.shown ++ [flashData.shown progressPercent true] }
  | .unborn | .asking | .askingLast | .ended => none

/-- A step of one of the threads, or the answer to a call. -/
def step (flashData : FirmwareProgressInfo) (s : FlashRun) : FlashAction → Option FlashRun
  | .flash => s.flashStep
  | .zesFirmwareFlash result =>
    match s.flash with
    | .flashing => some { s with flash := .locking result }
    | _ => none
  | .track => s.trackStep flashData
  | .zesFirmwareGetFlashProgress progressPercent =>
    match s.track with
    | .asking => some { s with track := progressPercent.elim .askingLast .showing }
    | .askingLast => some { s with track := progressPercent.elim .ended .showingLast }
    | _ => none

end FlashRun

/-! ## What a run keeps -/

/-- The thread that flashes holds the mutex. -/
@[simp] def FlashPhase.Locked : FlashPhase → Prop
  | .storing _ | .unlocking _ => True
  | _ => False

/-- The thread that flashes has set the flag. -/
@[simp] def FlashPhase.Stored : FlashPhase → Prop
  | .unlocking _ | .joining _ | .returned _ => True
  | _ => False

/-- What the driver has answered. -/
@[simp] def FlashPhase.result? : FlashPhase → Option ZeResult
  | .creating | .flashing => none
  | .locking result | .storing result | .unlocking result | .joining result | .returned result =>
    some result

/-- The thread that tracks the progress holds the mutex. -/
@[simp] def TrackPhase.Locked : TrackPhase → Prop
  | .reading | .unlocking _ => True
  | _ => False

/-- What is about to be shown. -/
@[simp] def TrackPhase.pending : TrackPhase → Option UInt32
  | .showing progressPercent | .showingLast progressPercent => some progressPercent
  | _ => none

@[simp] def FlashAction.result? : FlashAction → Option ZeResult
  | .zesFirmwareFlash result => some result
  | _ => none

@[simp] def FlashAction.percent? : FlashAction → Option UInt32
  | .zesFirmwareGetFlashProgress progressPercent => progressPercent
  | _ => none

/-- The driver has not told the progress. -/
def Untold (as : List FlashAction) : Prop := .zesFirmwareGetFlashProgress none ∈ as

/-- The driver has told the progress after the flash. -/
def ToldLate (as : List FlashAction) : Prop :=
  ∃ before progressPercent after,
    as = before ++ .zesFirmwareGetFlashProgress (some progressPercent) :: after ∧
      ∃ result, .zesFirmwareFlash result ∈ before

/-- The threads and the mutex. -/
structure FlashRun.Locks (s : FlashRun) : Prop where
  flash : s.firmwareProgressMutex = some .flash ↔ s.flash.Locked
  track : s.firmwareProgressMutex = some .track ↔ s.track.Locked
  complete : s.flashComplete ↔ s.flash.Stored
  /-- What is read is right as long as the mutex is held. -/
  read : ∀ loopContinue, s.track = .unlocking loopContinue → s.flashComplete = !loopContinue
  unborn : s.track = .unborn ↔ s.flash = .creating
  returned : ∀ result, s.flash = .returned result → s.track = .ended

/-- What is known after some actions. -/
structure FlashRun.Ok (as : List FlashAction) (s : FlashRun) : Prop where
  locks : s.Locks
  results : as.filterMap FlashAction.result? = s.flash.result?.toList
  shown : as.filterMap FlashAction.percent? = s.shown.map Shown.percent ++ s.track.pending.toList
  /-- The loop is left only if the flash is over, or the driver does not tell the progress. -/
  last : s.track = .askingLast → Untold as ∨ s.flashComplete
  told : (∃ progressPercent, s.track = .showingLast progressPercent) ∨ s.track = .ended →
    Untold as ∨ ToldLate as

section

variable {flashData : FirmwareProgressInfo} {s t : FlashRun} {a : FlashAction}
  {as : List FlashAction}

/-- The mutex keeps the two threads apart. -/
theorem FlashRun.Locks.not_both (h : s.Locks) (hflash : s.flash.Locked) : ¬s.track.Locked := by
  intro htrack
  have hholder := (h.flash.mpr hflash).symm.trans (h.track.mpr htrack)
  simp at hholder

/-- The flashing thread holds the mutex only between its lock and unlock. -/
theorem FlashRun.Locks.flashStep (h : s.Locks) (hstep : s.flashStep = some t) : t.Locks := by
  obtain ⟨flash, track, mutex, complete, shown⟩ := s
  have hboth := h.not_both
  obtain ⟨hflash, htrack, hcomplete, hread, hunborn, hreturned⟩ := h
  unfold FlashRun.flashStep at hstep
  cases flash with
  | creating =>
    obtain rfl := Option.some.inj hstep
    constructor <;> simp_all
  | locking result =>
    obtain ⟨hfree, hstep⟩ := Option.ite_none_right_eq_some.mp hstep
    obtain rfl := Option.some.inj hstep
    constructor <;> simp_all
  | storing result =>
    obtain rfl := Option.some.inj hstep
    refine ⟨hflash, htrack, by simp, fun loopContinue hlocked => ?_, by simp_all, by simp⟩
    -- the progress thread reads nothing now
    have hlocked' : track = .unlocking loopContinue := hlocked
    exact absurd (by simp [hlocked']) (hboth trivial)
  | unlocking result =>
    obtain rfl := Option.some.inj hstep
    have hfree := hboth trivial
    constructor <;> simp_all
  | joining result =>
    obtain ⟨hended, hstep⟩ := Option.ite_none_right_eq_some.mp hstep
    obtain rfl := Option.some.inj hstep
    constructor <;> simp_all
  | flashing => cases hstep
  | returned result => cases hstep

/-- The same for the tracking thread. -/
theorem FlashRun.Locks.trackStep (h : s.Locks) (hstep : s.trackStep flashData = some t) :
    t.Locks := by
  obtain ⟨flash, track, mutex, complete, shown⟩ := s
  have hboth := h.not_both
  obtain ⟨hflash, htrack, hcomplete, hread, hunborn, hreturned⟩ := h
  unfold FlashRun.trackStep at hstep
  cases track with
  | showing progressPercent =>
    obtain rfl := Option.some.inj hstep
    constructor <;> simp_all
  | sleeping =>
    obtain rfl := Option.some.inj hstep
    constructor <;> simp_all
  | locking =>
    obtain ⟨hfree, hstep⟩ := Option.ite_none_right_eq_some.mp hstep
    obtain rfl := Option.some.inj hstep
    constructor <;> simp_all
  | reading =>
    obtain rfl := Option.some.inj hstep
    constructor <;> simp_all
  | unlocking loopContinue =>
    obtain rfl := Option.some.inj hstep
    have hfree : ¬flash.Locked := fun hlocked => hboth hlocked trivial
    cases loopContinue with
    | true => constructor <;> simp_all
    | false => constructor <;> simp_all
  | showingLast progressPercent =>
    obtain rfl := Option.some.inj hstep
    constructor <;> simp_all
  | unborn => cases hstep
  | asking => cases hstep
  | askingLast => cases hstep
  | ended => cases hstep

theorem Shown.percent_shown (flashData : FirmwareProgressInfo) (progressPercent : UInt32)
    (last : Bool) : (flashData.shown progressPercent last).percent = progressPercent := by
  unfold FirmwareProgressInfo.shown
  split
  · rfl
  · rfl

theorem Untold.snoc (h : Untold as) (a : FlashAction) : Untold (as ++ [a]) :=
  List.mem_append_left _ h

theorem ToldLate.snoc (h : ToldLate as) (a : FlashAction) : ToldLate (as ++ [a]) := by
  obtain ⟨before, progressPercent, after, rfl, hflash⟩ := h
  exact ⟨before, progressPercent, after ++ [a], by simp, hflash⟩

/-- The flash is over if the flag says so. -/
theorem FlashRun.Ok.flash_mem (h : s.Ok as) (hcomplete : s.flashComplete) :
    ∃ result, .zesFirmwareFlash result ∈ as := by
  have hstored := h.locks.complete.mp hcomplete
  obtain ⟨result, hresult⟩ : ∃ result, s.flash.result? = some result := by
    cases hflash : s.flash with
    | unlocking result => exact ⟨result, rfl⟩
    | joining result => exact ⟨result, rfl⟩
    | returned result => exact ⟨result, rfl⟩
    | _ =>
      rw [hflash] at hstored
      exact hstored.elim
  have hmem : result ∈ as.filterMap FlashAction.result? := by rw [h.results, hresult]; simp
  obtain ⟨a, ha, haction⟩ := List.mem_filterMap.mp hmem
  cases a with
  | zesFirmwareFlash result' => exact ⟨result', ha⟩
  | _ => cases haction

/-- What a step of a thread without an answer leaves. -/
theorem FlashRun.Ok.silent (h : s.Ok as) (hlocks : t.Locks) (ha : a.result? = none ∧ a.percent? = none)
    (hresult : t.flash.result? = s.flash.result?)
    (hshown : t.shown.map Shown.percent ++ t.track.pending.toList =
      s.shown.map Shown.percent ++ s.track.pending.toList)
    (hlast : t.track = .askingLast → s.track = .askingLast ∨ t.flashComplete)
    (hcomplete : s.flashComplete → t.flashComplete)
    (htold : (∃ p, t.track = .showingLast p) ∨ t.track = .ended →
      (∃ p, s.track = .showingLast p) ∨ s.track = .ended) : t.Ok (as ++ [a]) where
  locks := hlocks
  results := by
    rw [List.filterMap_append, h.results, hresult, List.filterMap_cons_none ha.1, List.filterMap_nil,
      List.append_nil]
  shown := by
    rw [List.filterMap_append, h.shown, hshown, List.filterMap_cons_none ha.2, List.filterMap_nil,
      List.append_nil]
  last ht := by
    rcases hlast ht with hs | ht
    · exact (h.last hs).imp (·.snoc a) hcomplete
    · exact .inr ht
  told ht := (h.told (htold ht)).imp (·.snoc a) (·.snoc a)

/-- A step of the flashing thread, by where it stands. -/
theorem FlashRun.Ok.flashStep (h : s.Ok as) (hstep : s.flashStep = some t) :
    t.Ok (as ++ [.flash]) := by
  have hlocks := h.locks.flashStep hstep
  obtain ⟨flash, track, mutex, complete, shown⟩ := s
  have hunborn := h.locks.unborn
  unfold FlashRun.flashStep at hstep
  cases flash with
  | creating =>
    obtain rfl := Option.some.inj hstep
    have htrack : track = .unborn := hunborn.mpr rfl
    subst htrack
    exact h.silent hlocks ⟨rfl, rfl⟩ rfl rfl (by simp) id (by simp)
  | locking result =>
    obtain ⟨-, hstep⟩ := Option.ite_none_right_eq_some.mp hstep
    obtain rfl := Option.some.inj hstep
    exact h.silent hlocks ⟨rfl, rfl⟩ rfl rfl .inl id id
  | storing result =>
    obtain rfl := Option.some.inj hstep
    exact h.silent hlocks ⟨rfl, rfl⟩ rfl rfl (fun _ => .inr rfl) (fun _ => rfl) id
  | unlocking result =>
    obtain rfl := Option.some.inj hstep
    exact h.silent hlocks ⟨rfl, rfl⟩ rfl rfl .inl id id
  | joining result =>
    obtain ⟨-, hstep⟩ := Option.ite_none_right_eq_some.mp hstep
    obtain rfl := Option.some.inj hstep
    exact h.silent hlocks ⟨rfl, rfl⟩ rfl rfl .inl id id
  | flashing => cases hstep
  | returned result => cases hstep

/-- A step of the tracking thread. -/
theorem FlashRun.Ok.trackStep (h : s.Ok as) (hstep : s.trackStep flashData = some t) :
    t.Ok (as ++ [.track]) := by
  have hlocks := h.locks.trackStep hstep
  obtain ⟨flash, track, mutex, complete, shown⟩ := s
  have hread := h.locks.read
  unfold FlashRun.trackStep at hstep
  cases track with
  | showing progressPercent =>
    obtain rfl := Option.some.inj hstep
    refine h.silent hlocks ⟨rfl, rfl⟩ rfl ?_ (by simp) id (by simp)
    simp [Shown.percent_shown]
  | sleeping =>
    obtain rfl := Option.some.inj hstep
    exact h.silent hlocks ⟨rfl, rfl⟩ rfl rfl (by simp) id (by simp)
  | locking =>
    obtain ⟨-, hstep⟩ := Option.ite_none_right_eq_some.mp hstep
    obtain rfl := Option.some.inj hstep
    exact h.silent hlocks ⟨rfl, rfl⟩ rfl rfl (by simp) id (by simp)
  | reading =>
    obtain rfl := Option.some.inj hstep
    exact h.silent hlocks ⟨rfl, rfl⟩ rfl rfl (by simp) id (by simp)
  | unlocking loopContinue =>
    obtain rfl := Option.some.inj hstep
    cases loopContinue with
    | true => exact h.silent hlocks ⟨rfl, rfl⟩ rfl rfl (by simp) id (by simp)
    | false => exact h.silent hlocks ⟨rfl, rfl⟩ rfl rfl (fun _ => .inr (hread false rfl)) id (by simp)
  | showingLast progressPercent =>
    obtain rfl := Option.some.inj hstep
    refine h.silent hlocks ⟨rfl, rfl⟩ rfl ?_ (by simp) id (by simp)
    simp [Shown.percent_shown]
  | unborn => cases hstep
  | asking => cases hstep
  | askingLast => cases hstep
  | ended => cases hstep

/-- The driver has flashed. -/
theorem FlashRun.Ok.flashed {result : ZeResult} (h : s.Ok as) (hflash : s.flash = .flashing) :
    FlashRun.Ok (as ++ [.zesFirmwareFlash result]) { s with flash := .locking result } := by
  obtain ⟨flash, track, mutex, complete, shown⟩ := s
  obtain rfl : flash = .flashing := hflash
  obtain ⟨⟨hmutex, htrack, hcomplete, hread, hunborn, hreturned⟩, hresults, hshown, hlast, htold⟩ := h
  refine ⟨⟨hmutex, htrack, hcomplete, hread, by simpa using hunborn, by simp⟩, ?_, ?_,
    fun hs => (hlast hs).imp_left (·.snoc _), fun hs => (htold hs).imp (·.snoc _) (·.snoc _)⟩
  · rw [List.filterMap_append, hresults]
    rfl
  · rw [List.filterMap_append, hshown]
    simp

/-- The driver has told the progress, or not. -/
theorem FlashRun.Ok.asked {next : TrackPhase} {progressPercent : Option UInt32} (h : s.Ok as)
    (hphase : s.track = .asking ∨ s.track = .askingLast) (hnext : ¬next.Locked ∧ next ≠ .unborn)
    (hpending : next.pending = progressPercent) (hlast : next = .askingLast → progressPercent = none)
    (htold : (∃ p, next = .showingLast p) ∨ next = .ended → s.track = .askingLast) :
    FlashRun.Ok (as ++ [.zesFirmwareGetFlashProgress progressPercent]) { s with track := next } := by
  have huntold (hnone : progressPercent = none) :
      Untold (as ++ [.zesFirmwareGetFlashProgress progressPercent]) := by
    rw [hnone]
    exact List.mem_append_right _ (List.mem_singleton.mpr rfl)
  have hpast : ¬s.track.Locked ∧ s.track ≠ .unborn ∧ s.track ≠ .ended ∧ s.track.pending = none := by
    rcases hphase with hphase | hphase
    · rw [hphase]
      simp
    · rw [hphase]
      simp
  refine ⟨⟨h.locks.flash, ?_, h.locks.complete, ?_, ?_, ?_⟩, ?_, ?_, ?_, ?_⟩
  · rw [h.locks.track]
    exact iff_of_false hpast.1 hnext.1
  · rintro loopContinue rfl
    exact absurd trivial hnext.1
  · have hunborn := h.locks.unborn
    exact iff_of_false hnext.2 fun hflash => hpast.2.1 (hunborn.mpr hflash)
  · intro result hflash
    exact absurd (h.locks.returned result hflash) hpast.2.2.1
  · rw [List.filterMap_append, h.results]
    simp
  · rw [List.filterMap_append, h.shown, hpast.2.2.2, hpending]
    cases progressPercent with
    | none => simp
    | some p => simp
  · intro hs
    exact .inl (huntold (hlast hs))
  · intro hs
    rcases h.last (htold hs) with hbefore | hcomplete
    · exact .inl (hbefore.snoc _)
    · cases hanswer : progressPercent with
      | none => exact .inl (hanswer ▸ huntold hanswer)
      | some p => exact .inr ⟨as, p, [], rfl, h.flash_mem hcomplete⟩

theorem flashRun_start : FlashRun.Ok [] FlashRun.start := by
  refine ⟨?_, rfl, rfl, by simp [FlashRun.start], by simp [FlashRun.start]⟩
  constructor <;> simp [FlashRun.start]

/-- **Every step keeps it.** -/
theorem FlashRun.Ok.step (h : s.Ok as) (hstep : s.step flashData a = some t) : t.Ok (as ++ [a]) := by
  cases a with
  | flash => exact h.flashStep hstep
  | track => exact h.trackStep hstep
  | zesFirmwareFlash result =>
    rw [FlashRun.step] at hstep
    split at hstep
    case h_1 hflash =>
      obtain rfl := Option.some.inj hstep
      exact h.flashed hflash
    case h_2 => cases hstep
  | zesFirmwareGetFlashProgress progressPercent =>
    rw [FlashRun.step] at hstep
    split at hstep
    case h_1 hphase =>
      obtain rfl := Option.some.inj hstep
      cases progressPercent with
      | none => exact h.asked (.inl hphase) (by simp) rfl (by simp) (by simp)
      | some p => exact h.asked (.inl hphase) (by simp) rfl (by simp) (by simp)
    case h_2 hphase =>
      obtain rfl := Option.some.inj hstep
      cases progressPercent with
      | none => exact h.asked (.inr hphase) (by simp) rfl (by simp) fun _ => hphase
      | some p => exact h.asked (.inr hphase) (by simp) rfl (by simp) fun _ => hphase
    case h_3 => cases hstep

theorem FlashRun.Ok.follow {bs : List FlashAction} (h : s.Ok as)
    (hrun : follow (FlashRun.step flashData) s bs = some t) : t.Ok (as ++ bs) :=
  follow_history (fun _ _ _ _ hs hstep => hs.step hstep) h hrun

/-! ## How a run ends -/

/-- A run that has ended with the answer of the driver. All of the progress that the driver told has been
shown, in its order; the last of it was told after the flash, unless the driver did not tell some. -/
structure FlashRun.Returned (flashData : FirmwareProgressInfo) (as : List FlashAction) (s : FlashRun)
    (result : ZeResult) : Prop where
  answered : as.filterMap FlashAction.result? = [result]
  shown : s.shown.map Shown.percent = as.filterMap FlashAction.percent?
  told : Untold as ∨ ToldLate as
  ended : ∀ a, s.step flashData a = none

/-- What the update of the device is in, as `Phase.step` knows it. -/
def FlashRun.phase (handle : Option Handle) (image : Bytes) (s : FlashRun) : Phase :=
  match s.flash with
  | .returned result => if result = .success then .finished else .failing
  | _ => .flashing handle image

theorem FlashRun.ended_of_returned {result : ZeResult} (h : s.Locks) (hflash : s.flash = .returned result)
    (a : FlashAction) : s.step flashData a = none := by
  have htrack := h.returned result hflash
  cases a with
  | flash => rw [FlashRun.step, FlashRun.flashStep, hflash]
  | zesFirmwareFlash result' => rw [FlashRun.step, hflash]
  | track => rw [FlashRun.step, FlashRun.trackStep, htrack]
  | zesFirmwareGetFlashProgress progressPercent => rw [FlashRun.step, htrack]

/-- **A flash by the driver.** While it goes on, the two threads are where `Phase.step` has `flashing`.
When `updateFW` returns they have taken its one step, with the answer of the driver to the one call. -/
theorem flashRun_returns (job : Job) (dev : UpdateDevice) (init : InitState) (handle : Option Handle)
    (image : Bytes) (hrun : follow (FlashRun.step flashData) .start as = some s) :
    s.phase handle image = .flashing handle image ∨
      ∃ result, s.Returned flashData as result ∧
        (Phase.flashing handle image).step job dev init (.ze result) = some (.ret
          { phase := s.phase handle image
            flash := some (.zesFirmwareFlash handle image result) }) := by
  have hok : s.Ok as := flashRun_start.follow hrun
  have hresults := hok.results
  have hshown := hok.shown
  cases hflash : s.flash with
  | returned result =>
    have hended := hok.locks.returned result hflash
    rw [hflash] at hresults
    rw [hended] at hshown
    refine .inr ⟨result, ⟨hresults, ?_, hok.told (.inr hended), fun a => ?_⟩, ?_⟩
    · rw [hshown]
      simp
    · exact FlashRun.ended_of_returned hok.locks hflash a
    · rw [FlashRun.phase, hflash]
      rfl
  | _ =>
    left
    rw [FlashRun.phase, hflash]

/-- Some thread goes on, whatever the driver answers. -/
def FlashRun.GoesOn (flashData : FirmwareProgressInfo) (s : FlashRun) : Prop :=
  (s.step flashData .flash).isSome ∨ (∀ result, (s.step flashData (.zesFirmwareFlash result)).isSome) ∨
    (s.step flashData .track).isSome ∨
      ∀ progressPercent, (s.step flashData (.zesFirmwareGetFlashProgress progressPercent)).isSome

/-- The steps that are left when the flash is over. -/
def FlashPhase.left : FlashPhase → Nat
  | .unlocking _ => 2
  | .joining _ => 1
  | _ => 0

/-- A bound on the steps that are left of the thread. -/
def TrackPhase.left : TrackPhase → Nat
  | .unlocking true => 9
  | .asking => 8
  | .showing _ => 7
  | .sleeping => 6
  | .locking => 5
  | .reading => 4
  | .unlocking false => 3
  | .askingLast => 2
  | .showingLast _ => 1
  | .unborn | .ended => 0

/-- A bound on the steps that are left once the flag is set. -/
def FlashRun.left (s : FlashRun) : Nat := s.flash.left + s.track.left

/-- The progress thread goes on, unless it waits for the mutex. -/
theorem FlashRun.goesOn_of_track (h : s.track ≠ .unborn ∧ s.track ≠ .ended)
    (hfree : s.track = .locking → s.firmwareProgressMutex = none) : s.GoesOn flashData := by
  have hstep (hsilent : (s.step flashData .track).isSome) : s.GoesOn flashData := .inr (.inr (.inl hsilent))
  cases htrack : s.track with
  | unborn => exact absurd htrack h.1
  | ended => exact absurd htrack h.2
  | locking => exact hstep (by rw [FlashRun.step, FlashRun.trackStep, htrack]; simp [hfree htrack])
  | asking => exact .inr (.inr (.inr fun p => by rw [FlashRun.step, htrack]; rfl))
  | askingLast => exact .inr (.inr (.inr fun p => by rw [FlashRun.step, htrack]; rfl))
  | _ => exact hstep (by rw [FlashRun.step, FlashRun.trackStep, htrack]; rfl)

/-- The mutex is free if neither thread is between lock and unlock. -/
theorem FlashRun.Locks.free (h : s.Locks) (hflash : ¬s.flash.Locked) (htrack : ¬s.track.Locked) :
    s.firmwareProgressMutex = none := by
  cases hmutex : s.firmwareProgressMutex with
  | none => rfl
  | some holder =>
    cases holder with
    | flash => exact absurd (h.flash.mp hmutex) hflash
    | track => exact absurd (h.track.mp hmutex) htrack

/-- Neither thread waits for the other for ever. -/
theorem FlashRun.Locks.goesOn (h : s.Locks) (hrunning : ∀ result, s.flash ≠ .returned result) :
    s.GoesOn flashData := by
  have hstep (hsilent : s.flashStep.isSome) : s.GoesOn flashData := .inl hsilent
  cases hflash : s.flash with
  | creating => exact hstep (by rw [FlashRun.flashStep, hflash]; rfl)
  | flashing => exact .inr (.inl fun result => by rw [FlashRun.step, hflash]; rfl)
  | locking result =>
    -- the mutex is free, or the progress thread is about to release it
    by_cases htrack : s.track.Locked
    · refine FlashRun.goesOn_of_track ⟨?_, ?_⟩ ?_
      all_goals
        intro heq
        rw [heq] at htrack
        exact htrack.elim
    · have hfree : s.firmwareProgressMutex = none := h.free (by rw [hflash]; exact id) htrack
      exact hstep (by rw [FlashRun.flashStep, hflash]; simp [hfree])
  | storing result => exact hstep (by rw [FlashRun.flashStep, hflash]; rfl)
  | unlocking result => exact hstep (by rw [FlashRun.flashStep, hflash]; rfl)
  | joining result =>
    by_cases hended : s.track = .ended
    · exact hstep (by rw [FlashRun.flashStep, hflash]; simp [hended])
    · have hborn : s.track ≠ .unborn := fun htrack => by
        have hcreating := h.unborn.mp htrack
        rw [hflash] at hcreating
        cases hcreating
      -- the join waits for the progress thread, which finds the mutex free
      exact FlashRun.goesOn_of_track ⟨hborn, hended⟩ fun hlocking =>
        h.free (by rw [hflash]; exact id) (by rw [hlocking]; exact id)
  | returned result => exact absurd hflash (hrunning result)

/-- **A step after the flash** leaves fewer steps. -/
theorem FlashRun.left_step (h : s.Locks) (hcomplete : s.flashComplete)
    (hstep : s.step flashData a = some t) : t.flashComplete ∧ t.left < s.left := by
  obtain ⟨flash, track, mutex, complete, shown⟩ := s
  obtain rfl : complete = true := hcomplete
  have hstored : flash.Stored := h.complete.mp rfl
  cases a with
  | flash =>
    cases flash with
    | unlocking result =>
      obtain rfl := Option.some.inj hstep
      simp [FlashRun.left, FlashPhase.left]
    | joining result =>
      obtain ⟨-, hstep⟩ := Option.ite_none_right_eq_some.mp hstep
      obtain rfl := Option.some.inj hstep
      simp [FlashRun.left, FlashPhase.left]
    | returned result => cases hstep
    | _ => exact hstored.elim
  | zesFirmwareFlash result =>
    cases flash with
    | flashing => exact hstored.elim
    | _ => cases hstep
  | track =>
    cases track with
    | locking =>
      obtain ⟨-, hstep⟩ := Option.ite_none_right_eq_some.mp hstep
      obtain rfl := Option.some.inj hstep
      simp [FlashRun.left, TrackPhase.left]
    | unlocking loopContinue =>
      obtain rfl := Option.some.inj hstep
      cases loopContinue with
      | true => simp [FlashRun.left, TrackPhase.left]
      | false => simp [FlashRun.left, TrackPhase.left]
    | unborn => cases hstep
    | asking => cases hstep
    | askingLast => cases hstep
    | ended => cases hstep
    | _ =>
      obtain rfl := Option.some.inj hstep
      simp [FlashRun.left, TrackPhase.left]
  | zesFirmwareGetFlashProgress progressPercent =>
    cases track with
    | asking =>
      obtain rfl := Option.some.inj hstep
      cases progressPercent with
      | none => simp [FlashRun.left, TrackPhase.left]
      | some p => simp [FlashRun.left, TrackPhase.left]
    | askingLast =>
      obtain rfl := Option.some.inj hstep
      cases progressPercent with
      | none => simp [FlashRun.left, TrackPhase.left]
      | some p => simp [FlashRun.left, TrackPhase.left]
    | _ => cases hstep

/-- Ten steps at most are left of a complete flash. -/
theorem FlashRun.left_le (h : s.Locks) (hcomplete : s.flashComplete) : s.left ≤ 10 := by
  have hflash : s.flash.left ≤ 2 := by cases s.flash <;> simp [FlashPhase.left]
  have htrack : s.track.left ≤ 8 := by
    cases hphase : s.track with
    | unlocking loopContinue =>
      have hread := h.read loopContinue hphase
      rw [hcomplete] at hread
      cases loopContinue with
      | true => cases hread
      | false => simp [TrackPhase.left]
    | _ => simp [TrackPhase.left]
  rw [FlashRun.left]
  omega

/-- **The end of a flash by the driver.** As long as `updateFW` has not returned some thread goes on,
whatever the driver answers. Once the flag is set at most 10 steps are left. -/
theorem flashRun_ends (hrun : follow (FlashRun.step flashData) .start as = some s) :
    ((∀ result, s.flash ≠ .returned result) → s.GoesOn flashData) ∧
      (s.flashComplete → ∀ bs t, follow (FlashRun.step flashData) s bs = some t → bs.length ≤ 10) := by
  have hok : s.Ok as := flashRun_start.follow hrun
  refine ⟨hok.locks.goesOn, fun hcomplete bs t hrest => ?_⟩
  have hless : ∀ u a v, ((∃ cs, u.Ok cs) ∧ u.flashComplete) → FlashRun.step flashData u a = some v →
      ((∃ cs, v.Ok cs) ∧ v.flashComplete) ∧ v.left < u.left := by
    rintro u a v ⟨⟨cs, hu⟩, hcomplete⟩ hstep
    obtain ⟨hv, hlt⟩ := FlashRun.left_step hu.locks hcomplete hstep
    exact ⟨⟨⟨_, hu.step hstep⟩, hv⟩, hlt⟩
  have hlength := follow_length_le hless ⟨⟨as, hok⟩, hcomplete⟩ hrest
  have hle := FlashRun.left_le hok.locks hcomplete
  omega

end

/-- A flash that is over while the progress thread sleeps. -/
def flashRunActions : List FlashAction :=
  [.flash, .zesFirmwareGetFlashProgress (some 10), .track, .zesFirmwareFlash .success, .flash, .flash,
    .flash, .track, .track, .track, .track, .zesFirmwareGetFlashProgress (some 100), .track, .flash]

theorem flashRun_returns_success :
    (∃ s, follow (FlashRun.step ⟨0, 0, 0⟩) .start flashRunActions = some s ∧
      s.flash = .returned .success ∧ s.shown = [.print 10 false, .print 100 true]) ∧
    ∀ job dev init handle image s, follow (FlashRun.step ⟨0, 0, 0⟩) .start flashRunActions = some s →
      s.phase handle image = .flashing handle image ∨
        ∃ result, s.Returned ⟨0, 0, 0⟩ flashRunActions result ∧
          (Phase.flashing handle image).step job dev init (.ze result) = some (.ret
            { phase := s.phase handle image
              flash := some (.zesFirmwareFlash handle image result) }) :=
  ⟨⟨_, rfl, rfl, rfl⟩, fun job dev init handle image _ hrun =>
    flashRun_returns job dev init handle image hrun⟩

theorem flashRun_ends_success :
    (∃ s, follow (FlashRun.step ⟨0, 0, 0⟩) .start (flashRunActions.take 6) = some s ∧ s.flashComplete) ∧
    ∀ s, follow (FlashRun.step ⟨0, 0, 0⟩) .start (flashRunActions.take 6) = some s →
      ((∀ result, s.flash ≠ .returned result) → s.GoesOn ⟨0, 0, 0⟩) ∧
        (s.flashComplete → ∀ bs t, follow (FlashRun.step ⟨0, 0, 0⟩) s bs = some t → bs.length ≤ 10) :=
  ⟨⟨_, rfl, rfl⟩, fun _ hrun => flashRun_ends hrun⟩

end FirmwareUpdate

end XpuManager
