import XpuManager.Hal.FirmwareUpdate
import XpuManager.Lib.Runs

/-! # The progress of a card's flash

`amcupd::updateAMC` (`hal/fwupd/amcupd.cpp`) creates a thread that flashes the card and one that shows how
far it has got, and joins both. They share atomic variables, and take their steps in any order. -/

namespace XpuManager

namespace FirmwareUpdate

open Runs

/-! ## The threads -/

/-- Where `updateAMC` stands, from the creation of its threads on. -/
inductive AmcMain where
  | creatingFlash
  | creatingProgress
  | joiningFlash
  | stopping
  | joiningProgress
  | loading
  | returned (result : ZeResult)

/-- Where `flashThread` stands. -/
inductive FlashThread where
  | unborn
  | flashing
  | storingSuccess (success : Bool)
  | storingCompleted
  | ended
  deriving DecidableEq

/-- Where `progressThread` stands, with the value of `progress`. -/
inductive ProgressThread where
  | unborn
  | checking (progress : Int)
  | asking
  | showing (progress : Int)
  | polling (progress : Int)
  | showingFull
  | sleeping (progress : Int)
  | ended
  deriving DecidableEq

/-- The three threads of an update, and what they share. -/
structure AmcRun where
  main : AmcMain
  flashThread : FlashThread
  progressThread : ProgressThread
  flashCompleted : Bool
  flashSuccess : Bool
  stopProgress : Bool
  /-- The latest comes last. -/
  shown : List Int

/-- A step of a thread, or the return of its call. -/
inductive AmcAction where
  | main
  | flash
  | amcFirmwareFlash (success : Bool)
  | progress
  | amcFirmwareProgress (progress : Int)

namespace AmcRun

/-- Before the main thread has created the others. -/
def start : AmcRun where
  main := .creatingFlash
  flashThread := .unborn
  progressThread := .unborn
  flashCompleted := false
  flashSuccess := false
  stopProgress := false
  shown := []

/-- The next step of the main thread. -/
def mainStep (s : AmcRun) : Option AmcRun :=
  match s.main with
  | .creatingFlash => some { s with main := .creatingProgress, flashThread := .flashing }
  | .creatingProgress => some { s with main := .joiningFlash, progressThread := .checking 0 }
  | .joiningFlash => if s.flashThread = .ended then some { s with main := .stopping } else none
  | .stopping => some { s with main := .joiningProgress, stopProgress := true }
  | .joiningProgress => if s.progressThread = .ended then some { s with main := .loading } else none
  | .loading => some { s with main := .returned (if s.flashSuccess then .success else .unknown) }
  | .returned _ => none

/-- The next step of the thread that flashes, but for the call itself. -/
def flashStep (s : AmcRun) : Option AmcRun :=
  match s.flashThread with
  | .storingSuccess success => some { s with
      flashThread := .storingCompleted
      flashSuccess := success }
  | .storingCompleted => some { s with flashThread := .ended, flashCompleted := true }
  | .unborn | .flashing | .ended => none

/-- The next step of the thread that asks for the progress, but for the call itself. -/
def progressStep (s : AmcRun) : Option AmcRun :=
  match s.progressThread with
  | .checking progress => some { s with
      progressThread := if s.stopProgress = false ∧ progress < 100 then .asking else .ended }
  | .showing progress => some { s with
      progressThread := .polling progress
      shown := s.shown ++ [progress] }
  | .polling progress => some { s with
      progressThread := if s.flashCompleted then .showingFull
        else if progress < 100 then .sleeping progress else .checking progress }
  | .showingFull => some { s with progressThread := .ended, shown := s.shown ++ [100] }
  | .sleeping progress => some { s with progressThread := .checking progress }
  | .unborn | .asking | .ended => none

/-- A step of one of the threads, or the answer to a call. -/
def step (s : AmcRun) : AmcAction → Option AmcRun
  | .main => s.mainStep
  | .flash => s.flashStep
  | .amcFirmwareFlash success =>
    match s.flashThread with
    | .flashing => some { s with flashThread := .storingSuccess success }
    | _ => none
  | .progress => s.progressStep
  | .amcFirmwareProgress progress =>
    match s.progressThread with
    | .asking => some { s with
        progressThread := if progress < 0 then .ended else .showing (min progress 100) }
    | _ => none

end AmcRun

/-! ## What a run keeps -/

@[simp] def AmcAction.success? : AmcAction → Option Bool
  | .amcFirmwareFlash success => some success
  | _ => none

/-- What the card has answered. -/
@[simp] def FlashThread.successes (flashSuccess : Bool) : FlashThread → List Bool
  | .unborn | .flashing => []
  | .storingSuccess success => [success]
  | .storingCompleted | .ended => [flashSuccess]

/-- The main thread has joined the one that flashes. -/
@[simp] def AmcMain.FlashJoined : AmcMain → Prop
  | .stopping | .joiningProgress | .loading | .returned _ => True
  | _ => False

/-- The main thread has set the stop flag. -/
@[simp] def AmcMain.Stopped : AmcMain → Prop
  | .joiningProgress | .loading | .returned _ => True
  | _ => False

/-- The main thread has joined both others. -/
@[simp] def AmcMain.ProgressJoined : AmcMain → Prop
  | .loading | .returned _ => True
  | _ => False

/-- How often 100 may have been shown. -/
@[simp] def ProgressThread.full : ProgressThread → Nat
  | .unborn | .asking | .showing _ | .sleeping _ => 0
  | .checking progress | .polling progress => if progress < 100 then 0 else 1
  | .showingFull => 1
  | .ended => 2

/-- What is shown are percentages below 100, and then 100 a few times at most. -/
def ShownUpTo (full : Nat) (shown : List Int) : Prop :=
  ∃ below n, n ≤ full ∧ (∀ progress ∈ below, 0 ≤ progress ∧ progress < 100) ∧
    shown = below ++ List.replicate n 100

/-- What is known after some actions. -/
structure AmcRun.Ok (as : List AmcAction) (s : AmcRun) : Prop where
  successes : as.filterMap AmcAction.success? = s.flashThread.successes s.flashSuccess
  completed : s.flashCompleted ↔ s.flashThread = .ended
  stopped : s.stopProgress ↔ s.main.Stopped
  flashUnborn : s.flashThread = .unborn ↔ s.main = .creatingFlash
  progressUnborn : s.progressThread = .unborn ↔ s.main = .creatingFlash ∨ s.main = .creatingProgress
  flashJoined : s.main.FlashJoined → s.flashThread = .ended
  progressJoined : s.main.ProgressJoined → s.progressThread = .ended
  returned : ∀ result, s.main = .returned result →
    result = if s.flashSuccess then .success else .unknown
  shown : ShownUpTo s.progressThread.full s.shown
  percent : ∀ progress, s.progressThread = .showing progress ∨ s.progressThread = .polling progress →
    0 ≤ progress ∧ progress ≤ 100

section

variable {s t : AmcRun} {a : AmcAction} {as : List AmcAction} {shown : List Int} {progress : Int}

theorem ShownUpTo.mono {full full' : Nat} (h : ShownUpTo full shown) (hle : full ≤ full') :
    ShownUpTo full' shown := by
  obtain ⟨below, n, hn, hbelow, rfl⟩ := h
  exact ⟨below, n, hn.trans hle, hbelow, rfl⟩

theorem ShownUpTo.full {full : Nat} (h : ShownUpTo full shown) : ShownUpTo (full + 1) (shown ++ [100]) := by
  obtain ⟨below, n, hn, hbelow, rfl⟩ := h
  refine ⟨below, n + 1, Nat.succ_le_succ hn, hbelow, ?_⟩
  rw [List.replicate_succ', List.append_assoc]

theorem ShownUpTo.snoc (h : ShownUpTo 0 shown) (hprogress : 0 ≤ progress ∧ progress ≤ 100) :
    ShownUpTo (if progress < 100 then 0 else 1) (shown ++ [progress]) := by
  by_cases hlt : progress < 100
  · rw [if_pos hlt]
    obtain ⟨below, n, hn, hbelow, rfl⟩ := h
    obtain rfl := Nat.le_zero.mp hn
    refine ⟨below ++ [progress], 0, le_rfl, fun p hp => ?_, by simp⟩
    rcases List.mem_append.mp hp with hp | hp
    · exact hbelow p hp
    · rw [List.mem_singleton.mp hp]
      exact ⟨hprogress.1, hlt⟩
  · rw [if_neg hlt, le_antisymm hprogress.2 (not_lt.mp hlt)]
    exact h.full

/-- A step of the main thread, by where it stands. -/
theorem AmcRun.Ok.mainStep (h : s.Ok as) (hstep : s.mainStep = some t) : t.Ok (as ++ [.main]) := by
  obtain ⟨main, flash, track, completed, success, stop, shown⟩ := s
  obtain ⟨hsuccesses, hcompleted, hstopped, hflashUnborn, hprogressUnborn, hflashJoined,
    hprogressJoined, hreturned, hshown, hpercent⟩ := h
  unfold AmcRun.mainStep at hstep
  cases main with
  | creatingFlash =>
    obtain rfl := Option.some.inj hstep
    constructor <;> simp_all
  | creatingProgress =>
    obtain rfl := Option.some.inj hstep
    constructor <;> simp_all
  | joiningFlash =>
    obtain ⟨hended, hstep⟩ := Option.ite_none_right_eq_some.mp hstep
    obtain rfl := Option.some.inj hstep
    constructor <;> simp_all
  | stopping =>
    obtain rfl := Option.some.inj hstep
    constructor <;> simp_all
  | joiningProgress =>
    obtain ⟨hended, hstep⟩ := Option.ite_none_right_eq_some.mp hstep
    obtain rfl := Option.some.inj hstep
    constructor <;> simp_all
  | loading =>
    obtain rfl := Option.some.inj hstep
    constructor <;> simp_all
  | returned result => cases hstep

/-- A step of the flashing thread. -/
theorem AmcRun.Ok.flashStep (h : s.Ok as) (hstep : s.flashStep = some t) : t.Ok (as ++ [.flash]) := by
  obtain ⟨main, flash, track, completed, success, stop, shown⟩ := s
  obtain ⟨hsuccesses, hcompleted, hstopped, hflashUnborn, hprogressUnborn, hflashJoined,
    hprogressJoined, hreturned, hshown, hpercent⟩ := h
  -- the main thread has not joined this one yet
  have hjoined : flash ≠ .ended → ¬main.FlashJoined := fun hne hjoined => hne (hflashJoined hjoined)
  unfold AmcRun.flashStep at hstep
  cases flash with
  | storingSuccess success' =>
    obtain rfl := Option.some.inj hstep
    have hmain := hjoined (by simp)
    refine ⟨?_, by simpa using hcompleted, hstopped, by simpa using hflashUnborn, hprogressUnborn,
      fun hm => absurd hm hmain, hprogressJoined, ?_, hshown, hpercent⟩
    · rw [List.filterMap_append, hsuccesses]
      simp
    · rintro result rfl
      exact absurd trivial hmain
  | storingCompleted =>
    obtain rfl := Option.some.inj hstep
    refine ⟨?_, by simp, hstopped, by simpa using hflashUnborn, hprogressUnborn, fun _ => rfl,
      hprogressJoined, hreturned, hshown, hpercent⟩
    rw [List.filterMap_append, hsuccesses]
    simp
  | unborn => cases hstep
  | flashing => cases hstep
  | ended => cases hstep

/-- What a step of the progress thread has to leave. -/
theorem AmcRun.Ok.track {next : ProgressThread} {shown' : List Int} (h : s.Ok as)
    (ha : a.success? = none) (hrunning : s.progressThread ≠ .unborn ∧ s.progressThread ≠ .ended)
    (hnext : next ≠ .unborn) (hshown : ShownUpTo next.full shown')
    (hpercent : ∀ progress, next = .showing progress ∨ next = .polling progress →
      0 ≤ progress ∧ progress ≤ 100) :
    AmcRun.Ok (as ++ [a]) { s with progressThread := next, shown := shown' } where
  successes := by
    rw [List.filterMap_append, h.successes, List.filterMap_cons_none ha]
    simp
  completed := h.completed
  stopped := h.stopped
  flashUnborn := h.flashUnborn
  progressUnborn := iff_of_false hnext fun hmain => hrunning.1 (h.progressUnborn.mpr hmain)
  flashJoined := h.flashJoined
  progressJoined hmain := absurd (h.progressJoined hmain) hrunning.2
  returned := h.returned
  shown := hshown
  percent := hpercent

/-- A step of the progress thread, by where its loop stands. -/
theorem AmcRun.Ok.progressStep (h : s.Ok as) (hstep : s.progressStep = some t) :
    t.Ok (as ++ [.progress]) := by
  have hshown := h.shown
  have hpercent := h.percent
  unfold AmcRun.progressStep at hstep
  cases htrack : s.progressThread with
  | checking progress =>
    rw [htrack] at hstep hshown
    obtain rfl := Option.some.inj hstep
    split
    case isTrue hgo =>
      refine h.track rfl (by simp [htrack]) (by simp) ?_ (by simp)
      rwa [ProgressThread.full, if_pos hgo.2] at hshown
    case isFalse =>
      refine h.track rfl (by simp [htrack]) (by simp) (hshown.mono ?_) (by simp)
      simp only [ProgressThread.full]
      split
      · decide
      · decide
  | showing progress =>
    rw [htrack] at hstep hshown
    obtain rfl := Option.some.inj hstep
    have hrange := hpercent progress (.inl htrack)
    exact h.track rfl (by simp [htrack]) (by simp) (hshown.snoc hrange) (by simpa using hrange)
  | polling progress =>
    rw [htrack] at hstep hshown
    obtain rfl := Option.some.inj hstep
    split
    case isTrue =>
      refine h.track rfl (by simp [htrack]) (by simp) (hshown.mono ?_) (by simp)
      simp only [ProgressThread.full]
      split
      · decide
      · decide
    case isFalse =>
      split
      case isTrue hlt =>
        refine h.track rfl (by simp [htrack]) (by simp) ?_ (by simp)
        rwa [ProgressThread.full, if_pos hlt] at hshown
      case isFalse => exact h.track rfl (by simp [htrack]) (by simp) hshown (by simp)
  | showingFull =>
    rw [htrack] at hstep hshown
    obtain rfl := Option.some.inj hstep
    exact h.track rfl (by simp [htrack]) (by simp) hshown.full (by simp)
  | sleeping progress =>
    rw [htrack] at hstep hshown
    obtain rfl := Option.some.inj hstep
    exact h.track rfl (by simp [htrack]) (by simp) (hshown.mono (Nat.zero_le _)) (by simp)
  | unborn => rw [htrack] at hstep; cases hstep
  | asking => rw [htrack] at hstep; cases hstep
  | ended => rw [htrack] at hstep; cases hstep

theorem amcRun_start : AmcRun.Ok [] AmcRun.start := by
  refine ⟨rfl, by simp [AmcRun.start], by simp [AmcRun.start], by simp [AmcRun.start],
    by simp [AmcRun.start], by simp [AmcRun.start], by simp [AmcRun.start], by simp [AmcRun.start],
    ⟨[], 0, le_rfl, by simp, rfl⟩, by simp [AmcRun.start]⟩

/-- **Every step keeps it.** -/
theorem AmcRun.Ok.step (h : s.Ok as) (hstep : s.step a = some t) : t.Ok (as ++ [a]) := by
  cases a with
  | main => exact h.mainStep hstep
  | flash => exact h.flashStep hstep
  | progress => exact h.progressStep hstep
  | amcFirmwareFlash success =>
    rw [AmcRun.step] at hstep
    split at hstep
    case h_2 => cases hstep
    case h_1 hflash =>
      obtain rfl := Option.some.inj hstep
      have hsuccesses := h.successes
      have hcompleted := h.completed
      have hunborn := h.flashUnborn
      have hjoined : ¬s.main.FlashJoined := fun hmain => by
        have hended := h.flashJoined hmain
        rw [hflash] at hended
        cases hended
      rw [hflash] at hsuccesses hcompleted hunborn
      refine ⟨?_, by simpa using hcompleted, h.stopped, by simpa using hunborn, h.progressUnborn,
        fun hmain => absurd hmain hjoined, h.progressJoined, h.returned, h.shown, h.percent⟩
      rw [List.filterMap_append, hsuccesses]
      rfl
  | amcFirmwareProgress progress =>
    rw [AmcRun.step] at hstep
    split at hstep
    case h_2 => cases hstep
    case h_1 htrack =>
      obtain rfl := Option.some.inj hstep
      have hshown := h.shown
      rw [htrack] at hshown
      split
      case isTrue =>
        exact h.track rfl (by simp [htrack]) (by simp) (hshown.mono (Nat.zero_le _)) (by simp)
      case isFalse hneg =>
        refine h.track rfl (by simp [htrack]) (by simp) hshown ?_
        simp only [ProgressThread.showing.injEq, reduceCtorEq, or_false]
        rintro p rfl
        omega

theorem AmcRun.Ok.follow {bs : List AmcAction} (h : s.Ok as) (hrun : follow AmcRun.step s bs = some t) :
    t.Ok (as ++ bs) :=
  follow_history (fun _ _ _ _ hs hstep => hs.step hstep) h hrun

/-! ## How a run ends -/

/-- A run that has ended with the answer of the card. What was shown are percentages, and after 100 only
one more 100 at most. -/
structure AmcRun.Returned (as : List AmcAction) (s : AmcRun) (success : Bool) : Prop where
  answered : as.filterMap AmcAction.success? = [success]
  shown : ShownUpTo 2 s.shown
  ended : ∀ a, s.step a = none

/-- What the update of the device is in, as `Phase.step` knows it. -/
def AmcRun.phase (amcIndex : Nat) (s : AmcRun) : Phase :=
  match s.main with
  | .returned result => if result = .success then .finished else .failing
  | _ => .amcFlashing amcIndex

/-- **A flash of the card.** While it goes on, the three threads are where `Phase.step` has `amcFlashing`.
When `updateAMC` returns they have taken its one step, with the answer of the card to the one call. -/
theorem amcRun_returns (job : Job) (dev : UpdateDevice) (init : InitState) (amcIndex : Nat)
    (hrun : follow AmcRun.step .start as = some s) :
    s.phase amcIndex = .amcFlashing amcIndex ∨
      ∃ success, s.Returned as success ∧
        (Phase.amcFlashing amcIndex).step job dev init (.amc success) = some (.ret
          { phase := s.phase amcIndex
            flash := some (.amcFirmwareFlash amcIndex job.filePath success) }) := by
  have hok : s.Ok as := amcRun_start.follow hrun
  cases hmain : s.main with
  | returned result =>
    have hflash := hok.flashJoined (by rw [hmain]; trivial)
    have htrack := hok.progressJoined (by rw [hmain]; trivial)
    have hsuccesses := hok.successes
    have hshown := hok.shown
    rw [hflash] at hsuccesses
    rw [htrack] at hshown
    refine .inr ⟨s.flashSuccess, ⟨hsuccesses, hshown, fun a => ?_⟩, ?_⟩
    · cases a with
      | main => rw [AmcRun.step, AmcRun.mainStep, hmain]
      | flash => rw [AmcRun.step, AmcRun.flashStep, hflash]
      | progress => rw [AmcRun.step, AmcRun.progressStep, htrack]
      | amcFirmwareFlash success => rw [AmcRun.step, hflash]
      | amcFirmwareProgress progress => rw [AmcRun.step, htrack]
    · rw [AmcRun.phase, hmain, hok.returned result hmain]
      cases s.flashSuccess with
      | true => rfl
      | false => rfl
  | _ =>
    left
    rw [AmcRun.phase, hmain]

/-- Some thread goes on, whatever the card answers. -/
def AmcRun.GoesOn (s : AmcRun) : Prop :=
  (s.step .main).isSome ∨ (s.step .flash).isSome ∨
    (∀ success, (s.step (.amcFirmwareFlash success)).isSome) ∨ (s.step .progress).isSome ∨
      ∀ progress, (s.step (.amcFirmwareProgress progress)).isSome

/-- The steps that are left once the progress thread is told to stop. -/
def AmcMain.left : AmcMain → Nat
  | .joiningProgress => 2
  | .loading => 1
  | _ => 0

/-- A bound on the steps that are left of the thread. -/
def ProgressThread.left : ProgressThread → Nat
  | .asking => 5
  | .showing _ => 4
  | .polling _ => 3
  | .sleeping _ => 2
  | .checking _ | .showingFull => 1
  | .unborn | .ended => 0

/-- A bound on the steps that are left once the stop flag is set. -/
def AmcRun.left (s : AmcRun) : Nat := s.main.left + s.progressThread.left

/-- Neither thread waits for another one. -/
theorem AmcRun.goesOn_of_flash (h : s.flashThread ≠ .unborn ∧ s.flashThread ≠ .ended) : s.GoesOn := by
  cases hflash : s.flashThread with
  | unborn => exact absurd hflash h.1
  | ended => exact absurd hflash h.2
  | flashing => exact .inr (.inr (.inl fun success => by rw [AmcRun.step, hflash]; rfl))
  | _ => exact .inr (.inl (by rw [AmcRun.step, AmcRun.flashStep, hflash]; rfl))

theorem AmcRun.goesOn_of_progress (h : s.progressThread ≠ .unborn ∧ s.progressThread ≠ .ended) :
    s.GoesOn := by
  cases htrack : s.progressThread with
  | unborn => exact absurd htrack h.1
  | ended => exact absurd htrack h.2
  | asking => exact .inr (.inr (.inr (.inr fun progress => by rw [AmcRun.step, htrack]; rfl)))
  | _ => exact .inr (.inr (.inr (.inl (by rw [AmcRun.step, AmcRun.progressStep, htrack]; rfl))))

/-- Until the main thread has returned some thread goes on. -/
theorem AmcRun.Ok.goesOn (h : s.Ok as) (hrunning : ∀ result, s.main ≠ .returned result) : s.GoesOn := by
  cases hmain : s.main with
  | joiningFlash =>
    by_cases hended : s.flashThread = .ended
    · exact .inl (by rw [AmcRun.step, AmcRun.mainStep, hmain]; simp [hended])
    · refine AmcRun.goesOn_of_flash ⟨fun hunborn => ?_, hended⟩
      have hcreating := h.flashUnborn.mp hunborn
      rw [hmain] at hcreating
      cases hcreating
  | joiningProgress =>
    by_cases hended : s.progressThread = .ended
    · exact .inl (by rw [AmcRun.step, AmcRun.mainStep, hmain]; simp [hended])
    · refine AmcRun.goesOn_of_progress ⟨fun hunborn => ?_, hended⟩
      have hcreating := h.progressUnborn.mp hunborn
      rw [hmain] at hcreating
      simp at hcreating
  | returned result => exact absurd hmain (hrunning result)
  | _ => exact .inl (by rw [AmcRun.step, AmcRun.mainStep, hmain]; rfl)

/-- **A step after the order to stop** leaves fewer steps. -/
theorem AmcRun.Ok.left_step (h : s.Ok as) (hstop : s.stopProgress) (hstep : s.step a = some t) :
    t.stopProgress ∧ t.left < s.left := by
  have hstopped := h.stopped.mp hstop
  have hflash : s.flashThread = .ended := h.flashJoined (by cases hmain : s.main <;> simp_all)
  cases a with
  | main =>
    rw [AmcRun.step, AmcRun.mainStep] at hstep
    cases hmain : s.main with
    | joiningProgress =>
      rw [hmain] at hstep
      obtain ⟨-, hstep⟩ := Option.ite_none_right_eq_some.mp hstep
      obtain rfl := Option.some.inj hstep
      simp [AmcRun.left, AmcMain.left, hmain, hstop]
    | loading =>
      rw [hmain] at hstep
      obtain rfl := Option.some.inj hstep
      simp [AmcRun.left, AmcMain.left, hmain, hstop]
    | returned result => rw [hmain] at hstep; cases hstep
    | _ => rw [hmain] at hstopped; exact hstopped.elim
  | flash =>
    rw [AmcRun.step, AmcRun.flashStep, hflash] at hstep
    cases hstep
  | amcFirmwareFlash success =>
    rw [AmcRun.step, hflash] at hstep
    cases hstep
  | progress =>
    rw [AmcRun.step, AmcRun.progressStep] at hstep
    cases htrack : s.progressThread with
    | checking progress =>
      rw [htrack] at hstep
      obtain rfl := Option.some.inj hstep
      simp [AmcRun.left, ProgressThread.left, htrack, hstop]
    | polling progress =>
      rw [htrack] at hstep
      obtain rfl := Option.some.inj hstep
      refine ⟨hstop, Nat.add_lt_add_left ?_ _⟩
      simp only [htrack]
      split
      · simp [ProgressThread.left]
      · split
        · simp [ProgressThread.left]
        · simp [ProgressThread.left]
    | unborn => rw [htrack] at hstep; cases hstep
    | asking => rw [htrack] at hstep; cases hstep
    | ended => rw [htrack] at hstep; cases hstep
    | _ =>
      rw [htrack] at hstep
      obtain rfl := Option.some.inj hstep
      simp [AmcRun.left, ProgressThread.left, htrack, hstop]
  | amcFirmwareProgress progress =>
    rw [AmcRun.step] at hstep
    split at hstep
    case h_2 => cases hstep
    case h_1 htrack =>
      obtain rfl := Option.some.inj hstep
      refine ⟨hstop, Nat.add_lt_add_left ?_ _⟩
      simp only [htrack]
      split
      · simp [ProgressThread.left]
      · simp [ProgressThread.left]

/-- **The end of a flash of the card.** As long as `updateAMC` has not returned some thread goes on,
whatever the card answers. Once the progress thread is told to stop at most 7 steps are left. -/
theorem amcRun_ends (hrun : follow AmcRun.step .start as = some s) :
    ((∀ result, s.main ≠ .returned result) → s.GoesOn) ∧
      (s.stopProgress → ∀ bs t, follow AmcRun.step s bs = some t → bs.length ≤ 7) := by
  have hok : s.Ok as := amcRun_start.follow hrun
  refine ⟨hok.goesOn, fun hstop bs t hrest => ?_⟩
  have hless : ∀ u a v, ((∃ cs, u.Ok cs) ∧ u.stopProgress) → AmcRun.step u a = some v →
      ((∃ cs, v.Ok cs) ∧ v.stopProgress) ∧ v.left < u.left := by
    rintro u a v ⟨⟨cs, hu⟩, hstop⟩ hstep
    obtain ⟨hv, hlt⟩ := hu.left_step hstop hstep
    exact ⟨⟨⟨_, hu.step hstep⟩, hv⟩, hlt⟩
  have hlength := follow_length_le hless ⟨⟨as, hok⟩, hstop⟩ hrest
  have hmain : s.main.left ≤ 2 := by cases s.main <;> simp [AmcMain.left]
  have htrack : s.progressThread.left ≤ 5 := by cases s.progressThread <;> simp [ProgressThread.left]
  have hleft : s.left = s.main.left + s.progressThread.left := rfl
  omega

end

/-- A flash that is over while the progress thread asks. -/
def amcRunActions : List AmcAction :=
  [.main, .main, .progress, .amcFirmwareProgress 10, .progress, .progress, .progress, .progress,
    .amcFirmwareFlash true, .flash, .flash, .main, .main, .amcFirmwareProgress 130, .progress, .progress,
    .progress, .main, .main]

theorem amcRun_returns_success :
    (∃ s, follow AmcRun.step .start amcRunActions = some s ∧ s.main = .returned .success ∧
      s.shown = [10, 100, 100]) ∧
    ∀ job dev init s, follow AmcRun.step .start amcRunActions = some s →
      s.phase 0 = .amcFlashing 0 ∨
        ∃ success, s.Returned amcRunActions success ∧
          (Phase.amcFlashing 0).step job dev init (.amc success) = some (.ret
            { phase := s.phase 0
              flash := some (.amcFirmwareFlash 0 job.filePath success) }) :=
  ⟨⟨_, rfl, rfl, rfl⟩, fun job dev init _ hrun => amcRun_returns job dev init 0 hrun⟩

theorem amcRun_ends_success :
    (∃ s, follow AmcRun.step .start (amcRunActions.take 13) = some s ∧ s.stopProgress) ∧
    ∀ s, follow AmcRun.step .start (amcRunActions.take 13) = some s →
      ((∀ result, s.main ≠ .returned result) → s.GoesOn) ∧
        (s.stopProgress → ∀ bs t, follow AmcRun.step s bs = some t → bs.length ≤ 7) :=
  ⟨⟨_, rfl, rfl⟩, fun _ hrun => amcRun_ends hrun⟩

end FirmwareUpdate

end XpuManager
