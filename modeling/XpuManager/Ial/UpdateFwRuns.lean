import Mathlib.Algebra.Order.BigOperators.Group.Finset
import Mathlib.Tactic.Ring
import XpuManager.Ial.UpdateFw

/-! # Runs of the `updatefw` command

The threads of `updatefw` (`ial/cmn/cmd_updatefw.cpp`) join each other, and wait for each other where
`amcupd::init` is called once. -/

namespace XpuManager

namespace FirmwareUpdate

open Firmware Runs

/-! ## What is left to do -/

/-- The steps that a thread has left at most. -/
def Phase.rank : Phase → Nat
  | .unborn | .counting => 8
  | .starting => 7
  | .preUpdating _ _ => 6
  | .initialising _ _ => 5
  | .updating _ _ => 4
  | .querying _ _ => 3
  | .flashing _ _ | .amcFlashing _ => 2
  | .failing => 1
  | .failed | .finished => 0

/-- The steps that the main thread has left. -/
def MainPhase.left (n : Nat) : MainPhase → Nat
  | .spawning k => (n - k) + n + 2
  | .joining k => (n - k) + 1
  | .returned _ _ | .terminated => 0

/-- The steps that are left at most. -/
def UpdateRun.left (n : Nat) (s : UpdateRun) : Nat :=
  s.main.left n + ∑ i ∈ Finset.range n, (s.phase i).rank

/-- The command has ended, or an exception has ended the process. -/
def MainPhase.Over : MainPhase → Prop
  | .returned _ _ | .terminated => True
  | _ => False

/-- What a call of a thread may be answered, or what it does without a call. -/
def Phase.Asks : Phase → Answer → Prop
  | .counting, .none | .starting, .none | .preUpdating _ _, .none | .updating _ _, .none
  | .failing, .none => True
  | .initialising _ _, .amc _ | .amcFlashing _, .amc _ => True
  | .querying _ _, .ze _ | .flashing _ _, .ze _ => True
  | _, _ => False

/-- The thread calls `amcupd::init`. -/
def Phase.Initialising : Phase → Prop
  | .initialising _ _ => True
  | _ => False

section

variable {job : Job} {devices : List UpdateDevice} {dev : UpdateDevice} {s t : UpdateRun}
  {phase : Phase} {answer : Answer} {init : InitState} {p : Progress} {i : Nat}

theorem startFlash_rank {row : Row} {handle : Option Handle} {next : Phase}
    (h : startFlash job dev row handle = .ret next) : next.rank < 4 ∧ ¬next.Initialising := by
  unfold startFlash at h
  split at h
  case h_1 => exact Outcome.ret.inj h ▸ by simp [Phase.rank, Phase.Initialising]
  case h_2 =>
    split at h
    case h_1 => exact Outcome.ret.inj h ▸ by simp [Phase.rank, Phase.Initialising]
    case h_2 => exact Outcome.ret.inj h ▸ by simp [Phase.rank, Phase.Initialising]
    case h_3 => cases h
    case h_4 => cases h
  case h_3 =>
    split at h
    case isTrue => exact Outcome.ret.inj h ▸ by simp [Phase.rank, Phase.Initialising]
    case isFalse => exact Outcome.ret.inj h ▸ by simp [Phase.rank, Phase.Initialising]

/-- What a step of `updateFW` does to `amcupd::init`: the first thread begins it, and ends it. -/
def InitChange (phase next : Phase) (init : InitState) (change : Option InitState) : Prop :=
  (change = none ∧ ¬phase.Initialising ∧ ¬next.Initialising) ∨
    (change = some .running ∧ init = .notYet ∧ ¬phase.Initialising ∧ next.Initialising) ∨
      (∃ failed, change = some (.done failed)) ∧ phase.Initialising ∧ ¬next.Initialising

/-- **A step of `updateFW`** leaves fewer steps. -/
theorem step_rank (h : phase.step job dev init answer = some (.ret p)) :
    p.phase.rank < phase.rank ∧ InitChange phase p.phase init p.init := by
  unfold Phase.step at h
  split at h
  case h_1 =>
    obtain rfl := Outcome.ret.inj (Option.some.inj h)
    obtain ⟨hnext, -⟩ | ⟨row, handle, hnext⟩ := startUpdate_cases job dev
    · simp [hnext, Phase.rank, InitChange, Phase.Initialising]
    · simp [hnext, Phase.rank, InitChange, Phase.Initialising]
  case h_2 =>
    split at h
    case h_1 =>
      obtain rfl := Outcome.ret.inj (Option.some.inj h)
      simp [Phase.rank, InitChange, Phase.Initialising]
    case h_2 =>
      obtain ⟨q, hq, hp⟩ := Option.map_eq_some_iff.mp h
      obtain rfl := Outcome.ret.inj hp
      unfold startInit at hq
      split at hq
      case h_2 => cases hq
      all_goals
        obtain rfl := Option.some.inj hq
        simp [Phase.rank, InitChange, Phase.Initialising]
  case h_3 =>
    obtain rfl := Outcome.ret.inj (Option.some.inj h)
    rename_i success
    cases success with
    | true => simp [Phase.rank, InitChange, Phase.Initialising]
    | false => simp [Phase.rank, InitChange, Phase.Initialising]
  case h_4 =>
    split at h
    case h_1 next hnext =>
      obtain rfl := Outcome.ret.inj (Option.some.inj h)
      obtain ⟨hrank, hno⟩ := startFlash_rank hnext
      exact ⟨hrank, .inl ⟨rfl, id, hno⟩⟩
    case h_2 => cases h
    case h_3 => cases h
  case h_8 => cases h
  all_goals
    obtain rfl := Outcome.ret.inj (Option.some.inj h)
    dsimp only
    split
    · simp [Phase.rank, InitChange, Phase.Initialising]
    · simp [Phase.rank, InitChange, Phase.Initialising]

theorem readImageContent_ne_cut (file : ImageFile) : readImageContent file ≠ .cut := by
  unfold readImageContent
  split
  · simp
  · split
    · simp
    · dsimp only
      split
      · simp
      · simp

theorem startFlash_ne_cut (job : Job) (dev : UpdateDevice) (row : Row) (handle : Option Handle) :
    startFlash job dev row handle ≠ .cut := by
  unfold startFlash
  split
  case h_1 => simp
  case h_2 =>
    split
    case h_4 hcut => exact absurd hcut (readImageContent_ne_cut job.file)
    all_goals simp
  case h_3 => simp

/-- A thread goes on whatever it is answered, unless it waits for `amcupd::init`. -/
theorem step_isSome (hasks : phase.Asks answer) (hphase : phase ≠ .counting ∧ phase ≠ .failing)
    (hinit : phase.Initialising ∨ init ≠ .running) : (phase.step job dev init answer).isSome := by
  cases phase with
  | preUpdating row handle =>
    cases answer with
    | none =>
      rw [Phase.step]
      split
      case h_1 => rfl
      case h_2 =>
        cases init with
        | notYet => rfl
        | running => exact absurd rfl (hinit.resolve_left id)
        | done failed =>
          cases failed with
          | true => rfl
          | false => rfl
    | _ => exact hasks.elim
  | updating row handle =>
    cases answer with
    | none =>
      rw [Phase.step]
      split
      case h_1 => rfl
      case h_2 => rfl
      case h_3 hcut => exact absurd hcut (startFlash_ne_cut job dev row handle)
    | _ => exact hasks.elim
  | counting => exact absurd rfl hphase.1
  | failing => exact absurd rfl hphase.2
  | _ =>
    cases answer with
    | _ => first | rfl | exact hasks.elim

/-- Nothing is cut off. -/
theorem step_ne_cut : phase.step job dev init answer ≠ some .cut := by
  intro h
  unfold Phase.step at h
  split at h
  case h_2 =>
    split at h
    case h_1 => cases h
    case h_2 =>
      obtain ⟨p, -, hp⟩ := Option.map_eq_some_iff.mp h
      cases hp
  case h_4 =>
    split at h
    case h_1 => cases h
    case h_2 => cases h
    case h_3 => cases h
  all_goals cases h

/-! ## Steps of a worker -/

/-- A thread goes on where `updateFW` does. -/
theorem workerStep_isSome {outcome : Outcome Progress}
    (h : (s.phase i).step job dev s.init answer = some outcome) :
    (s.workerStep job dev i answer).isSome := by
  unfold UpdateRun.workerStep
  split
  case h_1 => rfl
  case h_2 => rfl
  case h_3 =>
    rw [h]
    cases outcome with
    | ret p => rfl
    | fault => rfl
    | cut => exact absurd h step_ne_cut

/-- **What a step of a worker is.** -/
theorem workerStep_cases (h : s.workerStep job dev i answer = some t) :
    (s.phase i = .counting ∧ answer = .none ∧ t = { s with
      phase := Function.update s.phase i .starting
      number := Function.update s.number i (some s.curThread)
      curThread := s.curThread + 1 }) ∨
    (s.phase i = .failing ∧ answer = .none ∧ t = { s with
      phase := Function.update s.phase i .failed
      firstError := if s.firstError = .success then .unknown else s.firstError }) ∨
    (∃ p, (s.phase i).step job dev s.init answer = some (.ret p) ∧ t = s.progress i p) ∨
    (s.phase i).step job dev s.init answer = some .fault ∧ t = { s with main := .terminated } := by
  unfold UpdateRun.workerStep at h
  split at h
  case h_1 hphase => exact .inl ⟨hphase, rfl, (Option.some.inj h).symm⟩
  case h_2 hphase => exact .inr (.inl ⟨hphase, rfl, (Option.some.inj h).symm⟩)
  case h_3 =>
    split at h
    case h_1 p hp => exact .inr (.inr (.inl ⟨p, hp, (Option.some.inj h).symm⟩))
    case h_2 hfault => exact .inr (.inr (.inr ⟨hfault, (Option.some.inj h).symm⟩))
    case h_3 => cases h
    case h_4 => cases h

/-- What a step of the main thread leaves: it may create a thread. -/
theorem mainStep_frame {as : List Action} (hinv : s.Inv job devices as)
    (h : s.mainStep devices.length = some t) :
    t.init = s.init ∧ t.number = s.number ∧ t.curThread = s.curThread ∧ t.flashes = s.flashes ∧
      (t.phase = s.phase ∨ ∃ k, s.phase k = .unborn ∧ t.phase = Function.update s.phase k .counting) := by
  have hmainOk := hinv.main
  unfold UpdateRun.mainStep at h
  cases hmain : s.main with
  | spawning k =>
    rw [hmain] at h hmainOk
    dsimp only at h
    split at h
    case isTrue =>
      obtain rfl := Option.some.inj h
      exact ⟨rfl, rfl, rfl, rfl, .inr ⟨k, (hmainOk.2 k).mpr le_rfl, rfl⟩⟩
    case isFalse =>
      obtain rfl := Option.some.inj h
      exact ⟨rfl, rfl, rfl, rfl, .inl rfl⟩
  | joining k =>
    rw [hmain] at h
    dsimp only at h
    split at h
    case isTrue =>
      obtain ⟨-, h⟩ := Option.ite_none_right_eq_some.mp h
      obtain rfl := Option.some.inj h
      exact ⟨rfl, rfl, rfl, rfl, .inl rfl⟩
    case isFalse =>
      split at h
      all_goals
        obtain rfl := Option.some.inj h
        exact ⟨rfl, rfl, rfl, rfl, .inl rfl⟩
  | returned code printed => rw [hmain] at h; cases h
  | terminated => rw [hmain] at h; cases h

/-- A thread that takes a step has not ended. -/
theorem ended_of_step {outcome : Outcome Progress} (h : phase.step job dev init answer = some outcome) :
    phase.ended = false := by
  cases phase with
  | failed => cases answer <;> cases h
  | finished => cases answer <;> cases h
  | _ => rfl

theorem step_worker (h : s.step job devices (.worker i answer) = some t) :
    s.main ≠ .terminated ∧ ∃ dev, devices[i]? = some dev ∧ s.workerStep job dev i answer = some t := by
  rw [UpdateRun.step] at h
  split at h
  case h_1 => cases h
  case h_2 => cases h
  case h_3 dev hdev hmain => exact ⟨hmain, dev, hdev, h⟩

/-! ## The end of every run -/

/-- One thread gets on. -/
theorem sum_rank_lt {n : Nat} {next : Phase} (hi : i < n) (hlt : next.rank < (s.phase i).rank) :
    ∑ j ∈ Finset.range n, (Function.update s.phase i next j).rank <
      ∑ j ∈ Finset.range n, (s.phase j).rank := by
  refine Finset.sum_lt_sum (fun j _ => ?_) ⟨i, Finset.mem_range.mpr hi, ?_⟩
  · by_cases hj : j = i
    · subst hj
      rw [Function.update_self]
      exact hlt.le
    · rw [Function.update_of_ne hj]
  · rwa [Function.update_self]

/-- Every step of the main thread brings the run nearer to its end. -/
theorem left_mainStep {as : List Action} (h : s.Inv job devices as)
    (hstep : s.mainStep devices.length = some t) : t.left devices.length < s.left devices.length := by
  have hmainOk := h.main
  unfold UpdateRun.mainStep at hstep
  unfold UpdateRun.left
  cases hmain : s.main with
  | spawning k =>
    rw [hmain] at hstep hmainOk
    dsimp only at hstep
    split at hstep
    case isTrue hk =>
      obtain rfl := Option.some.inj hstep
      have hunborn : s.phase k = .unborn := (hmainOk.2 k).mpr le_rfl
      have hsame (j : Nat) : (Function.update s.phase k .counting j).rank = (s.phase j).rank := by
        by_cases hj : j = k
        · subst hj
          rw [Function.update_self, hunborn]
          rfl
        · rw [Function.update_of_ne hj]
      simp only [hsame, MainPhase.left]
      omega
    case isFalse hk =>
      obtain rfl := Option.some.inj hstep
      simp only [MainPhase.left]
      omega
  | joining k =>
    rw [hmain] at hstep
    dsimp only at hstep
    split at hstep
    case isTrue hk =>
      split at hstep
      case isFalse => cases hstep
      case isTrue =>
        obtain rfl := Option.some.inj hstep
        simp only [MainPhase.left]
        omega
    case isFalse hk =>
      split at hstep
      case isTrue =>
        obtain rfl := Option.some.inj hstep
        simp only [MainPhase.left]
        omega
      case isFalse =>
        obtain rfl := Option.some.inj hstep
        simp only [MainPhase.left]
        omega
  | returned code printed => rw [hmain] at hstep; cases hstep
  | terminated => rw [hmain] at hstep; cases hstep

/-- The same for the workers. -/
theorem left_workerStep {as : List Action} (h : s.Inv job devices as) (hdev : devices[i]? = some dev)
    (hmain : s.main ≠ .terminated) (hstep : s.workerStep job dev i answer = some t) :
    t.left devices.length < s.left devices.length := by
  have hi : i < devices.length := (List.getElem?_eq_some_iff.mp hdev).1
  have hworker {next : Phase} (hlt : next.rank < (s.phase i).rank) :
      s.main.left devices.length + ∑ j ∈ Finset.range devices.length,
        (Function.update s.phase i next j).rank < s.left devices.length :=
    Nat.add_lt_add_left (sum_rank_lt hi hlt) _
  obtain ⟨hphase, -, rfl⟩ | ⟨hphase, -, rfl⟩ | ⟨p, hp, rfl⟩ | ⟨hfault, rfl⟩ := workerStep_cases hstep
  · exact hworker (by rw [hphase]; decide)
  · exact hworker (by rw [hphase]; decide)
  · exact hworker (step_rank hp).1
  · -- an exception ends the main thread before it has joined this one
    have hrunning := ended_of_step hfault
    have hmainOk := h.main
    have hpos : 0 < s.main.left devices.length := by
      cases hphase : s.main with
      | spawning k => simp [MainPhase.left]
      | joining k => simp [MainPhase.left]
      | returned code printed =>
        rw [hphase] at hmainOk
        have hended := hmainOk.1 i hi
        rw [hrunning] at hended
        cases hended
      | terminated => exact absurd hphase hmain
    exact Nat.add_lt_add_right hpos _

/-- Every step leaves fewer steps. -/
theorem left_step {as : List Action} {a : Action} (h : s.Inv job devices as)
    (hstep : s.step job devices a = some t) : t.left devices.length < s.left devices.length := by
  cases a with
  | main => exact left_mainStep h hstep
  | worker i answer =>
    obtain ⟨hmain, dev, hdev, hworker⟩ := step_worker hstep
    exact left_workerStep h hdev hmain hworker

/-! ## Who calls `amcupd::init` -/

/-- One thread at most calls `amcupd::init`, and the others know of it. -/
structure Once (n : Nat) (s : UpdateRun) : Prop where
  running : s.init = .running → ∃ i < n, (s.phase i).Initialising
  initialising : ∀ i, (s.phase i).Initialising → s.init = .running
  unique : ∀ i j, (s.phase i).Initialising → (s.phase j).Initialising → i = j

theorem once_start (job : Job) (n : Nat) : Once n (.start job) where
  running h := by
    cases hinit : job.initFailed with
    | none => simp [UpdateRun.start, hinit] at h
    | some failed => simp [UpdateRun.start, hinit] at h
  initialising i h := h.elim
  unique i j h := h.elim

/-- A thread goes from one phase to another, neither of which is that of `amcupd::init`. -/
theorem Once.update {n : Nat} {next : Phase} (h : Once n s) (hi : ¬(s.phase i).Initialising)
    (hnext : ¬next.Initialising) (hphase : t.phase = Function.update s.phase i next)
    (hinit : t.init = s.init) : Once n t := by
  have hsame (j : Nat) : (t.phase j).Initialising ↔ (s.phase j).Initialising := by
    rw [hphase]
    by_cases hj : j = i
    · subst hj
      rw [Function.update_self]
      exact iff_of_false hnext hi
    · rw [Function.update_of_ne hj]
  refine ⟨fun hrunning => ?_, fun j hj => ?_, fun j k hj hk => ?_⟩
  · obtain ⟨j, hlt, hj⟩ := h.running (hinit.symm.trans hrunning)
    exact ⟨j, hlt, (hsame j).mpr hj⟩
  · exact hinit.trans (h.initialising j ((hsame j).mp hj))
  · exact h.unique j k ((hsame j).mp hj) ((hsame k).mp hk)

/-- One caller at most, step by step. -/
theorem Once.step {as : List Action} {a : Action} (h : Once devices.length s)
    (hinv : s.Inv job devices as) (hstep : s.step job devices a = some t) :
    Once devices.length t := by
  cases a with
  | main =>
    obtain ⟨hinit, -, -, -, hphase | ⟨k, hunborn, hphase⟩⟩ := mainStep_frame hinv hstep
    · exact ⟨by rw [hinit, hphase]; exact h.running, by rw [hinit, hphase]; exact h.initialising,
        by rw [hphase]; exact h.unique⟩
    · exact h.update (by simp [hunborn, Phase.Initialising]) (by simp [Phase.Initialising]) hphase hinit
  | worker i answer =>
    obtain ⟨-, dev, hdev, hworker⟩ := step_worker hstep
    have hi : i < devices.length := (List.getElem?_eq_some_iff.mp hdev).1
    obtain ⟨hphase, -, rfl⟩ | ⟨hphase, -, rfl⟩ | ⟨p, hp, rfl⟩ | ⟨-, rfl⟩ := workerStep_cases hworker
    · exact h.update (by simp [hphase, Phase.Initialising]) (by simp [Phase.Initialising]) rfl rfl
    · exact h.update (by simp [hphase, Phase.Initialising]) (by simp [Phase.Initialising]) rfl rfl
    · obtain ⟨hchange, hbefore, hafter⟩ | ⟨hchange, hinit, hbefore, hafter⟩ |
        ⟨⟨failed, hchange⟩, hbefore, hafter⟩ := (step_rank hp).2
      · exact h.update hbefore hafter rfl (by rw [UpdateRun.progress, hchange]; rfl)
      · -- the first thread: none has been there
        have hnone (j : Nat) : ¬(s.phase j).Initialising := fun hj => by
          have hrunning := h.initialising j hj
          rw [hinit] at hrunning
          cases hrunning
        have honly (j : Nat) (hj : ((s.progress i p).phase j).Initialising) : j = i := by
          by_contra hne
          rw [UpdateRun.progress] at hj
          dsimp only at hj
          rw [Function.update_of_ne hne] at hj
          exact hnone j hj
        refine ⟨fun _ => ⟨i, hi, ?_⟩, fun j hj => ?_, fun j k hj hk => ?_⟩
        · rw [UpdateRun.progress]
          dsimp only
          rwa [Function.update_self]
        · rw [UpdateRun.progress, hchange]
          rfl
        · exact (honly j hj).trans (honly k hk).symm
      · -- the call ends: no other thread is there
        have hnone (j : Nat) : ¬((s.progress i p).phase j).Initialising := fun hj => by
          rw [UpdateRun.progress] at hj
          dsimp only at hj
          by_cases hne : j = i
          · subst hne
            rw [Function.update_self] at hj
            exact hafter hj
          · rw [Function.update_of_ne hne] at hj
            exact hne (h.unique j i hj hbefore)
        refine ⟨fun hrunning => ?_, fun j hj => absurd hj (hnone j), fun j k hj => absurd hj (hnone j)⟩
        rw [UpdateRun.progress, hchange] at hrunning
        cases hrunning
    · exact ⟨h.running, h.initialising, h.unique⟩

theorem once_of_follow {as : List Action}
    (h : follow (UpdateRun.step job devices) (.start job) as = some s) : Once devices.length s := by
  induction as using List.reverseRecOn generalizing s with
  | nil =>
    obtain rfl := Option.some.inj h
    exact once_start job _
  | append_singleton as a ih =>
    rw [follow_concat] at h
    obtain ⟨u, hrun, hstep⟩ := Option.bind_eq_some_iff.mp h
    exact (ih hrun).step (inv_of_follow hrun) hstep

/-! ## No run is stuck -/

/-- The main thread goes on, or a thread does whatever it is answered. -/
def UpdateRun.GoesOn (job : Job) (devices : List UpdateDevice) (s : UpdateRun) : Prop :=
  (s.step job devices .main).isSome ∨
    ∃ i, (∃ answer, (s.phase i).Asks answer) ∧
      ∀ answer, (s.phase i).Asks answer → (s.step job devices (.worker i answer)).isSome

theorem exists_asks (hborn : phase ≠ .unborn) (hended : phase.ended = false) :
    ∃ answer, phase.Asks answer := by
  cases phase with
  | unborn => exact absurd rfl hborn
  | failed => cases hended
  | finished => cases hended
  | initialising | amcFlashing => exact ⟨.amc true, trivial⟩
  | querying | flashing => exact ⟨.ze .success, trivial⟩
  | _ => exact ⟨.none, trivial⟩

/-- A thread that has not ended goes on, unless it waits for `amcupd::init`. -/
theorem worker_goesOn (hmain : s.main ≠ .terminated) (hi : i < devices.length)
    (hborn : s.phase i ≠ .unborn) (hended : (s.phase i).ended = false)
    (hinit : (s.phase i).Initialising ∨ s.init ≠ .running) : s.GoesOn job devices := by
  refine .inr ⟨i, exists_asks hborn hended, fun answer hasks => ?_⟩
  have hdev : devices[i]? = some devices[i] := List.getElem?_eq_getElem hi
  have hstep : s.step job devices (.worker i answer) = s.workerStep job devices[i] i answer := by
    rw [UpdateRun.step, hdev]
    split
    case h_1 hterminated => exact absurd hterminated hmain
    case h_2 hnone hrunning => cases hnone
    case h_3 hsome hrunning => rw [Option.some.inj hsome]
  rw [hstep]
  -- `counting` and `failing` are steps of the thread itself, all others those of `Phase.step`
  by_cases hcounting : s.phase i = .counting
  · rw [hcounting] at hasks
    cases answer with
    | none =>
      simp [UpdateRun.workerStep, hcounting]
    | _ => exact hasks.elim
  · by_cases hfailing : s.phase i = .failing
    · rw [hfailing] at hasks
      cases answer with
      | none =>
        simp [UpdateRun.workerStep, hfailing]
      | _ => exact hasks.elim
    · have hsteps : ((s.phase i).step job devices[i] s.init answer).isSome :=
        step_isSome hasks ⟨hcounting, hfailing⟩ hinit
      obtain ⟨outcome, houtcome⟩ := Option.isSome_iff_exists.mp hsteps
      exact workerStep_isSome houtcome

/-- **No run is stuck, and every run ends.** A run with `n` devices has at most `10 * n + 2` steps; until
the command has ended, the main thread can go on, or a thread can, whatever it is answered. -/
theorem updateFw_ends (job : Job) (devices : List UpdateDevice) {as : List Action}
    (hrun : follow (UpdateRun.step job devices) (.start job) as = some s) :
    as.length ≤ 10 * devices.length + 2 ∧ (s.main.Over ∨ s.GoesOn job devices) := by
  have hinv := inv_of_follow hrun
  have honce := once_of_follow hrun
  refine ⟨?_, ?_⟩
  · have hless : ∀ (s : UpdateRun) (a : Action) t, (∃ as, s.Inv job devices as) →
        UpdateRun.step job devices s a = some t →
          (∃ as, t.Inv job devices as) ∧ t.left devices.length < s.left devices.length := by
      rintro s a t ⟨as, hs⟩ hstep
      exact ⟨⟨as ++ [a], hs.step hstep⟩, left_step hs hstep⟩
    have hlength := follow_length_le hless ⟨[], inv_start job devices⟩ hrun
    have hstart : (UpdateRun.start job).left devices.length = 10 * devices.length + 2 := by
      simp [UpdateRun.left, UpdateRun.start, MainPhase.left, Phase.rank]
      ring
    omega
  · have hmainOk := hinv.main
    cases hmain : s.main with
    | returned code printed => exact .inl trivial
    | terminated => exact .inl trivial
    | spawning k =>
      refine .inr (.inl ?_)
      change (s.mainStep devices.length).isSome
      rw [UpdateRun.mainStep, hmain]
      dsimp only
      split
      · rfl
      · rfl
    | joining k =>
      rw [hmain] at hmainOk
      have hnot : s.main ≠ .terminated := by rw [hmain]; simp
      by_cases hk : k < devices.length
      · by_cases hended : (s.phase k).ended
        · refine .inr (.inl ?_)
          change (s.mainStep devices.length).isSome
          rw [UpdateRun.mainStep, hmain]
          dsimp only
          rw [if_pos hk, if_pos hended]
          rfl
        · by_cases hinit : s.init = .running
          · -- the thread may wait for the one that calls `amcupd::init`
            obtain ⟨i, hi, hinitialising⟩ := honce.running hinit
            refine .inr (worker_goesOn hnot hi (hmainOk.1 i hi) ?_ (.inl hinitialising))
            cases hphase : s.phase i <;> simp_all [Phase.Initialising, Phase.ended]
          · exact .inr (worker_goesOn hnot hk (hmainOk.1 k hk) (by simpa using hended) (.inr hinit))
      · refine .inr (.inl ?_)
        change (s.mainStep devices.length).isSome
        rw [UpdateRun.mainStep, hmain]
        dsimp only
        rw [if_neg hk]
        split
        · rfl
        · rfl

end

/-- Two devices whose graphics firmware is flashed. -/
def gfxJob : Job := ⟨"GFX".toList, "image.bin".toList, ⟨some true, true, [0x24, 0x46]⟩, 0, none⟩

/-- Two devices with a handle. -/
def gfxDevices : List UpdateDevice := List.replicate 2 ⟨some fun _ => ⟨some 1, [], []⟩, none⟩

/-- The second thread is the first to run. -/
def gfxActions : List Action := List.replicate 3 .main ++ flashAnswers.map (.worker 1) ++
  flashAnswers.map (.worker 0) ++ List.replicate 3 .main

theorem updateFw_ends_gfx : ∃ s,
    follow (UpdateRun.step gfxJob gfxDevices) (.start gfxJob) gfxActions = some s ∧
      gfxActions.length ≤ 10 * gfxDevices.length + 2 ∧
        (s.main.Over ∨ s.GoesOn gfxJob gfxDevices) :=
  ⟨_, rfl, updateFw_ends gfxJob gfxDevices rfl⟩

section

variable {job : Job} {devices : List UpdateDevice} {dev : UpdateDevice} {s t : UpdateRun}
  {phase next : Phase} {answer : Answer} {init : InitState} {p : Progress} {i : Nat}

/-! ## The numbers of the threads -/

/-- The thread has got its number. -/
def Phase.Begun : Phase → Prop
  | .unborn | .counting => False
  | _ => True

theorem begun_of_rank_lt (h : next.rank < phase.rank) : next.Begun := by
  have hle : phase.rank ≤ 8 := by
    cases phase with
    | _ => simp [Phase.rank]
  cases next with
  | unborn => exact absurd hle (not_le.mpr h)
  | counting => exact absurd hle (not_le.mpr h)
  | _ => trivial

theorem begun_of_step {outcome : Outcome Progress}
    (h : phase.step job dev init answer = some outcome) : phase.Begun := by
  cases phase with
  | unborn => cases answer <;> cases h
  | counting => cases answer <;> cases h
  | _ => trivial

/-- The threads that have begun have numbers of their own, below `curThread`. -/
structure Numbers (n : Nat) (s : UpdateRun) : Prop where
  begun : ∀ i, (s.number i).isSome ↔ (s.phase i).Begun
  inj : ∀ i j k, s.number i = some k → s.number j = some k → i = j
  lt : ∀ i k, s.number i = some k → k < s.curThread
  card : ((Finset.range n).filter fun i => (s.number i).isSome).card = s.curThread

theorem numbers_start (job : Job) (n : Nat) : Numbers n (.start job) where
  begun i := by simp [UpdateRun.start, Phase.Begun]
  inj i j k h := by cases h
  lt i k h := by cases h
  card := by simp [UpdateRun.start]

/-- A thread goes from one phase to another, and keeps its number or its want of one. -/
theorem Numbers.update {n : Nat} (h : Numbers n s) (hbegun : (s.phase i).Begun ↔ next.Begun)
    (hphase : t.phase = Function.update s.phase i next) (hnumber : t.number = s.number)
    (hcur : t.curThread = s.curThread) : Numbers n t := by
  refine ⟨fun j => ?_, ?_, ?_, ?_⟩
  · rw [hnumber, hphase, h.begun j]
    by_cases hj : j = i
    · subst hj
      rw [Function.update_self]
      exact hbegun
    · rw [Function.update_of_ne hj]
  · rw [hnumber]
    exact h.inj
  · rw [hnumber, hcur]
    exact h.lt
  · rw [hnumber, hcur]
    exact h.card

/-- **`curThread.fetch_add`.** -/
theorem Numbers.count {n : Nat} (h : Numbers n s) (hi : i < n) (hphase : s.phase i = .counting) :
    Numbers n { s with
      phase := Function.update s.phase i .starting
      number := Function.update s.number i (some s.curThread)
      curThread := s.curThread + 1 } := by
  have hnone : s.number i = none := by
    rw [← Option.not_isSome_iff_eq_none, h.begun i, hphase]
    exact id
  refine ⟨fun j => ?_, fun j k m hj hk => ?_, fun j k hj => ?_, ?_⟩
  · by_cases hj : j = i
    · subst hj
      simp [Phase.Begun]
    · dsimp only
      rw [Function.update_of_ne hj, Function.update_of_ne hj]
      exact h.begun j
  · -- no other thread has the number that this one gets
    dsimp only at hj hk
    by_cases hji : j = i
    · by_cases hki : k = i
      · rw [hji, hki]
      · rw [hji, Function.update_self] at hj
        rw [Function.update_of_ne hki] at hk
        obtain rfl := Option.some.inj hj
        exact absurd (h.lt k _ hk) (lt_irrefl _)
    · rw [Function.update_of_ne hji] at hj
      by_cases hki : k = i
      · rw [hki, Function.update_self] at hk
        obtain rfl := Option.some.inj hk
        exact absurd (h.lt j _ hj) (lt_irrefl _)
      · rw [Function.update_of_ne hki] at hk
        exact h.inj j k m hj hk
  · dsimp only at hj
    by_cases hji : j = i
    · rw [hji, Function.update_self] at hj
      obtain rfl := Option.some.inj hj
      exact Nat.lt_succ_self _
    · rw [Function.update_of_ne hji] at hj
      exact Nat.lt_succ_of_lt (h.lt j k hj)
  · have hinsert : ((Finset.range n).filter fun j =>
        (Function.update s.number i (some s.curThread) j).isSome) =
          insert i ((Finset.range n).filter fun j => (s.number j).isSome) := by
      ext j
      by_cases hj : j = i
      · subst hj
        simp [hi]
      · simp [hj]
    dsimp only
    rw [hinsert, Finset.card_insert_of_notMem (by simp [hnone]), h.card]

/-- The numbers stay distinct, step by step. -/
theorem Numbers.step {as : List Action} {a : Action} (h : Numbers devices.length s)
    (hinv : s.Inv job devices as) (hstep : s.step job devices a = some t) :
    Numbers devices.length t := by
  cases a with
  | main =>
    obtain ⟨-, hnumber, hcur, -, hphase | ⟨k, hunborn, hphase⟩⟩ := mainStep_frame hinv hstep
    · refine ⟨?_, ?_, ?_, ?_⟩
      · rw [hnumber, hphase]
        exact h.begun
      · rw [hnumber]
        exact h.inj
      · rw [hnumber, hcur]
        exact h.lt
      · rw [hnumber, hcur]
        exact h.card
    · exact h.update (by simp [hunborn, Phase.Begun]) hphase hnumber hcur
  | worker i answer =>
    obtain ⟨-, dev, hdev, hworker⟩ := step_worker hstep
    have hi : i < devices.length := (List.getElem?_eq_some_iff.mp hdev).1
    obtain ⟨hphase, -, rfl⟩ | ⟨hphase, -, rfl⟩ | ⟨p, hp, rfl⟩ | ⟨-, rfl⟩ := workerStep_cases hworker
    · exact h.count hi hphase
    · exact h.update (by simp [hphase, Phase.Begun]) rfl rfl rfl
    · have hbegun := begun_of_rank_lt (step_rank hp).1
      exact h.update (iff_of_true (begun_of_step hp) hbegun) rfl rfl rfl
    · exact ⟨h.begun, h.inj, h.lt, h.card⟩

/-- Over a run, by induction. -/
theorem numbers_of_follow {as : List Action}
    (h : follow (UpdateRun.step job devices) (.start job) as = some s) :
    Numbers devices.length s := by
  induction as using List.reverseRecOn generalizing s with
  | nil =>
    obtain rfl := Option.some.inj h
    exact numbers_start job _
  | append_singleton as a ih =>
    rw [follow_concat] at h
    obtain ⟨u, hrun, hstep⟩ := Option.bind_eq_some_iff.mp h
    exact (ih hrun).step (inv_of_follow hrun) hstep

theorem begun_of_ended (h : phase.ended) : phase.Begun := by
  cases phase with
  | failed => trivial
  | finished => trivial
  | _ => cases h

/-- **The lines of the progress display.** Whatever the order of the threads, those of a command that has
ended were numbered from 0 on, each with a number of its own, and none is left out. -/
theorem updateFw_numbers (job : Job) (devices : List UpdateDevice) {as : List Action} {code : ZeResult}
    {printed : Bool} (hrun : follow (UpdateRun.step job devices) (.start job) as = some s)
    (hmain : s.main = .returned code printed) :
    (∀ i < devices.length, ∃ k < devices.length, s.number i = some k) ∧
      ∀ k < devices.length, ∃! i, i < devices.length ∧ s.number i = some k := by
  have hnumbers := numbers_of_follow hrun
  have hmainOk := (inv_of_follow hrun).main
  rw [hmain] at hmainOk
  have hsome (i : Nat) (hi : i < devices.length) : (s.number i).isSome :=
    (hnumbers.begun i).mpr (begun_of_ended (hmainOk.1 i hi))
  have hcur : s.curThread = devices.length := by
    rw [← hnumbers.card, Finset.filter_true_of_mem fun i hi => hsome i (Finset.mem_range.mp hi),
      Finset.card_range]
  have hnumber (i : Nat) (hi : i < devices.length) : ∃ k < devices.length, s.number i = some k := by
    obtain ⟨k, hk⟩ := Option.isSome_iff_exists.mp (hsome i hi)
    exact ⟨k, hcur ▸ hnumbers.lt i k hk, hk⟩
  refine ⟨hnumber, fun k hk => ?_⟩
  -- as many numbers as threads
  have hsurj : Set.SurjOn (fun i => (s.number i).getD 0) (Finset.range devices.length)
      (Finset.range devices.length) := by
    refine Finset.surjOn_of_injOn_of_card_le _ (fun i hi => ?_) (fun i hi j hj hij => ?_) le_rfl
    · obtain ⟨m, hm, hget⟩ := hnumber i (Finset.mem_range.mp hi)
      simpa [hget] using hm
    · obtain ⟨m, -, hget⟩ := hnumber i (Finset.mem_range.mp hi)
      obtain ⟨m', -, hget'⟩ := hnumber j (Finset.mem_range.mp hj)
      have hsame : m = m' := by simpa [hget, hget'] using hij
      exact hnumbers.inj i j m hget (hsame ▸ hget')
  obtain ⟨i, hi, hik⟩ := hsurj (Finset.mem_coe.mpr (Finset.mem_range.mpr hk))
  have hi : i < devices.length := Finset.mem_range.mp hi
  obtain ⟨m, -, hget⟩ := hnumber i hi
  have hmk : m = k := by simpa [hget] using hik
  refine ⟨i, ⟨hi, hmk ▸ hget⟩, fun j hj => hnumbers.inj j i k hj.2 (hmk ▸ hget)⟩

theorem updateFw_numbers_gfx : ∃ s,
    follow (UpdateRun.step gfxJob gfxDevices) (.start gfxJob) gfxActions = some s ∧
      s.main = .returned .success true ∧ s.number 0 = some 1 ∧
        (∀ i < gfxDevices.length, ∃ k < gfxDevices.length, s.number i = some k) ∧
          ∀ k < gfxDevices.length, ∃! i, i < gfxDevices.length ∧ s.number i = some k := by
  have hrun : follow (UpdateRun.step gfxJob gfxDevices) (.start gfxJob) gfxActions = some _ := rfl
  exact ⟨_, hrun, rfl, rfl, updateFw_numbers gfxJob gfxDevices hrun rfl⟩

/-! ## The call of `amcupd::init` -/

/-- How the driver answers `amcupd::init` in a step, if it does. -/
def UpdateRun.initAnswer (s : UpdateRun) : Action → Option Bool
  | .worker i (.amc success) =>
    match s.phase i with
    | .initialising _ _ => some success
    | _ => none
  | _ => none

/-- How `amcupd::init` is answered in the steps of a run. -/
def initAnswers (job : Job) (devices : List UpdateDevice) : UpdateRun → List Action → List Bool
  | _, [] => []
  | s, a :: as => (s.initAnswer a).toList ++
    ((s.step job devices a).map fun t => initAnswers job devices t as).getD []

/-- What the calls of `amcupd::init` have come to. -/
def Called (job : Job) (init : InitState) (answers : List Bool) : Prop :=
  (∃ failed, job.initFailed = some failed ∧ answers = [] ∧ init = .done failed) ∨
    (job.initFailed = none ∧ answers = [] ∧ ∀ failed, init ≠ .done failed) ∨
      ∃ success, job.initFailed = none ∧ answers = [success] ∧ init = .done (!success)

theorem called_start (job : Job) : Called job (UpdateRun.start job).init [] := by
  cases h : job.initFailed with
  | none => exact .inr (.inl ⟨h, rfl, by simp [UpdateRun.start, h]⟩)
  | some failed => exact .inl ⟨failed, h, rfl, by simp [UpdateRun.start, h]⟩

theorem initAnswer_of_not (h : ¬(s.phase i).Initialising) : s.initAnswer (.worker i answer) = none := by
  cases answer with
  | amc success =>
    cases hphase : s.phase i with
    | initialising row handle =>
      rw [hphase] at h
      exact absurd trivial h
    | _ => simp [UpdateRun.initAnswer, hphase]
  | _ => rfl

theorem initAnswer_of_step {outcome : Outcome Progress} (h : (s.phase i).Initialising)
    (hstep : (s.phase i).step job dev s.init answer = some outcome) : ∃ success p,
      s.initAnswer (.worker i answer) = some success ∧ outcome = .ret p ∧
        p.init = some (.done (!success)) := by
  cases hphase : s.phase i with
  | initialising row handle =>
    rw [hphase] at hstep
    cases answer with
    | amc success =>
      obtain rfl := Option.some.inj hstep
      exact ⟨success, _, by simp [UpdateRun.initAnswer, hphase], rfl, rfl⟩
    | _ => cases hstep
  | _ =>
    rw [hphase] at h
    exact h.elim

/-- The initialisation sees the answers of the run in their order. -/
theorem Called.step {as : List Action} {a : Action} {answers : List Bool} (h : Called job s.init answers)
    (hinv : s.Inv job devices as) (honce : Once devices.length s)
    (hstep : s.step job devices a = some t) :
    Called job t.init (answers ++ (s.initAnswer a).toList) := by
  have hkept (ha : s.initAnswer a = none) (hinit : t.init = s.init) :
      Called job t.init (answers ++ (s.initAnswer a).toList) := by
    rw [ha, hinit, Option.toList_none, List.append_nil]
    exact h
  cases a with
  | main => exact hkept rfl (mainStep_frame hinv hstep).1
  | worker i answer =>
    obtain ⟨-, dev, -, hworker⟩ := step_worker hstep
    obtain ⟨hphase, -, rfl⟩ | ⟨hphase, -, rfl⟩ | ⟨p, hp, rfl⟩ | ⟨hfault, rfl⟩ := workerStep_cases hworker
    · exact hkept (initAnswer_of_not (by simp [hphase, Phase.Initialising])) rfl
    · exact hkept (initAnswer_of_not (by simp [hphase, Phase.Initialising])) rfl
    · obtain ⟨hchange, hbefore, -⟩ | ⟨hchange, hinit, hbefore, -⟩ | ⟨-, hbefore, -⟩ := (step_rank hp).2
      · exact hkept (initAnswer_of_not hbefore) (by rw [UpdateRun.progress, hchange]; rfl)
      · -- the call begins: there has been none
        rw [initAnswer_of_not hbefore, Option.toList_none, List.append_nil]
        rw [UpdateRun.progress, hchange]
        rw [hinit] at h
        obtain ⟨failed, -, -, hdone⟩ | ⟨hfresh, hnone, -⟩ | ⟨success, -, -, hdone⟩ := h
        · cases hdone
        · exact .inr (.inl ⟨hfresh, hnone, by simp⟩)
        · cases hdone
      · -- the call ends, which was the only one
        have hrunning := honce.initialising i hbefore
        obtain ⟨success, p', hanswer, hret, hdone⟩ := initAnswer_of_step hbefore hp
        obtain rfl := Outcome.ret.inj hret
        rw [hanswer, UpdateRun.progress, hdone]
        rw [hrunning] at h
        obtain ⟨failed, -, -, hdone⟩ | ⟨hfresh, rfl, -⟩ | ⟨success, -, -, hdone⟩ := h
        · cases hdone
        · exact .inr (.inr ⟨success, hfresh, rfl, rfl⟩)
        · cases hdone
    · have hbefore : ¬(s.phase i).Initialising := fun hbefore => by
        obtain ⟨success, p, -, hret, -⟩ := initAnswer_of_step hbefore hfault
        cases hret
      exact hkept (initAnswer_of_not hbefore) rfl

/-- The same over a run, by induction on its actions. -/
theorem called_of_follow {bs as : List Action} {answers : List Bool}
    (hreach : follow (UpdateRun.step job devices) (.start job) bs = some s)
    (h : Called job s.init answers) (hrun : follow (UpdateRun.step job devices) s as = some t) :
    Called job t.init (answers ++ initAnswers job devices s as) := by
  induction as generalizing s bs answers with
  | nil =>
    obtain rfl := Option.some.inj hrun
    rw [initAnswers, List.append_nil]
    exact h
  | cons a as ih =>
    obtain ⟨u, hstep, hrest⟩ := Option.bind_eq_some_iff.mp hrun
    have hu := h.step (inv_of_follow hreach) (once_of_follow hreach) hstep
    have hreach' : follow (UpdateRun.step job devices) (.start job) (bs ++ [a]) = some u := by
      rw [follow_concat, hreach, Option.bind_some, hstep]
    have hall := ih hreach' hu hrest
    rw [initAnswers, hstep, Option.map_some, Option.getD_some, ← List.append_assoc]
    exact hall

/-- A thread that hands an image to a card has called `amcupd::init`, or found that another has, and it
has not failed. -/
structure InitPassed (s : UpdateRun) : Prop where
  updating : ∀ i row handle, s.phase i = .updating row handle → row.preUpdateFunc = .init →
    s.init = .done false
  amcFlashing : ∀ i amcIndex, s.phase i = .amcFlashing amcIndex → s.init = .done false
  flashes : ∀ i amcIndex filePath success, (i, .amcFirmwareFlash amcIndex filePath success) ∈ s.flashes →
    s.init = .done false

theorem updateFunc_of_amcFlashing {row : Row} {handle : Option Handle} {amcIndex : Nat}
    (h : startFlash job dev row handle = .ret (.amcFlashing amcIndex)) : row.updateFunc = .updateAMC := by
  unfold startFlash at h
  split at h
  case h_1 => cases h
  case h_2 =>
    split at h
    all_goals cases h
  case h_3 hfunc => exact hfunc

/-- How a thread gets to a card. -/
theorem step_passed (h : phase.step job dev init answer = some (.ret p)) :
    (∀ row handle, p.phase = .updating row handle → row.preUpdateFunc = .init →
        p.init.getD init = .done false) ∧
      (∀ amcIndex, p.phase = .amcFlashing amcIndex → ∃ row handle,
        phase = .updating row handle ∧ row.updateFunc = .updateAMC) ∧
      ∀ amcIndex filePath success, p.flash = some (.amcFirmwareFlash amcIndex filePath success) →
        phase = .amcFlashing amcIndex := by
  unfold Phase.step at h
  split at h
  case h_1 =>
    obtain rfl := Outcome.ret.inj (Option.some.inj h)
    obtain ⟨hnext, -⟩ | ⟨row, handle, hnext⟩ := startUpdate_cases job dev
    · simp [hnext]
    · simp [hnext]
  case h_2 row handle =>
    split at h
    case h_1 hsuccess =>
      obtain rfl := Outcome.ret.inj (Option.some.inj h)
      refine ⟨fun row' handle' hnext hpre => ?_, by simp, by simp⟩
      obtain ⟨rfl, -⟩ := Phase.updating.inj hnext
      rw [hsuccess] at hpre
      cases hpre
    case h_2 =>
      obtain ⟨q, hq, hp⟩ := Option.map_eq_some_iff.mp h
      obtain rfl := Outcome.ret.inj hp
      unfold startInit at hq
      split at hq
      case h_2 => cases hq
      all_goals
        obtain rfl := Option.some.inj hq
        simp
  case h_3 =>
    obtain rfl := Outcome.ret.inj (Option.some.inj h)
    rename_i success
    cases success with
    | true => simp
    | false => simp
  case h_4 row handle =>
    split at h
    case h_1 next hnext =>
      obtain rfl := Outcome.ret.inj (Option.some.inj h)
      refine ⟨fun row' handle' hnot => ?_, fun amcIndex hamc => ?_, by simp⟩
      · have hrank := (startFlash_rank hnext).1
        dsimp only at hnot
        rw [hnot] at hrank
        exact absurd hrank (lt_irrefl _)
      · dsimp only at hamc
        rw [hamc] at hnext
        exact ⟨row, handle, rfl, updateFunc_of_amcFlashing hnext⟩
    case h_2 => cases h
    case h_3 => cases h
  case h_8 => cases h
  all_goals
    obtain rfl := Outcome.ret.inj (Option.some.inj h)
    dsimp only
    split
    · simp
    · simp

/-- What `amcupd::init` has come to, it stays. -/
theorem init_of_step {failed : Bool} (honce : Once devices.length s)
    (hp : (s.phase i).step job dev s.init answer = some (.ret p)) (hdone : s.init = .done failed) :
    p.init.getD s.init = .done failed := by
  obtain ⟨hchange, -⟩ | ⟨-, hinit, -⟩ | ⟨-, hbefore, -⟩ := (step_rank hp).2
  · rw [hchange]
    exact hdone
  · rw [hinit] at hdone
    cases hdone
  · rw [honce.initialising i hbefore] at hdone
    cases hdone

/-- A thread goes from one phase to another, neither of which is on the way to a card. -/
theorem InitPassed.update (h : InitPassed s) (hupdating : ∀ row handle, next ≠ .updating row handle)
    (hamc : ∀ amcIndex, next ≠ .amcFlashing amcIndex)
    (hphase : t.phase = Function.update s.phase i next) (hinit : t.init = s.init)
    (hflashes : t.flashes = s.flashes) : InitPassed t := by
  refine ⟨fun j row handle hj => ?_, fun j amcIndex hj => ?_, ?_⟩
  · rw [hphase] at hj
    rw [hinit]
    by_cases hji : j = i
    · rw [hji, Function.update_self] at hj
      exact absurd hj (hupdating row handle)
    · rw [Function.update_of_ne hji] at hj
      exact h.updating j row handle hj
  · rw [hphase] at hj
    rw [hinit]
    by_cases hji : j = i
    · rw [hji, Function.update_self] at hj
      exact absurd hj (hamc amcIndex)
    · rw [Function.update_of_ne hji] at hj
      exact h.amcFlashing j amcIndex hj
  · rw [hflashes, hinit]
    exact h.flashes

/-- **A step of `updateFW`** on the way to a card. -/
theorem InitPassed.progress {as : List Action} (h : InitPassed s) (hinv : s.Inv job devices as)
    (honce : Once devices.length s) (hdev : devices[i]? = some dev)
    (hp : (s.phase i).step job dev s.init answer = some (.ret p)) : InitPassed (s.progress i p) := by
  obtain ⟨hupdating, hamc, hflash⟩ := step_passed hp
  refine ⟨fun j row handle hj hpre => ?_, fun j amcIndex hj => ?_, fun j amcIndex path ok hmem => ?_⟩
  · dsimp only [UpdateRun.progress] at hj ⊢
    by_cases hji : j = i
    · rw [hji, Function.update_self] at hj
      exact hupdating row handle hj hpre
    · rw [Function.update_of_ne hji] at hj
      exact init_of_step honce hp (h.updating j row handle hj hpre)
  · dsimp only [UpdateRun.progress] at hj ⊢
    refine init_of_step honce hp ?_
    by_cases hji : j = i
    · rw [hji, Function.update_self] at hj
      obtain ⟨row, handle, hphase, hfunc⟩ := hamc amcIndex hj
      have hok := hinv.phases i dev hdev
      rw [hphase] at hok
      obtain ⟨-, -, hpassed⟩ := hok
      obtain ⟨-, -, hrow, -⟩ := started_spec hpassed.started
      have hmem := methods_of_mem (mem_of_findRow hrow)
      exact h.updating i row handle hphase (hmem.1.mpr (hmem.2.mp hfunc))
    · rw [Function.update_of_ne hji] at hj
      exact h.amcFlashing j amcIndex hj
  · dsimp only [UpdateRun.progress] at hmem ⊢
    refine init_of_step honce hp ?_
    rcases List.mem_append.mp hmem with hmem | hmem
    · exact h.flashes j amcIndex path ok hmem
    · obtain ⟨flash, hflash', heq⟩ := Option.map_eq_some_iff.mp (Option.mem_toList.mp hmem)
      obtain ⟨-, rfl⟩ := Prod.mk.inj heq
      exact h.amcFlashing i amcIndex (hflash amcIndex path ok hflash')

/-- Step by step. -/
theorem InitPassed.step {as : List Action} {a : Action} (h : InitPassed s) (hinv : s.Inv job devices as)
    (honce : Once devices.length s) (hstep : s.step job devices a = some t) : InitPassed t := by
  cases a with
  | main =>
    obtain ⟨hinit, -, -, hflashes, hphase | ⟨k, -, hphase⟩⟩ := mainStep_frame hinv hstep
    · exact ⟨by rw [hinit, hphase]; exact h.updating, by rw [hinit, hphase]; exact h.amcFlashing,
        by rw [hinit, hflashes]; exact h.flashes⟩
    · exact h.update (by simp) (by simp) hphase hinit hflashes
  | worker i answer =>
    obtain ⟨-, dev, hdev, hworker⟩ := step_worker hstep
    obtain ⟨-, -, rfl⟩ | ⟨-, -, rfl⟩ | ⟨p, hp, rfl⟩ | ⟨-, rfl⟩ := workerStep_cases hworker
    · exact h.update (by simp) (by simp) rfl rfl rfl
    · exact h.update (by simp) (by simp) rfl rfl rfl
    · exact h.progress hinv honce hdev hp
    · exact ⟨h.updating, h.amcFlashing, h.flashes⟩

theorem initPassed_of_follow {as : List Action}
    (h : follow (UpdateRun.step job devices) (.start job) as = some s) : InitPassed s := by
  induction as using List.reverseRecOn generalizing s with
  | nil =>
    obtain rfl := Option.some.inj h
    exact ⟨by simp [UpdateRun.start], by simp [UpdateRun.start], by simp [UpdateRun.start]⟩
  | append_singleton as a ih =>
    rw [follow_concat] at h
    obtain ⟨u, hrun, hstep⟩ := Option.bind_eq_some_iff.mp h
    exact (ih hrun).step (inv_of_follow hrun) (once_of_follow hrun) hstep

/-- **`amcupd::init` once.** However many threads there are and whatever their order, the cards are
initialised once at most, and not where that has been done before the command. An image is handed to a card
only where that call has succeeded. -/
theorem updateFw_init (job : Job) (devices : List UpdateDevice) {as : List Action}
    (hrun : follow (UpdateRun.step job devices) (.start job) as = some s) :
    (initAnswers job devices (.start job) as).length ≤ 1 ∧
      (job.initFailed.isSome → initAnswers job devices (.start job) as = []) ∧
      ∀ i amcIndex filePath success, (i, .amcFirmwareFlash amcIndex filePath success) ∈ s.flashes →
        job.initFailed = some false ∨ initAnswers job devices (.start job) as = [true] := by
  have hreach : follow (UpdateRun.step job devices) (.start job) [] = some (.start job) := rfl
  have hcalled := called_of_follow hreach (called_start job) hrun
  rw [List.nil_append] at hcalled
  have hpassed := initPassed_of_follow hrun
  obtain ⟨failed, hfailed, hnone, hinit⟩ | ⟨hfresh, hnone, hinit⟩ | ⟨success, hfresh, hone, hinit⟩ := hcalled
  · refine ⟨by rw [hnone]; exact Nat.zero_le _, fun _ => hnone, fun i amcIndex path ok hmem => .inl ?_⟩
    have hdone := hpassed.flashes i amcIndex path ok hmem
    rw [hinit] at hdone
    rw [hfailed, InitState.done.inj hdone]
  · refine ⟨by rw [hnone]; exact Nat.zero_le _, fun _ => hnone, fun i amcIndex path ok hmem => ?_⟩
    exact absurd (hpassed.flashes i amcIndex path ok hmem) (hinit false)
  · refine ⟨by rw [hone]; exact le_rfl, fun hsome => ?_, fun i amcIndex path ok hmem => .inr ?_⟩
    · rw [hfresh] at hsome
      cases hsome
    · have hdone := hpassed.flashes i amcIndex path ok hmem
      rw [hinit] at hdone
      have hsuccess : success = true := by simpa using InitState.done.inj hdone
      rw [hone, hsuccess]

end

/-- Two devices with a card each: the second thread initialises them, and the first finds that done. -/
def amcJob : Job := ⟨"AMC".toList, "image.bin".toList, ⟨some true, true, [0x24, 0x46]⟩, 2, none⟩

/-- Two devices on cards. -/
def amcDevices : List UpdateDevice :=
  [⟨some fun _ => ⟨none, [], []⟩, some 0⟩, ⟨some fun _ => ⟨none, [], []⟩, some 1⟩]

def amcActions : List Action := List.replicate 3 .main ++
  [.worker 1 .none, .worker 1 .none, .worker 1 .none, .worker 0 .none, .worker 0 .none,
    .worker 1 (.amc true), .worker 0 .none, .worker 0 .none, .worker 1 .none, .worker 1 (.amc true),
    .worker 0 (.amc true)] ++ List.replicate 3 .main

theorem updateFw_init_amc : ∃ s,
    follow (UpdateRun.step amcJob amcDevices) (.start amcJob) amcActions = some s ∧
      s.main = .returned .success true ∧
      (0, .amcFirmwareFlash 0 "image.bin".toList true) ∈ s.flashes ∧
      (initAnswers amcJob amcDevices (.start amcJob) amcActions).length ≤ 1 ∧
        (amcJob.initFailed.isSome → initAnswers amcJob amcDevices (.start amcJob) amcActions = []) ∧
        ∀ i amcIndex filePath success, (i, .amcFirmwareFlash amcIndex filePath success) ∈ s.flashes →
          amcJob.initFailed = some false ∨
            initAnswers amcJob amcDevices (.start amcJob) amcActions = [true] := by
  have hrun : follow (UpdateRun.step amcJob amcDevices) (.start amcJob) amcActions = some _ := rfl
  exact ⟨_, hrun, rfl, .tail _ (.head _), updateFw_init amcJob amcDevices hrun⟩

end FirmwareUpdate

end XpuManager
