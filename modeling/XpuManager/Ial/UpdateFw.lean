import XpuManager.Hal.FirmwareUpdate
import XpuManager.Lib.Runs

/-! # The `updatefw` command

`updatefw` (`ial/cmn/cmd_updatefw.cpp`) selects devices and updates each in a thread of its own. The
threads take their steps in any order. -/

namespace XpuManager

namespace FirmwareUpdate

open Firmware Runs

/-! ## Before the threads -/

/-- The firmware types that the command takes. -/
def validFwTypes : List Text :=
  ["GFX".toList, "GFX_DATA".toList, "FDO".toList, "AMC".toList, "OP_CODE".toList, "OP_DATA".toList]

def isValidType (firmwareType : Text) : Bool := validFwTypes.any (strcasecmp firmwareType)

/-- `validateFirmwareImageFile`. -/
def validateFirmwareImageFile (file : ImageFile) : ZeResult :=
  match file.regular with
  | none => .invalidArgument
  | some regular =>
    if ¬regular then .invalidArgument
    else if file.content = [] then .invalidArgument
    else if ¬file.readable then .invalidArgument
    else .success

/-- The options that the command reads. -/
structure UpdateOptions where
  deviceId : Text
  firmwareType : Text
  filePath : Text

/-- What the parser makes of the arguments. -/
inductive Parsed where
  | options (o : UpdateOptions)
  | help
  | error

/-- A call of the command, with what it finds. -/
structure UpdateCommand where
  /-- Whether the lock against other updates is taken. -/
  locked : Bool
  parsed : Parsed
  file : Text → ImageFile
  findDevice : Text → ZeResult × List UpdateDevice
  numOfCards : Nat
  initFailed : Option Bool

/-- Only devices with a card are updated if the type is AMC. -/
def isSelected (firmwareType : Text) (dev : UpdateDevice) : Bool :=
  if strcasecmp firmwareType "amc".toList then dev.amcIndex.isSome else true

/-- From the start of `run` up to the first thread: the result, if it ends there, or what the threads
have to do, and for which devices. -/
def UpdateCommand.prepare (c : UpdateCommand) : Except ZeResult (Job × List UpdateDevice) :=
  if ¬c.locked then .error .unknown
  else
    match c.parsed with
    | .help => .error .success
    | .error => .error .invalidArgument
    | .options o =>
      if o.firmwareType = [] then .error .invalidArgument
      else if ¬isValidType o.firmwareType then .error .invalidArgument
      else if o.filePath = [] then .error .invalidArgument
      else
        let result := validateFirmwareImageFile (c.file o.filePath)
        if result ≠ .success then .error result
        else
          let (result, deviceList) := c.findDevice o.deviceId
          if result ≠ .success then .error result
          else
            .ok (⟨o.firmwareType, o.filePath, c.file o.filePath, c.numOfCards, c.initFailed⟩,
              deviceList.filter (isSelected o.firmwareType))

/-! ## The threads -/

/-- Where the main thread stands: before it creates or joins a thread, or at the end. An exception in a
thread ends the process. -/
inductive MainPhase where
  | spawning (k : Nat)
  | joining (k : Nat)
  | returned (code : ZeResult) (printed : Bool)
  | terminated

/-- The main thread and the workers, and what they share. -/
structure UpdateRun where
  main : MainPhase
  phase : Nat → Phase
  /-- `localInfo.curThread` of the threads that have one. -/
  number : Nat → Option Nat
  curThread : Nat
  firstError : ZeResult
  init : InitState
  /-- Which thread handed over the image, and how. -/
  flashes : List (Nat × Flash)

/-- A step of the main thread, or of a worker with the answer to its call. -/
inductive Action where
  | main
  | worker (i : Nat) (answer : Answer)

/-- A thread at one of its two ends. -/
def Phase.ended : Phase → Bool
  | .failed | .finished => true
  | _ => false

namespace UpdateRun

/-- Before the main thread has created a worker. -/
def start (job : Job) : UpdateRun where
  main := .spawning 0
  phase := fun _ => .unborn
  number := fun _ => none
  curThread := 0
  firstError := .success
  init := job.initFailed.elim .notYet .done
  flashes := []

/-- A step of the main thread, with `n` devices. -/
def mainStep (n : Nat) (s : UpdateRun) : Option UpdateRun :=
  match s.main with
  | .spawning k =>
    if k < n then some { s with main := .spawning (k + 1), phase := Function.update s.phase k .counting }
    else some { s with main := .joining 0 }
  | .joining k =>
    if k < n then if (s.phase k).ended then some { s with main := .joining (k + 1) } else none
    else if s.firstError ≠ .success then some { s with main := .returned s.firstError false }
    else some { s with main := .returned .success true }
  | .returned _ _ => none
  | .terminated => none

/-- What a step of `updateFW` does. -/
def progress (i : Nat) (p : Progress) (s : UpdateRun) : UpdateRun :=
  { s with
    phase := Function.update s.phase i p.phase
    init := p.init.getD s.init
    flashes := s.flashes ++ (p.flash.map fun flash => (i, flash)).toList }

/-- A step of the thread of a device. `compare_exchange_strong` stores the first error only. -/
def workerStep (job : Job) (dev : UpdateDevice) (i : Nat) (answer : Answer) (s : UpdateRun) :
    Option UpdateRun :=
  match s.phase i, answer with
  | .counting, .none => some { s with
      phase := Function.update s.phase i .starting
      number := Function.update s.number i (some s.curThread)
      curThread := s.curThread + 1 }
  | .failing, .none => some { s with
      phase := Function.update s.phase i .failed
      firstError := if s.firstError = .success then .unknown else s.firstError }
  | phase, answer =>
    match phase.step job dev s.init answer with
    | some (.ret p) => some (s.progress i p)
    | some .fault => some { s with main := .terminated }
    | some .cut => none
    | none => none

/-- A step of the main thread or of a worker. -/
def step (job : Job) (devices : List UpdateDevice) (s : UpdateRun) : Action → Option UpdateRun
  | .main => s.mainStep devices.length
  | .worker i answer =>
    match s.main, devices[i]? with
    | .terminated, _ => none
    | _, none => none
    | _, some dev => s.workerStep job dev i answer

/-- How the thread of a device handed over the image. -/
def flashesOf (s : UpdateRun) (i : Nat) : List Flash :=
  (s.flashes.filter fun flash => flash.1 = i).map Prod.snd

end UpdateRun

/-- The command has ended with this code, with or without the message that it completed successfully;
`flashes i` is how thread `i` has handed over the image. -/
inductive UpdateCommand.Ends (c : UpdateCommand) :
    List Action → ZeResult → Bool → (Nat → List Flash) → Prop where
  | early {code : ZeResult} : c.prepare = .error code → Ends c [] code false fun _ => []
  | ran {job : Job} {devices : List UpdateDevice} {as : List Action} {code : ZeResult}
      {printed : Bool} {s : UpdateRun} : c.prepare = .ok (job, devices) →
      follow (UpdateRun.step job devices) (.start job) as = some s →
      s.main = .returned code printed → Ends c as code printed s.flashesOf

/-! ## What is asked of a command -/

/-- The image is handed to the device by the backend of the type, and accepted. -/
def RightFlash (job : Job) (dev : UpdateDevice) (row : Row) : Flash → Prop
  | .zesFirmwareFlash handle image result => row.fw ≠ .amc ∧ handle.isSome ∧
      (∃ cmds, dev.firmware = some cmds ∧ handle = (cmds row.fw).firmwareHandle) ∧
      image = job.file.content ∧ result = .success
  | .amcFirmwareFlash amcIndex filePath success => row.fw = .amc ∧ dev.amcIndex = some amcIndex ∧
      filePath = job.filePath ∧ success = true

/-- The image is handed to the device once, and accepted. -/
def FlashedOnce (job : Job) (dev : UpdateDevice) (flashes : List Flash) : Prop :=
  ∃ row flash, findRow job.firmwareType = some row ∧ flashes = [flash] ∧ RightFlash job dev row flash

/-- Success is reported only if devices were selected, and each was flashed. -/
def UpdateCommand.Right (c : UpdateCommand) (code : ZeResult) (printed : Bool)
    (flashes : Nat → List Flash) : Prop :=
  printed = true → code = .success → ∃ job devices, c.prepare = .ok (job, devices) ∧ devices ≠ [] ∧
    ∀ i dev, devices[i]? = some dev → FlashedOnce job dev (flashes i)

/-- A device cannot be updated, or a call of one of the threads fails. -/
def SomeFails (job : Job) (devices : List UpdateDevice) (as : List Action) : Prop :=
  (∃ dev ∈ devices, ¬dev.Updatable job) ∨ ∃ i answer, .worker i answer ∈ as ∧ answer.Fails

/-- The type is one that is flashed, and the whole image. -/
def Job.Flashes (job : Job) : Prop :=
  ∃ row, findRow job.firmwareType = some row ∧ row.updateFunc ≠ .success ∧
    (row.updateFunc = .updateFW → job.file.content.length < 2 ^ 32)

/-- The condition on what the command finds: it ends before any thread, or something fails, or there
are devices and the type is one that is flashed. -/
def UpdateCommand.Meets (c : UpdateCommand) (as : List Action) : Prop :=
  ∀ job devices, c.prepare = .ok (job, devices) →
    SomeFails job devices as ∨ devices ≠ [] ∧ job.Flashes

/-! ## What every run keeps -/

/-- No call of the thread has failed. -/
def NoFailure (as : List Action) (i : Nat) : Prop :=
  ∀ answer, .worker i answer ∈ as → ¬answer.Fails

/-- What is known of the main thread. -/
def MainOk (n : Nat) (s : UpdateRun) : MainPhase → Prop
  | .spawning k => k ≤ n ∧ ∀ i, s.phase i = .unborn ↔ k ≤ i
  | .joining k => (∀ i < n, s.phase i ≠ .unborn) ∧ ∀ i < k, (s.phase i).ended
  | .terminated => True
  | .returned code printed => (∀ i < n, (s.phase i).ended) ∧
      ((s.firstError ≠ .success ∧ code = s.firstError ∧ printed = false) ∨
        s.firstError = .success ∧ code = .success ∧ printed = true)

/-- What is known after some actions. -/
structure UpdateRun.Inv (job : Job) (devices : List UpdateDevice) (as : List Action)
    (s : UpdateRun) : Prop where
  phases : ∀ i dev, devices[i]? = some dev → PhaseOk job dev (SomeFails job devices as)
    (NoFailure as i) (s.flashesOf i) (s.phase i)
  init : InitOk job (SomeFails job devices as) s.init
  /-- An error is stored if and only if a thread has told one. -/
  error : s.firstError ≠ .success ↔ ∃ i < devices.length, s.phase i = .failed
  main : MainOk devices.length s s.main
  workers : ∀ i answer, .worker i answer ∈ as → i < devices.length

section Runs

variable {job : Job} {devices : List UpdateDevice} {as : List Action} {s t : UpdateRun} {a : Action}

theorem SomeFails.snoc (h : SomeFails job devices as) (a : Action) :
    SomeFails job devices (as ++ [a]) :=
  h.imp_right fun ⟨i, answer, hmem, hfails⟩ => ⟨i, answer, List.mem_append_left _ hmem, hfails⟩

theorem someFails_of_answer {i : Nat} {answer : Answer} (h : answer.Fails) :
    SomeFails job devices (as ++ [.worker i answer]) :=
  .inr ⟨i, answer, by simp, h⟩

theorem NoFailure.snoc {i : Nat} (h : NoFailure as i)
    (ha : ∀ answer, a = .worker i answer → ¬answer.Fails) : NoFailure (as ++ [a]) i := by
  intro answer hmem
  rcases List.mem_append.mp hmem with hmem | hmem
  · exact h answer hmem
  · exact ha answer (List.mem_singleton.mp hmem).symm

theorem PhaseOk.mono {dev : UpdateDevice} {fails clean fails' clean' : Prop}
    {flashes : List Flash} {phase : Phase} (h : PhaseOk job dev fails clean flashes phase)
    (hfails : fails → fails') (hclean : clean → clean') :
    PhaseOk job dev fails' clean' flashes phase := by
  cases phase with
  | failing => exact hfails h
  | failed => exact hfails h
  | _ => exact ⟨hclean h.1, h.2⟩

theorem InitOk.mono {fails fails' : Prop} {init : InitState} (h : InitOk job fails init)
    (hfails : fails → fails') : InitOk job fails' init :=
  ⟨h.fresh, fun hdone => (h.failed hdone).imp_right hfails, h.passed⟩

theorem inv_start (job : Job) (devices : List UpdateDevice) :
    UpdateRun.Inv job devices [] (.start job) where
  phases i dev _ := ⟨by simp [NoFailure], rfl⟩
  init := by
    cases h : job.initFailed with
    | none => exact ⟨fun _ => h, by simp [UpdateRun.start, h], by simp [h]⟩
    | some failed =>
      refine ⟨by simp [UpdateRun.start, h], fun hdone => .inl ?_, by simp [UpdateRun.start, h]⟩
      simpa [UpdateRun.start, h] using hdone
  error := by simp [UpdateRun.start]
  main := ⟨Nat.zero_le _, fun i => iff_of_true rfl (Nat.zero_le i)⟩
  workers := by simp

/-- A thread that has failed stays so while another goes on. -/
theorem exists_failed_update {n i : Nat} {phase : Nat → Phase} {next : Phase}
    (hi : phase i ≠ .failed) (hnext : next ≠ .failed) :
    (∃ j < n, Function.update phase i next j = .failed) ↔ ∃ j < n, phase j = .failed := by
  refine exists_congr fun j => and_congr_right fun _ => ?_
  by_cases hj : j = i
  · subst hj
    rw [Function.update_self]
    exact iff_of_false hnext hi
  · rw [Function.update_of_ne hj]

/-- **The main thread** keeps the invariant. -/
theorem UpdateRun.Inv.mainStep (h : s.Inv job devices as) (hstep : s.mainStep devices.length = some t) :
    t.Inv job devices (as ++ [.main]) := by
  have hnot (i : Nat) : ∀ answer, Action.main = .worker i answer → ¬answer.Fails := by simp
  have hphases (i : Nat) (dev : UpdateDevice) (hdev : devices[i]? = some dev) :
      PhaseOk job dev (SomeFails job devices (as ++ [.main])) (NoFailure (as ++ [.main]) i)
        (s.flashesOf i) (s.phase i) :=
    (h.phases i dev hdev).mono (fun hf => hf.snoc _) fun hc => hc.snoc (hnot i)
  have hinit := h.init.mono fun hf => hf.snoc Action.main
  have hworkers : ∀ i answer, Action.worker i answer ∈ as ++ [.main] → i < devices.length := by
    intro i answer hmem
    exact h.workers i answer (by simpa using hmem)
  have hmainOk := h.main
  unfold UpdateRun.mainStep at hstep
  cases hmain : s.main with
  | spawning k =>
    rw [hmain] at hstep hmainOk
    dsimp only at hstep
    split at hstep
    case isFalse hk =>
      obtain rfl := Option.some.inj hstep
      refine ⟨hphases, hinit, h.error, ⟨fun i hi hunborn => ?_, by simp⟩, hworkers⟩
      exact hk (lt_of_le_of_lt ((hmainOk.2 i).mp hunborn) hi)
    case isTrue hk =>
      obtain rfl := Option.some.inj hstep
      have hunborn : s.phase k = .unborn := (hmainOk.2 k).mpr le_rfl
      refine ⟨fun i dev hdev => ?_, hinit, ?_, ⟨hk, fun i => ?_⟩, hworkers⟩
      · dsimp only
        by_cases hi : i = k
        · subst hi
          have hold := hphases i dev hdev
          rw [hunborn] at hold
          rw [Function.update_self]
          exact hold
        · rw [Function.update_of_ne hi]
          exact hphases i dev hdev
      · rw [exists_failed_update (by simp [hunborn]) (by simp)]
        exact h.error
      · dsimp only
        by_cases hi : i = k
        · subst hi
          rw [Function.update_self]
          exact iff_of_false (by simp) (by omega)
        · rw [Function.update_of_ne hi, hmainOk.2 i]
          omega
  | joining k =>
    rw [hmain] at hstep hmainOk
    dsimp only at hstep
    split at hstep
    case isTrue hk =>
      split at hstep
      case isFalse => cases hstep
      case isTrue hended =>
        obtain rfl := Option.some.inj hstep
        refine ⟨hphases, hinit, h.error, ⟨hmainOk.1, fun i hi => ?_⟩, hworkers⟩
        obtain hlt | rfl := Nat.lt_succ_iff_lt_or_eq.mp hi
        · exact hmainOk.2 i hlt
        · exact hended
    case isFalse hk =>
      have hall : ∀ i < devices.length, (s.phase i).ended :=
        fun i hi => hmainOk.2 i (lt_of_lt_of_le hi (not_lt.mp hk))
      split at hstep
      case isTrue herror =>
        obtain rfl := Option.some.inj hstep
        exact ⟨hphases, hinit, h.error, ⟨hall, .inl ⟨herror, rfl, rfl⟩⟩, hworkers⟩
      case isFalse herror =>
        obtain rfl := Option.some.inj hstep
        exact ⟨hphases, hinit, h.error, ⟨hall, .inr ⟨not_not.mp herror, rfl, rfl⟩⟩, hworkers⟩
  | returned code printed => rw [hmain] at hstep; cases hstep
  | terminated => rw [hmain] at hstep; cases hstep

/-! ### Workers -/

/-- What a step of a worker leaves as it is: the other threads, and the order of the main thread. -/
theorem mainOk_update {n i : Nat} {next : Phase} (h : MainOk n s s.main) (hi : i < n)
    (hborn : s.phase i ≠ .unborn) (hrunning : (s.phase i).ended = false) (hnext : next ≠ .unborn)
    (hphase : t.phase = Function.update s.phase i next) : MainOk n t s.main := by
  have hother {j : Nat} (hj : j ≠ i) : t.phase j = s.phase j := by
    rw [hphase, Function.update_of_ne hj]
  have hself : t.phase i = next := by rw [hphase, Function.update_self]
  have hended {j : Nat} (hj : (s.phase j).ended) : (t.phase j).ended := by
    have hne : j ≠ i := by
      rintro rfl
      rw [hrunning] at hj
      cases hj
    rwa [hother hne]
  have hunborn (j : Nat) : t.phase j = .unborn ↔ s.phase j = .unborn := by
    by_cases hj : j = i
    · subst hj
      rw [hself]
      exact iff_of_false hnext hborn
    · rw [hother hj]
  cases hmain : s.main with
  | spawning k =>
    rw [hmain] at h
    exact ⟨h.1, fun j => (hunborn j).trans (h.2 j)⟩
  | terminated => trivial
  | joining k =>
    rw [hmain] at h
    exact ⟨fun j hj => (hunborn j).not.mpr (h.1 j hj), fun j hj => hended (h.2 j hj)⟩
  | returned code printed =>
    rw [hmain] at h
    have hi' := h.1 i hi
    rw [hrunning] at hi'
    cases hi'

/-- What has to be shown of a step of a worker. -/
theorem UpdateRun.Inv.workerUpdate {i : Nat} {dev : UpdateDevice} {answer : Answer} {next : Phase}
    (h : s.Inv job devices as) (hdev : devices[i]? = some dev) (hborn : s.phase i ≠ .unborn)
    (hrunning : (s.phase i).ended = false) (hnext : next ≠ .unborn) (hmain : t.main = s.main)
    (hphase : t.phase = Function.update s.phase i next)
    (hok : PhaseOk job dev (SomeFails job devices (as ++ [.worker i answer]))
      (NoFailure (as ++ [.worker i answer]) i) (t.flashesOf i) next)
    (hflashes : ∀ j, j ≠ i → t.flashesOf j = s.flashesOf j)
    (hinit : InitOk job (SomeFails job devices (as ++ [.worker i answer])) t.init)
    (herror : t.firstError ≠ .success ↔ ∃ j < devices.length, t.phase j = .failed) :
    t.Inv job devices (as ++ [.worker i answer]) := by
  have hi : i < devices.length := (List.getElem?_eq_some_iff.mp hdev).1
  refine ⟨fun j other hother => ?_, hinit, herror, ?_, fun j reply hmem => ?_⟩
  · by_cases hj : j = i
    · subst hj
      obtain rfl := Option.some.inj (hdev.symm.trans hother)
      rw [hphase, Function.update_self]
      exact hok
    · rw [hphase, Function.update_of_ne hj, hflashes j hj]
      refine (h.phases j other hother).mono (fun hf => hf.snoc _) fun hc => hc.snoc ?_
      rintro reply hreply
      exact absurd (Action.worker.inj hreply).1.symm hj
  · rw [hmain]
    exact mainOk_update h.main hi hborn hrunning hnext hphase
  · rcases List.mem_append.mp hmem with hmem | hmem
    · exact h.workers j reply hmem
    · obtain ⟨rfl, -⟩ := Action.worker.inj (List.mem_singleton.mp hmem)
      exact hi

theorem flashesOf_progress_self {i : Nat} {p : Progress} :
    (s.progress i p).flashesOf i = s.flashesOf i ++ p.flash.toList := by
  rw [UpdateRun.progress, UpdateRun.flashesOf, UpdateRun.flashesOf, List.filter_append,
    List.map_append]
  cases p.flash with
  | none => rfl
  | some flash => simp

theorem flashesOf_progress_of_ne {i j : Nat} {p : Progress} (hj : j ≠ i) :
    (s.progress i p).flashesOf j = s.flashesOf j := by
  rw [UpdateRun.progress, UpdateRun.flashesOf, UpdateRun.flashesOf, List.filter_append,
    List.map_append]
  cases p.flash with
  | none => simp
  | some flash => simp [hj.symm]

/-- A phase in which a thread takes a step of `updateFW`, and the one it leads to. -/
theorem startFlash_ne {dev : UpdateDevice} {row : Row} {handle : Option Handle} {next : Phase}
    (h : startFlash job dev row handle = .ret next) : next ≠ .unborn ∧ next ≠ .failed := by
  unfold startFlash at h
  split at h
  case h_1 => exact Outcome.ret.inj h ▸ by simp
  case h_2 =>
    split at h
    case h_1 => exact Outcome.ret.inj h ▸ by simp
    case h_2 => exact Outcome.ret.inj h ▸ by simp
    case h_3 => cases h
    case h_4 => cases h
  case h_3 =>
    split at h
    case isTrue => exact Outcome.ret.inj h ▸ by simp
    case isFalse => exact Outcome.ret.inj h ▸ by simp

/-- A phase that goes on had begun and had not ended, and so goes the next. -/
theorem step_phases {dev : UpdateDevice} {phase : Phase} {init : InitState} {answer : Answer}
    {p : Progress} (h : phase.step job dev init answer = some (.ret p)) :
    phase ≠ .unborn ∧ phase ≠ .failed ∧ phase.ended = false ∧ p.phase ≠ .unborn ∧
      p.phase ≠ .failed := by
  unfold Phase.step at h
  split at h
  case h_1 =>
    obtain rfl := Outcome.ret.inj (Option.some.inj h)
    obtain ⟨hnext, -⟩ | ⟨row, handle, hnext⟩ := startUpdate_cases job dev
    · simp [hnext, Phase.ended]
    · simp [hnext, Phase.ended]
  case h_2 =>
    split at h
    case h_1 =>
      obtain rfl := Outcome.ret.inj (Option.some.inj h)
      simp [Phase.ended]
    case h_2 =>
      obtain ⟨q, hq, hp⟩ := Option.map_eq_some_iff.mp h
      obtain rfl := Outcome.ret.inj hp
      unfold startInit at hq
      split at hq
      case h_2 => cases hq
      all_goals
        obtain rfl := Option.some.inj hq
        simp [Phase.ended]
  case h_4 =>
    split at h
    case h_1 next hnext =>
      obtain rfl := Outcome.ret.inj (Option.some.inj h)
      have hne := startFlash_ne hnext
      simp [Phase.ended, hne]
    case h_2 => cases h
    case h_3 => cases h
  case h_8 => cases h
  all_goals
    obtain rfl := Outcome.ret.inj (Option.some.inj h)
    refine ⟨by simp, by simp, rfl, ?_, ?_⟩
    all_goals split <;> simp

/-- The call that ends the process is none that could fail otherwise. -/
theorem not_fails_of_fault {dev : UpdateDevice} {phase : Phase} {init : InitState} {answer : Answer}
    (h : phase.step job dev init answer = some .fault) : ¬answer.Fails := by
  unfold Phase.step at h
  split at h
  case h_1 => exact id
  case h_2 => exact id
  case h_4 => exact id
  all_goals cases h

/-- **A worker** keeps the invariant. -/
theorem UpdateRun.Inv.workerStep {i : Nat} {dev : UpdateDevice} {answer : Answer}
    (h : s.Inv job devices as) (hdev : devices[i]? = some dev)
    (hstep : s.workerStep job dev i answer = some t) :
    t.Inv job devices (as ++ [.worker i answer]) := by
  have hi : i < devices.length := (List.getElem?_eq_some_iff.mp hdev).1
  have hold := h.phases i dev hdev
  have hclean (hc : NoFailure as i) (hanswer : ¬answer.Fails) :
      NoFailure (as ++ [.worker i answer]) i :=
    hc.snoc fun reply hreply => (Action.worker.inj hreply).2 ▸ hanswer
  unfold UpdateRun.workerStep at hstep
  split at hstep
  case h_1 hphase =>
    obtain rfl := Option.some.inj hstep
    rw [hphase] at hold
    refine h.workerUpdate hdev (by simp [hphase]) (by simp [hphase, Phase.ended]) (by simp) rfl rfl
      ⟨hclean hold.1 id, hold.2⟩ (fun _ _ => rfl) (h.init.mono fun hf => hf.snoc _) ?_
    rw [exists_failed_update (by simp [hphase]) (by simp)]
    exact h.error
  case h_2 hphase =>
    obtain rfl := Option.some.inj hstep
    rw [hphase] at hold
    refine h.workerUpdate hdev (by simp [hphase]) (by simp [hphase, Phase.ended]) (by simp) rfl rfl
      (SomeFails.snoc hold _) (fun _ _ => rfl) (h.init.mono fun hf => hf.snoc _) ?_
    refine iff_of_true ?_ ⟨i, hi, Function.update_self ..⟩
    dsimp only
    split
    case isTrue => decide
    case isFalse hne => exact hne
  case h_3 =>
    split at hstep
    case h_1 p hp =>
      obtain rfl := Option.some.inj hstep
      obtain ⟨hunborn, hfailed, hended, hnext, hnextFailed⟩ := step_phases hp
      obtain ⟨hok, hinit⟩ := hold.step h.init hp (fun hf => hf.snoc _)
        (fun hdev' => .inl ⟨dev, List.mem_of_getElem? hdev, hdev'⟩) someFails_of_answer hclean
      refine h.workerUpdate hdev hunborn hended hnext rfl rfl ?_ ?_ hinit ?_
      · rw [flashesOf_progress_self]
        exact hok
      · exact fun j hj => flashesOf_progress_of_ne hj
      · rw [progress, exists_failed_update hfailed hnextFailed]
        exact h.error
    case h_2 =>
      obtain rfl := Option.some.inj hstep
      refine ⟨fun j other hother => ?_, h.init.mono fun hf => hf.snoc _, h.error, trivial, ?_⟩
      · refine (h.phases j other hother).mono (fun hf => hf.snoc _) fun hc => hc.snoc ?_
        rintro reply hreply
        exact (Action.worker.inj hreply).2 ▸ not_fails_of_fault ‹_›
      · intro j reply hmem
        rcases List.mem_append.mp hmem with hmem | hmem
        · exact h.workers j reply hmem
        · obtain ⟨rfl, -⟩ := Action.worker.inj (List.mem_singleton.mp hmem)
          exact hi
    case h_3 => cases hstep
    case h_4 => cases hstep

/-- **The step lemma.** -/
theorem UpdateRun.Inv.step (h : s.Inv job devices as) (hstep : s.step job devices a = some t) :
    t.Inv job devices (as ++ [a]) := by
  cases a with
  | main => exact h.mainStep hstep
  | worker i answer =>
    rw [UpdateRun.step] at hstep
    split at hstep
    case h_1 => cases hstep
    case h_2 => cases hstep
    case h_3 dev hdev _ => exact h.workerStep hdev hstep

/-- **The run lemma.** -/
theorem inv_of_follow (h : follow (UpdateRun.step job devices) (.start job) as = some s) :
    s.Inv job devices as := by
  induction as using List.reverseRecOn generalizing s with
  | nil =>
    obtain rfl := Option.some.inj h
    exact inv_start job devices
  | append_singleton as a ih =>
    rw [follow_concat] at h
    obtain ⟨u, hrun, hstep⟩ := Option.bind_eq_some_iff.mp h
    exact (ih hrun).step hstep

/-! ## The result -/

/-- The flashes of a thread that has come to its good end. -/
theorem flashedOnce_iff {i : Nat} {dev : UpdateDevice} (h : s.Inv job devices as)
    (hdev : devices[i]? = some dev) (hend : s.phase i = .finished)
    (hcard : ∀ row, findRow job.firmwareType = some row → row.fw = .amc → dev.amcIndex.isSome) :
    FlashedOnce job dev (s.flashesOf i) ↔ job.Flashes := by
  have hok := h.phases i dev hdev
  rw [hend] at hok
  obtain ⟨-, row, handle, hpassed, hdone⟩ := hok
  obtain ⟨cmds, hfirmware, hrow, hhandle, hsome⟩ := started_spec hpassed.started
  have hamc := (methods_of_mem (mem_of_findRow hrow)).2
  have hflashes : job.Flashes ↔ row.updateFunc ≠ .success ∧
      (row.updateFunc = .updateFW → job.file.content.length < 2 ^ 32) := by
    constructor
    · rintro ⟨row', hrow', hfunc⟩
      obtain rfl := Option.some.inj (hrow'.symm.trans hrow)
      exact hfunc
    · exact fun hfunc => ⟨row, hrow, hfunc⟩
  have honce : FlashedOnce job dev (s.flashesOf i) ↔
      ∃ flash, s.flashesOf i = [flash] ∧ RightFlash job dev row flash := by
    constructor
    · rintro ⟨row', flash, hrow', hflash⟩
      obtain rfl := Option.some.inj (hrow'.symm.trans hrow)
      exact ⟨flash, hflash⟩
    · rintro ⟨flash, hflash⟩
      exact ⟨row, flash, hrow, hflash⟩
  rw [hflashes, honce]
  cases hnext : startFlash job dev row handle with
  | fault => rw [hnext] at hdone; exact hdone.elim
  | cut => rw [hnext] at hdone; exact hdone.elim
  | ret next =>
    rw [hnext] at hdone
    obtain ⟨rfl, hfunc⟩ | ⟨rfl, -⟩ | ⟨image, rfl, hfunc, himage, hne⟩ | ⟨rfl, hfunc, hlt⟩ :=
      startFlash_spec hpassed hnext
    · -- a stub: nothing is handed over
      have hnil : s.flashesOf i = [] := hdone
      refine iff_of_false ?_ (by simp [hfunc])
      rintro ⟨flash, hflash, -⟩
      rw [hnil] at hflash
      cases hflash
    · exact hdone.elim
    · have hone : s.flashesOf i = [.zesFirmwareFlash handle image .success] := hdone
      have hno : row.fw ≠ .amc := fun hfw => by
        rw [hamc.mpr hfw] at hfunc
        cases hfunc
      obtain ⟨-, -, -, htake⟩ := readImageContent_ne_nil himage hne
      rw [← take_eq_content_iff, hfunc]
      constructor
      · rintro ⟨flash, hflash, hright⟩
        obtain rfl := List.singleton_inj.mp (hone.symm.trans hflash)
        exact ⟨by simp, fun _ => htake.symm.trans hright.2.2.2.1⟩
      · rintro ⟨-, hwhole⟩
        exact ⟨_, hone, hno, Option.isSome_iff_ne_none.mpr (hsome hno), ⟨cmds, hfirmware, hhandle⟩,
          htake.trans (hwhole rfl), rfl⟩
    · have hone : s.flashesOf i = [.amcFirmwareFlash dev.cardIndex job.filePath true] := hdone
      obtain ⟨k, hk⟩ := Option.isSome_iff_exists.mp (hcard row hrow (hamc.mp hfunc))
      refine iff_of_true ⟨_, hone, hamc.mp hfunc, ?_, rfl, rfl⟩ (by simp [hfunc])
      rw [UpdateDevice.cardIndex, hk, Option.getD_some]

end Runs

/-- The devices that are updated are selected for the type. -/
theorem isSelected_of_prepare {c : UpdateCommand} {job : Job} {devices : List UpdateDevice}
    (h : c.prepare = .ok (job, devices)) : ∀ dev ∈ devices, isSelected job.firmwareType dev := by
  unfold UpdateCommand.prepare at h
  split at h
  case isTrue => cases h
  split at h
  case h_1 => cases h
  case h_2 => cases h
  case h_3 o _ =>
    repeat
      split at h
      case isTrue => cases h
    dsimp only at h
    split at h
    case isTrue => cases h
    split at h
    case isTrue => cases h
    cases h
    exact fun dev hdev => (List.mem_filter.mp hdev).2

/-- A device that is updated by an AMC card has one. -/
theorem amcIndex_of_isSelected {firmwareType : Text} {dev : UpdateDevice} {row : Row}
    (h : isSelected firmwareType dev) (hrow : findRow firmwareType = some row)
    (hamc : row.fw = .amc) : dev.amcIndex.isSome := by
  have hname : row.fwName = "AMC".toList := by
    have hall : ∀ row ∈ updateFWCmds, row.fw = .amc → row.fwName = "AMC".toList := by decide
    exact hall row (mem_of_findRow hrow) hamc
  have hcmp : strcasecmp firmwareType row.fwName := by
    unfold findRow at hrow
    simpa using List.find?_some hrow
  rw [hname] at hcmp
  have hlower : strcasecmp firmwareType "amc".toList := hcmp
  rw [isSelected, if_pos hlower] at h
  exact h

/-- A thread that has come to its good end was about a device that can be updated. -/
theorem updatable_of_completes {job : Job} {dev : UpdateDevice} {row : Row}
    {handle : Option Handle} {flashes : List Flash} (h : Passed job dev row handle)
    (hdone : Completes job flashes (startFlash job dev row handle)) : dev.Updatable job := by
  obtain ⟨cmds, -, hrow, -⟩ := started_spec h.started
  obtain ⟨hpre, hfunc⟩ := methods_of_mem (mem_of_findRow hrow)
  cases hnext : startFlash job dev row handle with
  | fault => rw [hnext] at hdone; exact hdone.elim
  | cut => rw [hnext] at hdone; exact hdone.elim
  | ret next =>
    refine updatable_of_started h.started (fun hupdate => ?_) fun hamc => ?_
    · obtain ⟨rfl, hno⟩ | ⟨rfl, -⟩ | ⟨image, rfl, -, himage, hne⟩ | ⟨rfl, hno, -⟩ :=
        startFlash_spec h hnext
      · rw [hupdate] at hno
        cases hno
      · rw [hnext] at hdone
        exact hdone.elim
      · obtain ⟨hregular, hreadable, hlength, -⟩ := readImageContent_ne_nil himage hne
        exact ⟨hregular, hreadable, hlength⟩
      · rw [hupdate] at hno
        cases hno
    · have hupdate := hfunc.mpr hamc
      refine ⟨h.initialised (hpre.mpr hamc), ?_⟩
      obtain ⟨rfl, hno⟩ | ⟨rfl, -⟩ | ⟨image, rfl, hno, -⟩ | ⟨rfl, -, hlt⟩ := startFlash_spec h hnext
      · rw [hupdate] at hno
        cases hno
      · rw [hnext] at hdone
        exact hdone.elim
      · rw [hupdate] at hno
        cases hno
      · exact hlt

/-- **When success is not reported in vain.** A command that ends reports success only where devices
were selected, and each was handed the image once by the backend of the type and accepted it, if and
only if it ends before any thread, or something fails, or there are devices and the type is one that is
flashed, with an image short enough for its length to be an `int`. -/
theorem updateFw_right_iff {c : UpdateCommand} {as : List Action} {code : ZeResult} {printed : Bool}
    {flashes : Nat → List Flash} (h : c.Ends as code printed flashes) :
    c.Right code printed flashes ↔ c.Meets as := by
  cases h with
  | early hprep =>
    refine iff_of_true (by simp [UpdateCommand.Right]) fun job devices hok => ?_
    rw [hprep] at hok
    cases hok
  | @ran job devices as code printed s hprep hrun hmain =>
    have hinv := inv_of_follow hrun
    have hselected := isSelected_of_prepare hprep
    have hmeets : c.Meets as ↔ SomeFails job devices as ∨ devices ≠ [] ∧ job.Flashes := by
      constructor
      · exact fun hall => hall job devices hprep
      · intro hcond job' devices' hprep'
        obtain ⟨rfl, rfl⟩ := Prod.mk.inj (Except.ok.inj (hprep.symm.trans hprep'))
        exact hcond
    have hright : c.Right code printed s.flashesOf ↔ (printed = true → code = .success →
        devices ≠ [] ∧ ∀ i dev, devices[i]? = some dev → FlashedOnce job dev (s.flashesOf i)) := by
      refine imp_congr_right fun _ => imp_congr_right fun _ => ?_
      constructor
      · rintro ⟨job', devices', hprep', hall⟩
        obtain ⟨rfl, rfl⟩ := Prod.mk.inj (Except.ok.inj (hprep.symm.trans hprep'))
        exact hall
      · exact fun hall => ⟨job, devices, hprep, hall⟩
    rw [hright, hmeets]
    have hmainOk := hinv.main
    rw [hmain] at hmainOk
    obtain ⟨hended, ⟨herror, -, rfl⟩ | ⟨herror, rfl, rfl⟩⟩ := hmainOk
    · -- a thread has told an error
      obtain ⟨i, hi, hfailed⟩ := hinv.error.mp herror
      have hok := hinv.phases i devices[i] (List.getElem?_eq_getElem hi)
      rw [hfailed] at hok
      exact iff_of_true (by simp) (.inl hok)
    · -- all threads have come to their good end
      have hfinished (i : Nat) (hi : i < devices.length) : s.phase i = .finished := by
        have hend := hended i hi
        have hno : s.phase i ≠ .failed := fun hfailed =>
          hinv.error.mpr ⟨i, hi, hfailed⟩ herror
        cases hphase : s.phase i <;> simp_all [Phase.ended]
      have hclean : ¬SomeFails job devices as := by
        rintro (⟨dev, hdev, hno⟩ | ⟨i, answer, hmem, hfails⟩)
        · obtain ⟨i, hi, rfl⟩ := List.getElem_of_mem hdev
          have hok := hinv.phases i devices[i] (List.getElem?_eq_getElem hi)
          rw [hfinished i hi] at hok
          obtain ⟨-, row, handle, hpassed, hdone⟩ := hok
          exact hno (updatable_of_completes hpassed hdone)
        · have hi := hinv.workers i answer hmem
          have hok := hinv.phases i devices[i] (List.getElem?_eq_getElem hi)
          rw [hfinished i hi] at hok
          exact hok.1 answer hmem hfails
      rw [or_iff_right hclean]
      simp only [forall_const]
      refine and_congr_right fun hne => ?_
      have hdev (i : Nat) (dev : UpdateDevice) (hget : devices[i]? = some dev) :
          FlashedOnce job dev (s.flashesOf i) ↔ job.Flashes := by
        obtain ⟨hi, hget'⟩ := List.getElem?_eq_some_iff.mp hget
        refine flashedOnce_iff hinv hget (hfinished i hi) fun row hrow hamc => ?_
        exact amcIndex_of_isSelected (hselected dev (List.mem_of_getElem? hget)) hrow hamc
      constructor
      · intro hall
        have hpos := List.length_pos_of_ne_nil hne
        have hget := List.getElem?_eq_getElem hpos
        exact (hdev 0 _ hget).mp (hall 0 _ hget)
      · exact fun hflash i dev hget => (hdev i dev hget).mpr hflash

/-- A command for one device, which has this handle for every type. -/
def oneDevice (firmwareType : Text) : UpdateCommand where
  locked := true
  parsed := .options ⟨"0".toList, firmwareType, "image.bin".toList⟩
  file := fun _ => ⟨some true, true, [0x24, 0x46]⟩
  findDevice := fun _ => (.success, [⟨some fun _ => ⟨some 1, [], []⟩, none⟩])
  numOfCards := 0
  initFailed := none

/-- The steps of the main thread around those of one worker. -/
def oneWorker (answers : List Answer) : List Action :=
  [.main, .main] ++ answers.map (.worker 0) ++ [.main, .main]

/-- The steps in which the image is handed over. -/
def flashAnswers : List Answer := [.none, .none, .none, .none, .ze .success, .ze .success]

/-- A device whose graphics firmware is flashed. -/
theorem updateFw_right_gfx : ∃ flashes, flashes 0 = [.zesFirmwareFlash (some 1) [0x24, 0x46] .success] ∧
    ((oneDevice "GFX".toList).Right .success true flashes ↔
      (oneDevice "GFX".toList).Meets (oneWorker flashAnswers)) :=
  ⟨_, rfl, updateFw_right_iff (.ran rfl rfl rfl)⟩

/-- A device whose graphics data is to be updated: success is reported, and nothing handed over. -/
theorem updateFw_not_right : ∃ flashes, (oneDevice "GFX_DATA".toList).Ends
    (oneWorker [.none, .none, .none, .none]) .success true flashes ∧
      ¬(oneDevice "GFX_DATA".toList).Right .success true flashes := by
  refine ⟨_, .ran rfl rfl rfl, fun hright => ?_⟩
  obtain ⟨job, devices, hprep, hne, hall⟩ := hright rfl rfl
  obtain ⟨dev, hdev⟩ : ∃ dev, devices[0]? = some dev :=
    ⟨_, List.getElem?_eq_getElem (List.length_pos_of_ne_nil hne)⟩
  obtain ⟨row, flash, -, hflash, -⟩ := hall 0 dev hdev
  cases hflash

end FirmwareUpdate

end XpuManager
