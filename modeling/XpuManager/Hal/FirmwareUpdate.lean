import XpuManager.Amc.Frame
import XpuManager.Hal.FirmwareList

/-! # The firmware update of a device

`firmware::updateFW` (`hal/core/firmware.cpp`) looks a firmware type up in a table of methods of the
class `fwupd` (`hal/fwupd`), some of which its subclasses override, and calls three of them. Several
devices are updated at once, so an update goes from one call to the next in steps. -/

namespace XpuManager

namespace FirmwareUpdate

open Firmware

/-! ## The table -/

/-- `fwupdPreference`, as far as the table names it. -/
inductive FwupdPreference where
  | sysman
  | amc

/-- A row of `updateFWCmds`. The methods are those for the firmware type `methods`; no class does
anything in a `postUpdate…` one. -/
structure Row where
  fw : FwType
  fwName : Text
  preference : FwupdPreference
  methods : FwType

/-- The table of the update methods. -/
def updateFWCmds : List Row :=
  [⟨.gfx, "GFX".toList, .sysman, .gfx⟩,
   ⟨.gfxData, "GFX_DATA".toList, .sysman, .gfxData⟩,
   ⟨.gfxCodeData, "GFX_CODE_DATA".toList, .sysman, .gfxData⟩,
   ⟨.opCode, "OP_CODE".toList, .sysman, .opCode⟩,
   ⟨.opData, "OP_DATA".toList, .sysman, .opData⟩,
   ⟨.gfxPscbin, "GFX_PSCBIN".toList, .sysman, .gfxPscbin⟩,
   ⟨.fanTable, "FAN_TABLE".toList, .sysman, .fanTable⟩,
   ⟨.vrConfig, "VR_CONFIG".toList, .sysman, .vrConfig⟩,
   ⟨.amc, "AMC".toList, .amc, .amc⟩,
   ⟨.fdo, "FDO".toList, .sysman, .fdo⟩]

/-- The first row with this name. -/
def findRow (firmwareType : Text) : Option Row :=
  updateFWCmds.find? fun row => strcasecmp firmwareType row.fwName

/-- What a `preUpdate…` method does: nothing, or `amcupd::init`. -/
inductive PreUpdate where
  | success
  | init
  deriving DecidableEq

/-- What an `update…` method does: nothing, `fwupd::updateFW`, or `amcupd::updateAMC`. -/
inductive Update where
  | success
  | updateFW
  | updateAMC
  deriving DecidableEq

/-- `preUpdateGfx` and the others, as the class defines them. -/
def FwupdPreference.preUpdate : FwupdPreference → FwType → PreUpdate
  | .amc, .amc => .init
  | _, _ => .success

/-- `updateGfx` and the others, as the class defines them. -/
def FwupdPreference.update : FwupdPreference → FwType → Update
  | .amc, .amc => .updateAMC
  | .sysman, .amc => .success
  | _, .gfx | _, .opCode | _, .opData | _, .fanTable | _, .vrConfig | _, .fdo => .updateFW
  | _, .gfxData | _, .gfxCodeData | _, .gfxPscbin => .success

namespace Row

/-- What the `preUpdate…` method of the row does. -/
def preUpdateFunc (row : Row) : PreUpdate := row.preference.preUpdate row.methods

/-- What the `update…` method of the row does. -/
def updateFunc (row : Row) : Update := row.preference.update row.methods

end Row

/-! ## The image -/

/-- The file of a firmware image. -/
structure ImageFile where
  /-- Whether the file is a regular one, if `stat` succeeds. -/
  regular : Option Bool
  readable : Bool
  content : Bytes

/-- `readImageContent`. The length is an `int`; a vector of a negative length cannot be made. -/
def readImageContent (file : ImageFile) : Outcome Bytes :=
  if file.regular ≠ some true then .ret []
  else if ¬file.readable then .ret []
  else
    let length := Int.bmod file.content.length (2 ^ 32)
    if length < 0 then .fault else .ret (file.content.take length.toNat)

/-! ## One device -/

/-- A device that is selected for an update. -/
structure UpdateDevice where
  /-- `getFirmware`, with the handles that `init` stored. -/
  firmware : Option UpdateFWCmds
  amcIndex : Option Nat

/-- What all updates of one command have in common. -/
structure Job where
  firmwareType : Text
  filePath : Text
  file : ImageFile
  /-- `amcupd::getNumOfCards`. -/
  numOfCards : Nat
  /-- Whether `amcupd::init` failed, if it has been called before. -/
  initFailed : Option Bool

/-- A call that hands the image to a device. -/
inductive Flash where
  | zesFirmwareFlash (handle : Option Handle) (image : Bytes) (result : ZeResult)
  | amcFirmwareFlash (amcIndex : Nat) (filePath : Text) (success : Bool)

/-- Where the thread of a device stands: not created yet; before `curThread` is counted up; before each
call of `updateFW`, or inside one that takes its time; where it has failed and is about to tell; and at
its two ends. -/
inductive Phase where
  | unborn
  | counting
  | starting
  | preUpdating (row : Row) (handle : Option Handle)
  | initialising (row : Row) (handle : Option Handle)
  | updating (row : Row) (handle : Option Handle)
  | querying (handle : Option Handle) (image : Bytes)
  | flashing (handle : Option Handle) (image : Bytes)
  | amcFlashing (amcIndex : Nat)
  | failing
  | failed
  | finished

/-- What a call returns, if the step is one. -/
inductive Answer where
  | none
  | ze (result : ZeResult)
  | amc (success : Bool)

/-- The answer is an error. -/
def Answer.Fails : Answer → Prop
  | .none => False
  | .ze result => result ≠ .success
  | .amc success => success = false

/-- `std::once_flag` of `amcupd::init`, and whether it failed. -/
inductive InitState where
  | notYet
  | running
  | done (initFailed : Bool)
  deriving DecidableEq

/-- The number of the card of a device; without a card it is `-1` as an `uint32_t`. -/
def UpdateDevice.cardIndex (dev : UpdateDevice) : Nat := dev.amcIndex.getD (2 ^ 32 - 1)

/-- What a step leads to. -/
structure Progress where
  phase : Phase
  /-- `amcupd::init`, if the step changes it. -/
  init : Option InitState := none
  flash : Option Flash := none

/-- From the `starting` phase on: the loop of `updateFW` over the table. -/
def startUpdate (job : Job) (dev : UpdateDevice) : Phase :=
  match dev.firmware with
  | none => .failing
  | some cmds =>
    match findRow job.firmwareType with
    | none => .failing
    | some row =>
      let handle := (cmds row.fw).firmwareHandle
      if row.fw ≠ .amc ∧ handle = none then .failing else .preUpdating row handle

/-- The start of `amcupd::init`. A thread that finds it running waits. -/
def startInit (row : Row) (handle : Option Handle) : InitState → Option Progress
  | .notYet => some { phase := .initialising row handle, init := some .running }
  | .running => none
  | .done true => some { phase := .failing }
  | .done false => some { phase := .updating row handle }

/-- The start of an `update…` method. -/
def startFlash (job : Job) (dev : UpdateDevice) (row : Row) (handle : Option Handle) :
    Outcome Phase :=
  match row.updateFunc with
  | .success => .ret .finished
  | .updateFW =>
    match readImageContent job.file with
    | .ret [] => .ret .failing
    | .ret image => .ret (.querying handle image)
    | .fault => .fault
    | .cut => .cut
  | .updateAMC =>
    .ret (if job.numOfCards ≤ dev.cardIndex then .failing else .amcFlashing dev.cardIndex)

/-- The next step of a thread; none where it has to wait, or where this is no answer to its call. What
it does before `updateFW` and behind it is not among them. -/
def Phase.step (job : Job) (dev : UpdateDevice) (init : InitState) :
    Phase → Answer → Option (Outcome Progress)
  | .starting, .none => some (.ret { phase := startUpdate job dev })
  | .preUpdating row handle, .none =>
    match row.preUpdateFunc with
    | .success => some (.ret { phase := .updating row handle })
    | .init => (startInit row handle init).map .ret
  | .initialising row handle, .amc success => some <| .ret
    { phase := if success then .updating row handle else .failing
      init := some (.done (!success)) }
  | .updating row handle, .none =>
    match startFlash job dev row handle with
    | .ret phase => some (.ret { phase })
    | .fault => some .fault
    | .cut => none
  | .querying handle image, .ze result => some <| .ret
    { phase := if result = .success then .flashing handle image else .failing }
  | .flashing handle image, .ze result => some <| .ret
    { phase := if result = .success then .finished else .failing
      flash := some (.zesFirmwareFlash handle image result) }
  | .amcFlashing amcIndex, .amc success => some <| .ret
    { phase := if success then .finished else .failing
      flash := some (.amcFirmwareFlash amcIndex job.filePath success) }
  | _, _ => none

/-! ## The table and the image -/

/-- Only the row of AMC has methods of its own. -/
theorem methods_of_mem {row : Row} (h : row ∈ updateFWCmds) :
    (row.preUpdateFunc = .init ↔ row.fw = .amc) ∧ (row.updateFunc = .updateAMC ↔ row.fw = .amc) := by
  revert h row
  decide

theorem mem_of_findRow {firmwareType : Text} {row : Row} (h : findRow firmwareType = some row) :
    row ∈ updateFWCmds := List.mem_of_find?_eq_some h

/-- A number that wraps around to one that is not negative is its remainder. -/
theorem bmod_eq_mod {n m : Nat} (hm : 0 < m) (h : ¬Int.bmod n m < 0) :
    (Int.bmod n m).toNat = n % m := by
  have hlt : n % m < m := Nat.mod_lt n hm
  by_cases hsmall : (n : Int) % m < (m + 1) / 2
  · rw [Int.bmod_eq_emod_of_lt hsmall]
    omega
  · rw [Int.bmod_neg _ _ (not_lt.mp hsmall)] at h
    omega

theorem readImageContent_eq (file : ImageFile) (hregular : file.regular = some true)
    (hreadable : file.readable = true) {image : Bytes} (h : readImageContent file = .ret image) :
    image = file.content.take (file.content.length % 2 ^ 32) := by
  rw [readImageContent, if_neg (by simp [hregular]), if_neg (by simp [hreadable])] at h
  dsimp only at h
  split at h
  case isTrue => cases h
  case isFalse hlength =>
    rw [← Outcome.ret.inj h]
    rw [bmod_eq_mod (by decide) hlength]

/-- The image that is read is empty only if the file cannot be read, or its length is a multiple of
`2 ^ 32`. -/
theorem readImageContent_ne_nil {file : ImageFile} {image : Bytes}
    (h : readImageContent file = .ret image) (hne : image ≠ []) :
    file.regular = some true ∧ file.readable = true ∧ file.content.length % 2 ^ 32 ≠ 0 ∧
      image = file.content.take (file.content.length % 2 ^ 32) := by
  have hregular : file.regular = some true := by
    by_contra hno
    rw [readImageContent, if_pos hno] at h
    exact hne (Outcome.ret.inj h).symm
  have hreadable : file.readable = true := by
    by_contra hno
    rw [readImageContent, if_neg (not_not.mpr hregular), if_pos hno] at h
    exact hne (Outcome.ret.inj h).symm
  have himage := readImageContent_eq file hregular hreadable h
  refine ⟨hregular, hreadable, fun hzero => hne ?_, himage⟩
  rw [himage, hzero, List.take_zero]

/-- It is the whole image only if that is short enough. -/
theorem take_eq_content_iff {content : Bytes} :
    content.take (content.length % 2 ^ 32) = content ↔ content.length < 2 ^ 32 := by
  rw [List.take_eq_self_iff]
  constructor
  · intro h
    exact lt_of_le_of_lt h (Nat.mod_lt _ (by decide))
  · intro h
    rw [Nat.mod_eq_of_lt h]

/-- Nothing stands in the way of an update of the device: it has a firmware object with a handle for
the type, the image can be read, and the card is there and could be initialised. -/
def UpdateDevice.Updatable (job : Job) (dev : UpdateDevice) : Prop :=
  ∃ cmds row, dev.firmware = some cmds ∧ findRow job.firmwareType = some row ∧
    (row.fw ≠ .amc → (cmds row.fw).firmwareHandle ≠ none) ∧
    (row.updateFunc = .updateFW → job.file.regular = some true ∧ job.file.readable = true ∧
      job.file.content.length % 2 ^ 32 ≠ 0) ∧
    (row.fw = .amc → job.initFailed ≠ some true ∧ dev.cardIndex < job.numOfCards)

/-! ## What is known of a thread -/

/-- `updateFW` has got past the look-up in the table with this row, and past `preUpdate…`. -/
structure Passed (job : Job) (dev : UpdateDevice) (row : Row) (handle : Option Handle) : Prop where
  started : startUpdate job dev = .preUpdating row handle
  initialised : row.preUpdateFunc = .init → job.initFailed ≠ some true

/-- The flashes of a thread that has got to the end of `updateFW` from the start of `update…`. -/
def Completes (job : Job) (flashes : List Flash) : Outcome Phase → Prop
  | .ret .finished => flashes = []
  | .ret (.querying handle image) => flashes = [.zesFirmwareFlash handle image .success]
  | .ret (.amcFlashing amcIndex) => flashes = [.amcFirmwareFlash amcIndex job.filePath true]
  | _ => False

/-- What is known of a thread in a phase: `fails` if it is on its way to an error, `clean` if not. -/
def PhaseOk (job : Job) (dev : UpdateDevice) (fails clean : Prop) (flashes : List Flash) :
    Phase → Prop
  | .unborn | .counting | .starting => clean ∧ flashes = []
  | .preUpdating row handle =>
    clean ∧ flashes = [] ∧ startUpdate job dev = .preUpdating row handle
  | .initialising row handle =>
    clean ∧ flashes = [] ∧ row.preUpdateFunc = .init ∧ Passed job dev row handle
  | .updating row handle => clean ∧ flashes = [] ∧ Passed job dev row handle
  | .querying handle image | .flashing handle image => clean ∧ flashes = [] ∧
      ∃ row handle', Passed job dev row handle' ∧
        startFlash job dev row handle' = .ret (.querying handle image)
  | .amcFlashing amcIndex => clean ∧ flashes = [] ∧
      ∃ row handle, Passed job dev row handle ∧
        startFlash job dev row handle = .ret (.amcFlashing amcIndex)
  | .failing | .failed => fails
  | .finished => clean ∧ ∃ row handle, Passed job dev row handle ∧
      Completes job flashes (startFlash job dev row handle)

/-- What is known of `amcupd::init`. -/
structure InitOk (job : Job) (fails : Prop) (init : InitState) : Prop where
  fresh : init = .notYet → job.initFailed = none
  failed : init = .done true → job.initFailed = some true ∨ fails
  passed : init = .done false → job.initFailed ≠ some true

section Phases

variable {job : Job} {dev : UpdateDevice} {fails clean fails' clean' : Prop} {flashes : List Flash}
  {phase : Phase} {answer : Answer} {init : InitState} {p : Progress} {row : Row}
  {handle : Option Handle}

/-- An update starts, or the device cannot be updated. -/
theorem startUpdate_cases (job : Job) (dev : UpdateDevice) :
    (startUpdate job dev = .failing ∧ ¬dev.Updatable job) ∨
      ∃ row handle, startUpdate job dev = .preUpdating row handle := by
  unfold startUpdate
  cases hfirmware : dev.firmware with
  | none =>
    refine .inl ⟨rfl, ?_⟩
    rintro ⟨cmds, row, hcmds, -⟩
    rw [hfirmware] at hcmds
    cases hcmds
  | some cmds =>
    cases hrow : findRow job.firmwareType with
    | none =>
      refine .inl ⟨rfl, ?_⟩
      rintro ⟨cmds, row, -, hfound, -⟩
      rw [hrow] at hfound
      cases hfound
    | some row =>
      dsimp only
      split
      case isTrue hmissing =>
        refine .inl ⟨rfl, ?_⟩
        rintro ⟨cmds', row', hcmds, hfound, hhandle, -⟩
        obtain rfl : cmds = cmds' := Option.some.inj (hfirmware.symm.trans hcmds)
        obtain rfl : row = row' := Option.some.inj (hrow.symm.trans hfound)
        exact hhandle hmissing.1 hmissing.2
      case isFalse => exact .inr ⟨row, _, rfl⟩

/-- What is behind a look-up that succeeded. -/
theorem started_spec (h : startUpdate job dev = .preUpdating row handle) :
    ∃ cmds, dev.firmware = some cmds ∧ findRow job.firmwareType = some row ∧
      handle = (cmds row.fw).firmwareHandle ∧ (row.fw ≠ .amc → handle ≠ none) := by
  unfold startUpdate at h
  split at h
  case h_1 => cases h
  case h_2 cmds hfirmware =>
    split at h
    case h_1 => cases h
    case h_2 row' hrow =>
      dsimp only at h
      split at h
      case isTrue => cases h
      case isFalse hmissing =>
        obtain ⟨rfl, rfl⟩ : row' = row ∧ (cmds row'.fw).firmwareHandle = handle := by
          simpa using h
        exact ⟨cmds, hfirmware, hrow, rfl, fun hamc hnone => hmissing ⟨hamc, hnone⟩⟩

/-- A device that has got this far can be updated, unless its image or its card is not there. -/
theorem updatable_of_started (h : startUpdate job dev = .preUpdating row handle)
    (hfile : row.updateFunc = .updateFW → job.file.regular = some true ∧
      job.file.readable = true ∧ job.file.content.length % 2 ^ 32 ≠ 0)
    (hcard : row.fw = .amc → job.initFailed ≠ some true ∧ dev.cardIndex < job.numOfCards) :
    dev.Updatable job := by
  obtain ⟨cmds, hfirmware, hrow, rfl, hhandle⟩ := started_spec h
  exact ⟨cmds, row, hfirmware, hrow, hhandle, hfile, hcard⟩

/-- The row of a device that can be updated is the one that was found. -/
theorem Updatable.of_started (hdev : dev.Updatable job)
    (h : startUpdate job dev = .preUpdating row handle) :
    (row.updateFunc = .updateFW → job.file.regular = some true ∧ job.file.readable = true ∧
        job.file.content.length % 2 ^ 32 ≠ 0) ∧
      (row.fw = .amc → job.initFailed ≠ some true ∧ dev.cardIndex < job.numOfCards) := by
  obtain ⟨cmds, hfirmware, hrow, -⟩ := started_spec h
  obtain ⟨cmds', row', hfirmware', hrow', -, hfile, hcard⟩ := hdev
  obtain rfl : row' = row := Option.some.inj (hrow'.symm.trans hrow)
  exact ⟨hfile, hcard⟩

/-- The start of `update…`: an error only if the device cannot be updated. -/
theorem startFlash_spec (h : Passed job dev row handle) {next : Phase}
    (hnext : startFlash job dev row handle = .ret next) :
    (next = .finished ∧ row.updateFunc = .success) ∨ (next = .failing ∧ ¬dev.Updatable job) ∨
      (∃ image, next = .querying handle image ∧ row.updateFunc = .updateFW ∧
        readImageContent job.file = .ret image ∧ image ≠ []) ∨
      next = .amcFlashing dev.cardIndex ∧ row.updateFunc = .updateAMC ∧
        dev.cardIndex < job.numOfCards := by
  unfold startFlash at hnext
  cases hfunc : row.updateFunc with
  | success =>
    rw [hfunc] at hnext
    exact .inl ⟨(Outcome.ret.inj hnext).symm, rfl⟩
  | updateFW =>
    rw [hfunc] at hnext
    dsimp only at hnext
    cases himage : readImageContent job.file with
    | fault => rw [himage] at hnext; cases hnext
    | cut => rw [himage] at hnext; cases hnext
    | ret image =>
      rw [himage] at hnext
      cases image with
      | nil =>
        refine .inr (.inl ⟨(Outcome.ret.inj hnext).symm, fun hdev => ?_⟩)
        obtain ⟨hregular, hreadable, hlength⟩ := (Updatable.of_started hdev h.started).1 hfunc
        have hnil := readImageContent_eq job.file hregular hreadable himage
        have hlen := congrArg List.length hnil
        rw [List.length_take, List.length_nil] at hlen
        have := Nat.mod_le job.file.content.length (2 ^ 32)
        omega
      | cons byte rest =>
        exact .inr (.inr (.inl ⟨byte :: rest, (Outcome.ret.inj hnext).symm, rfl, rfl, by simp⟩))
  | updateAMC =>
    rw [hfunc] at hnext
    dsimp only at hnext
    have hamc : row.fw = .amc := by
      obtain ⟨cmds, -, hrow, -⟩ := started_spec h.started
      exact (methods_of_mem (mem_of_findRow hrow)).2.mp hfunc
    split at hnext
    case isTrue hcard =>
      refine .inr (.inl ⟨(Outcome.ret.inj hnext).symm, fun hdev => ?_⟩)
      exact absurd ((Updatable.of_started hdev h.started).2 hamc).2 (not_lt.mpr hcard)
    case isFalse hcard =>
      exact .inr (.inr (.inr ⟨(Outcome.ret.inj hnext).symm, rfl, not_le.mp hcard⟩))

/-- The look-up leads to an error only if the device cannot be updated. -/
theorem phaseOk_startUpdate (hc : clean) (hdev : ¬dev.Updatable job → fails) :
    PhaseOk job dev fails clean [] (startUpdate job dev) := by
  obtain ⟨hfails, hno⟩ | ⟨row, handle, hstart⟩ := startUpdate_cases job dev
  · rw [hfails]
    exact hdev hno
  · rw [hstart]
    exact ⟨hc, rfl, hstart⟩

/-- A thread starts `amcupd::init`, or goes on with what another one has made of it. -/
theorem phaseOk_startInit (hc : clean) (hdev : ¬dev.Updatable job → fails)
    (hinit : InitOk job fails init) (hstart : startUpdate job dev = .preUpdating row handle)
    (hpre : row.preUpdateFunc = .init) (hnext : startInit row handle init = some p) :
    PhaseOk job dev fails clean p.flash.toList p.phase ∧ InitOk job fails (p.init.getD init) := by
  have hamc : row.fw = .amc := by
    obtain ⟨cmds, -, hrow, -⟩ := started_spec hstart
    exact (methods_of_mem (mem_of_findRow hrow)).1.mp hpre
  cases init with
  | notYet =>
    obtain rfl := Option.some.inj hnext
    have hnone := hinit.fresh rfl
    refine ⟨⟨hc, rfl, hpre, hstart, by simp [hnone]⟩, ?_⟩
    exact ⟨by simp, by simp, by simp⟩
  | running => cases hnext
  | done failed =>
    cases failed with
    | true =>
      obtain rfl := Option.some.inj hnext
      refine ⟨?_, hinit⟩
      obtain hfailed | hfailed := hinit.failed rfl
      · exact hdev fun hup => ((Updatable.of_started hup hstart).2 hamc).1 hfailed
      · exact hfailed
    | false =>
      obtain rfl := Option.some.inj hnext
      exact ⟨⟨hc, rfl, hstart, fun _ => hinit.passed rfl⟩, hinit⟩

/-- An `update…` method starts, and leads to an error only if the device cannot be updated. -/
theorem phaseOk_startFlash (hc : clean) (hdev : ¬dev.Updatable job → fails)
    (hpassed : Passed job dev row handle) {next : Phase}
    (hnext : startFlash job dev row handle = .ret next) :
    PhaseOk job dev fails clean [] next := by
  obtain ⟨rfl, -⟩ | ⟨rfl, hno⟩ | ⟨image, rfl, -⟩ | ⟨rfl, -⟩ := startFlash_spec hpassed hnext
  · exact ⟨hc, row, handle, hpassed, by rw [hnext]; rfl⟩
  · exact hdev hno
  · exact ⟨hc, rfl, row, handle, hpassed, hnext⟩
  · exact ⟨hc, rfl, row, handle, hpassed, hnext⟩

/-- **One step of a thread.** -/
theorem PhaseOk.step (h : PhaseOk job dev fails clean flashes phase) (hinit : InitOk job fails init)
    (hstep : phase.step job dev init answer = some (.ret p)) (hmono : fails → fails')
    (hdev : ¬dev.Updatable job → fails') (hanswer : answer.Fails → fails')
    (hclean : clean → ¬answer.Fails → clean') :
    PhaseOk job dev fails' clean' (flashes ++ p.flash.toList) p.phase ∧
      InitOk job fails' (p.init.getD init) := by
  have hkept : InitOk job fails' init :=
    ⟨hinit.fresh, fun hdone => (hinit.failed hdone).imp_right hmono, hinit.passed⟩
  cases phase with
  | starting =>
    obtain ⟨hc, rfl⟩ := h
    cases answer with
    | none =>
      obtain rfl := Outcome.ret.inj (Option.some.inj hstep)
      exact ⟨phaseOk_startUpdate (hclean hc id) hdev, hkept⟩
    | _ => cases hstep
  | preUpdating row handle =>
    obtain ⟨hc, rfl, hstart⟩ := h
    cases answer with
    | none =>
      rw [Phase.step] at hstep
      cases hpre : row.preUpdateFunc with
      | success =>
        rw [hpre] at hstep
        obtain rfl := Outcome.ret.inj (Option.some.inj hstep)
        exact ⟨⟨hclean hc id, rfl, hstart, by simp [hpre]⟩, hkept⟩
      | init =>
        rw [hpre] at hstep
        obtain ⟨next, hnext, hp⟩ := Option.map_eq_some_iff.mp hstep
        obtain rfl := Outcome.ret.inj hp
        exact phaseOk_startInit (hclean hc id) hdev hkept hstart hpre hnext
    | _ => cases hstep
  | initialising row handle =>
    obtain ⟨hc, rfl, hpre, hpassed⟩ := h
    cases answer with
    | amc success =>
      obtain rfl := Outcome.ret.inj (Option.some.inj hstep)
      cases success with
      | true =>
        exact ⟨⟨hclean hc (by simp [Answer.Fails]), rfl, hpassed⟩, by simp, by simp,
          fun _ => hpassed.initialised hpre⟩
      | false => exact ⟨hanswer rfl, by simp, fun _ => .inr (hanswer rfl), by simp⟩
    | _ => cases hstep
  | updating row handle =>
    obtain ⟨hc, rfl, hpassed⟩ := h
    cases answer with
    | none =>
      rw [Phase.step] at hstep
      cases hnext : startFlash job dev row handle with
      | fault => rw [hnext] at hstep; cases hstep
      | cut => rw [hnext] at hstep; cases hstep
      | ret next =>
        rw [hnext] at hstep
        obtain rfl := Outcome.ret.inj (Option.some.inj hstep)
        exact ⟨phaseOk_startFlash (hclean hc id) hdev hpassed hnext, hkept⟩
    | _ => cases hstep
  | querying handle image =>
    obtain ⟨hc, rfl, hrow⟩ := h
    cases answer with
    | ze result =>
      obtain rfl := Outcome.ret.inj (Option.some.inj hstep)
      refine ⟨?_, hkept⟩
      dsimp only
      split
      case isTrue hok => exact ⟨hclean hc (not_not.mpr hok), rfl, hrow⟩
      case isFalse hno => exact hanswer hno
    | _ => cases hstep
  | flashing handle image =>
    obtain ⟨hc, rfl, row, handle', hpassed, hnext⟩ := h
    cases answer with
    | ze result =>
      obtain rfl := Outcome.ret.inj (Option.some.inj hstep)
      refine ⟨?_, hkept⟩
      dsimp only
      split
      case isTrue hok =>
        exact ⟨hclean hc (not_not.mpr hok), row, handle', hpassed, by rw [hnext, hok]; rfl⟩
      case isFalse hno => exact hanswer hno
    | _ => cases hstep
  | amcFlashing amcIndex =>
    obtain ⟨hc, rfl, row, handle, hpassed, hnext⟩ := h
    cases answer with
    | amc success =>
      obtain rfl := Outcome.ret.inj (Option.some.inj hstep)
      refine ⟨?_, hkept⟩
      cases success with
      | true =>
        exact ⟨hclean hc (by simp [Answer.Fails]), row, handle, hpassed, by rw [hnext]; rfl⟩
      | false => exact hanswer rfl
    | _ => cases hstep
  | _ => cases hstep

end Phases

end FirmwareUpdate

end XpuManager
