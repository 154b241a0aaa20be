import XpuManager.Hal.Driver
import XpuManager.Lib.LastWrite
import XpuManager.Lib.Text

/-! # The firmwares of a device

`firmware::init` (`hal/core/firmware.cpp`) asks the driver for the firmwares of a device, and keeps the
handle of each one that it knows by name. -/

namespace XpuManager

namespace Firmware

open LastWrite

/-- `fwType`. -/
inductive FwType where
  | gfx
  | gfxData
  | gfxCodeData
  | opCode
  | opData
  | gfxPscbin
  | fanTable
  | vrConfig
  | amc
  | fdo
  deriving DecidableEq

/-- `STRCASECMP` finds no difference. -/
def strcasecmp (text other : Text) : Bool := text.lower = other.lower

/-- What the driver says of a firmware. -/
structure FirmwareProperties where
  name : Text
  version : Text

/-- A firmware that the driver enumerates, with its answer to `zesFirmwareGetProperties`. -/
structure EnumeratedFirmware where
  handle : Handle
  result : ZeResult
  properties : FirmwareProperties

/-- The part of `updateFWCmdStruct` that depends on the device. -/
structure UpdateFWCmd where
  firmwareHandle : Option Handle := none
  name : Text := []
  version : Text := []

/-- `updateFWCmds`. -/
abbrev UpdateFWCmds := FwType → UpdateFWCmd

/-- The firmware that has a name. -/
def indexOf (name : Text) : Option FwType :=
  if strcasecmp name "GFX".toList then some .gfx
  else if strcasecmp name "AMC".toList then some .amc
  else if strcasecmp name "GFX_DATA".toList then some .gfxData
  else if strcasecmp name "FLASH_OVERRIDE".toList then some .fdo
  else if strcasecmp name "OPTIONROM".toList then some .opCode
  else if strcasecmp name "GFX_PSCBIN".toList then some .gfxPscbin
  else if strcasecmp name "FANTABLE".toList then some .fanTable
  else if strcasecmp name "VRCONFIG".toList then some .vrConfig
  else none

/-- `ZE_RESULT_ERROR_UNKNOWN`. -/
def errorUnknown : ZeResult := .error 0x7ffffffe

/-- `getProperties`. The firmware of the option ROM is that of its data, too. -/
def getProperties (fw : EnumeratedFirmware) (cmds : UpdateFWCmds) : ZeResult × UpdateFWCmds :=
  if fw.result ≠ .success then (fw.result, cmds)
  else
    match indexOf fw.properties.name with
    | none => (errorUnknown, cmds)
    | some index =>
      let cmds := Function.update cmds index
        ⟨some fw.handle, fw.properties.name, fw.properties.version⟩
      (.success, if index = .opCode then
        Function.update cmds .opData ⟨some fw.handle, "OP_DATA".toList, fw.properties.version⟩
      else cmds)

/-- `enumFirmwares`, with `firmwareList` as it is left: handles that the driver did not give cannot be
read. -/
def enumFirmwares (device : Listing EnumeratedFirmware) :
    ZeResult × List (Option EnumeratedFirmware) :=
  if device.countResult ≠ .success ∨ device.count = 0 then (device.countResult, device.blank)
  else if device.fillResult ≠ .success then
    (device.fillResult, List.replicate device.leftCount none)
  else (.success, device.items.map some)

/-- The loop of `init`. -/
def initLoop : List (Option EnumeratedFirmware) → ZeResult → UpdateFWCmds →
    Outcome ZeResult × UpdateFWCmds
  | [], result, cmds => (.ret result, cmds)
  | none :: _, _, cmds => (.fault, cmds)
  | some fw :: rest, _, cmds =>
    let (result, cmds) := getProperties fw cmds
    if result ≠ .success then (.ret result, cmds) else initLoop rest result cmds

/-- `init`. -/
def init (device : Listing EnumeratedFirmware) (cmds : UpdateFWCmds) :
    Outcome ZeResult × UpdateFWCmds :=
  let (result, firmwareList) := enumFirmwares device
  initLoop firmwareList result cmds

/-! ## What is registered -/

/-- The firmware that `getProperties` takes it for. -/
def EnumeratedFirmware.index (fw : EnumeratedFirmware) : Option FwType :=
  if fw.result ≠ .success then none else indexOf fw.properties.name

/-- Both slots of an option ROM, or the one of any other firmware. -/
def slots (index : FwType) : List FwType :=
  if index = .opCode then [.opCode, .opData] else [index]

/-- The slots in which `getProperties` stores the handle of a firmware. -/
def EnumeratedFirmware.types (fw : EnumeratedFirmware) : List FwType :=
  fw.index.elim [] slots

/-- What a firmware writes. -/
def EnumeratedFirmware.writes (fw : EnumeratedFirmware) : List (FwType × Handle) :=
  fw.types.map fun type => (type, fw.handle)

/-- The handles that `updateFWCmds` holds. -/
def handles (cmds : UpdateFWCmds) (type : FwType) : Option Handle := (cmds type).firmwareHandle

/-- The handles with their types. -/
def registered (cmds : UpdateFWCmds) : Set (FwType × Handle) :=
  { pair | handles cmds pair.1 = some pair.2 }

/-- The driver enumerates these firmwares. -/
def enumerated (fws : List EnumeratedFirmware) : Listing EnumeratedFirmware where
  countResult := .success
  count := fws.length
  fillResult := .success
  items := fws
  fits := le_rfl
  leftCount := fws.length

/-- What `init` registers on a new object, where the driver enumerates these firmwares. -/
def initRegisters (fws : List EnumeratedFirmware) : Set (FwType × Handle) :=
  registered (init (enumerated fws) fun _ => {}).2

/-- Every firmware that is known has its handle stored, and the handles that are stored are the same
for every order of the firmwares. -/
structure RegistersAll (fws : List EnumeratedFirmware) : Prop where
  stored : ∀ fw ∈ fws, ∀ type ∈ fw.types, (type, fw.handle) ∈ initRegisters fws
  same : ∀ fws', fws'.Perm fws → initRegisters fws' = initRegisters fws

section

variable {fw fw' : EnumeratedFirmware} {fws fws' : List EnumeratedFirmware} {type index : FwType}
  {handle : Handle} {cmds : UpdateFWCmds}

theorem indexOf_ne_opData (name : Text) : indexOf name ≠ some .opData := by
  rw [indexOf]
  split_ifs <;> simp

/-- A firmware that is not known changes nothing, and is an error. -/
theorem getProperties_unknown (cmds : UpdateFWCmds) (h : fw.index = none) :
    (getProperties fw cmds).1 ≠ .success ∧ (getProperties fw cmds).2 = cmds := by
  rw [EnumeratedFirmware.index] at h
  rw [getProperties]
  by_cases hresult : fw.result = .success
  · rw [if_neg (not_not_intro hresult)] at h ⊢
    simp only [h]
    exact ⟨by decide, trivial⟩
  · rw [if_pos hresult]
    exact ⟨hresult, rfl⟩

/-- One that is known stores its handle. -/
theorem getProperties_known (cmds : UpdateFWCmds) (h : fw.index = some index) :
    (getProperties fw cmds).1 = .success ∧
      handles (getProperties fw cmds).2 = lastWrites (handles cmds) fw.writes := by
  have htypes : fw.types = slots index := by rw [EnumeratedFirmware.types, h, Option.elim]
  have hupdate (cmds : UpdateFWCmds) (type : FwType) (cmd : UpdateFWCmd) :
      handles (Function.update cmds type cmd) =
        Function.update (handles cmds) type cmd.firmwareHandle :=
    Function.comp_update UpdateFWCmd.firmwareHandle cmds type cmd
  rw [EnumeratedFirmware.writes, htypes, slots]
  rw [EnumeratedFirmware.index] at h
  rw [getProperties]
  by_cases hresult : fw.result = .success
  · rw [if_neg (not_not_intro hresult)] at h ⊢
    rw [h]
    refine ⟨rfl, ?_⟩
    by_cases hop : index = .opCode
    · dsimp only
      rw [if_pos hop, if_pos hop, hop, hupdate, hupdate]
      rfl
    · dsimp only
      rw [if_neg hop, if_neg hop, hupdate]
      rfl
  · rw [if_pos hresult] at h
    exact absurd h (by simp)

/-- The loop stores the handles of the firmwares before the first one that is not known. -/
theorem handles_initLoop (fws : List EnumeratedFirmware) (result : ZeResult) (cmds : UpdateFWCmds) :
    handles (initLoop (fws.map some) result cmds).2 = lastWrites (handles cmds)
      ((fws.takeWhile fun fw => fw.index.isSome).flatMap EnumeratedFirmware.writes) := by
  induction fws generalizing result cmds with
  | nil => rfl
  | cons fw fws ih =>
    rw [List.map_cons, initLoop]
    cases hindex : fw.index with
    | none =>
      obtain ⟨herror, hcmds⟩ := getProperties_unknown cmds hindex
      rw [List.takeWhile_cons_of_neg (by simp [hindex])]
      simp only [if_pos herror, hcmds]
      rfl
    | some index =>
      obtain ⟨hsuccess, hhandles⟩ := getProperties_known cmds hindex
      rw [List.takeWhile_cons_of_pos (by simp [hindex]), List.flatMap_cons, lastWrites_append,
        ← hhandles]
      simp only [hsuccess, ne_eq, not_true_eq_false, if_false]
      exact ih _ _

theorem init_enumerated (fws : List EnumeratedFirmware) (cmds : UpdateFWCmds) :
    init (enumerated fws) cmds = initLoop (fws.map some) .success cmds := by
  cases fws with
  | nil => rfl
  | cons fw fws => rfl

/-- The handles that `init` stores come from the firmwares before the first one that is not known. -/
theorem mem_initRegisters {pair : FwType × Handle} :
    pair ∈ initRegisters fws ↔ lastWrites (fun _ => none)
      ((fws.takeWhile fun fw => fw.index.isSome).flatMap EnumeratedFirmware.writes) pair.1 =
        some pair.2 := by
  rw [initRegisters, registered, Set.mem_ofPred_eq, init_enumerated, handles_initLoop]
  rfl

/-- A firmware that is not known keeps those behind it from being registered. -/
theorem initRegisters_unknown (h : fw.index = none) (fws : List EnumeratedFirmware) :
    initRegisters (fw :: fws) = ∅ := by
  refine Set.eq_empty_of_forall_notMem fun pair hpair => ?_
  rw [mem_initRegisters, List.takeWhile_cons_of_neg (by simp [h])] at hpair
  exact absurd hpair (by simp)

/-- Firmwares that are taken for the same one have the same handle. -/
def OneHandleEach (fws : List EnumeratedFirmware) : Prop :=
  ∀ fw ∈ fws, ∀ fw' ∈ fws, fw.index = fw'.index → fw.handle = fw'.handle

theorem mem_writes {pair : FwType × Handle} :
    pair ∈ fw.writes ↔ pair.1 ∈ fw.types ∧ pair.2 = fw.handle := by
  rw [EnumeratedFirmware.writes, List.mem_map]
  constructor
  · rintro ⟨type, htype, rfl⟩
    exact ⟨htype, rfl⟩
  · rintro ⟨htype, hhandle⟩
    exact ⟨pair.1, htype, by rw [← hhandle]⟩

/-- The firmware that stores its handle in a slot. -/
def owner (type : FwType) : FwType := if type = .opData then .opCode else type

/-- The slot of an enumerated firmware is that of the owner of each of its types. -/
theorem index_eq_owner (h : type ∈ fw.types) : fw.index = some (owner type) := by
  rw [EnumeratedFirmware.types] at h
  cases hindex : fw.index with
  | none =>
    rw [hindex] at h
    exact absurd h List.not_mem_nil
  | some index =>
    have hne : index ≠ .opData := by
      rintro rfl
      rw [EnumeratedFirmware.index] at hindex
      split at hindex
      · exact absurd hindex (by simp)
      · exact indexOf_ne_opData _ hindex
    rw [hindex, Option.elim, slots] at h
    rw [owner]
    split at h
    case isTrue hop =>
      subst hop
      rcases List.mem_cons.mp h with rfl | h
      · rfl
      · obtain rfl := List.mem_singleton.mp h
        rfl
    case isFalse hop =>
      obtain rfl := List.mem_singleton.mp h
      rw [if_neg hne]

theorem mem_types_of_index (h : fw.index = some index) : index ∈ fw.types := by
  rw [EnumeratedFirmware.types, h, Option.elim, slots]
  split
  case isTrue hop => exact hop ▸ List.mem_cons_self
  case isFalse => exact List.mem_cons_self

/-- Where each firmware has one handle, no two of them disagree about a slot. -/
theorem OneHandleEach.agree (h : OneHandleEach fws) :
    Agree (fws.flatMap EnumeratedFirmware.writes) := by
  intro type handle handle' hmem hmem'
  obtain ⟨fw, hfw, hwrite⟩ := List.mem_flatMap.mp hmem
  obtain ⟨fw', hfw', hwrite'⟩ := List.mem_flatMap.mp hmem'
  obtain ⟨htype, hhandle⟩ := mem_writes.mp hwrite
  obtain ⟨htype', hhandle'⟩ := mem_writes.mp hwrite'
  have hindex : fw.index = fw'.index := (index_eq_owner htype).trans (index_eq_owner htype').symm
  exact hhandle.trans ((h fw hfw fw' hfw' hindex).trans hhandle'.symm)

/-- Where all firmwares are known, and each has one handle, exactly these handles are registered. -/
theorem mem_initRegisters_of_known (hknown : ∀ fw ∈ fws, fw.index ≠ none) (hone : OneHandleEach fws)
    {pair : FwType × Handle} :
    pair ∈ initRegisters fws ↔ ∃ fw ∈ fws, pair.1 ∈ fw.types ∧ pair.2 = fw.handle := by
  have hall : fws.takeWhile (fun fw => fw.index.isSome) = fws :=
    List.takeWhile_eq_self_iff.mpr fun fw hfw => Option.isSome_iff_ne_none.mpr (hknown fw hfw)
  rw [mem_initRegisters, hall, lastWrites_eq_some_iff hone.agree, List.mem_flatMap]
  exact exists_congr fun fw => and_congr_right fun _ => mem_writes

/-- Where no firmware is known, nothing is registered. -/
theorem initRegisters_of_unknown (h : ∀ fw ∈ fws, fw.index = none) : initRegisters fws = ∅ := by
  cases fws with
  | nil =>
    refine Set.eq_empty_of_forall_notMem fun pair hpair => ?_
    exact absurd (mem_initRegisters.mp hpair) (by simp)
  | cons fw fws => exact initRegisters_unknown (h fw List.mem_cons_self) fws

/-- A firmware that is known keeps its place in every order only where there is none that is not. -/
theorem RegistersAll.known (h : RegistersAll fws) (hfw : fw ∈ fws) (hknown : fw.index ≠ none) :
    ∀ fw' ∈ fws, fw'.index ≠ none := by
  intro fw' hfw' hunknown
  obtain ⟨index, hindex⟩ := Option.ne_none_iff_exists'.mp hknown
  obtain ⟨before, after, rfl⟩ := List.append_of_mem hfw'
  have hfirst := h.same (fw' :: (before ++ after)) List.perm_middle.symm
  have hstored := h.stored fw hfw index (mem_types_of_index hindex)
  rw [← hfirst, initRegisters_unknown hunknown] at hstored
  exact hstored

theorem RegistersAll.oneHandleEach (h : RegistersAll fws) (hknown : ∀ fw ∈ fws, fw.index ≠ none) :
    OneHandleEach fws := by
  intro fw hfw fw' hfw' hsame
  obtain ⟨index, hindex⟩ := Option.ne_none_iff_exists'.mp (hknown fw hfw)
  have hstored := h.stored fw hfw index (mem_types_of_index hindex)
  have hstored' := h.stored fw' hfw' index (mem_types_of_index (hsame ▸ hindex))
  exact Option.some.inj (hstored.symm.trans hstored')

/-- Every known firmware is registered, in any order, exactly where no firmware is known, or all of
them are and those of one name have one handle. -/
theorem init_registers_iff (fws : List EnumeratedFirmware) :
    RegistersAll fws ↔ (∀ fw ∈ fws, fw.index = none) ∨
      (∀ fw ∈ fws, fw.index ≠ none) ∧ OneHandleEach fws := by
  constructor
  · intro h
    by_cases hnone : ∀ fw ∈ fws, fw.index = none
    · exact .inl hnone
    · obtain ⟨fw, hfw, hknown⟩ : ∃ fw ∈ fws, fw.index ≠ none := by simpa using hnone
      have hall := h.known hfw hknown
      exact .inr ⟨hall, h.oneHandleEach hall⟩
  · rintro (hnone | ⟨hall, hone⟩)
    · refine ⟨fun fw hfw type htype => ?_, fun fws' hperm => ?_⟩
      · exact absurd ((hnone fw hfw).symm.trans (index_eq_owner htype)) (by simp)
      · have hnone' : ∀ fw ∈ fws', fw.index = none := fun fw hfw => hnone fw (hperm.mem_iff.mp hfw)
        rw [initRegisters_of_unknown hnone, initRegisters_of_unknown hnone']
    · refine ⟨fun fw hfw type htype => ?_, fun fws' hperm => Set.ext fun pair => ?_⟩
      · exact (mem_initRegisters_of_known hall hone).mpr ⟨fw, hfw, htype, rfl⟩
      · have hall' : ∀ fw ∈ fws', fw.index ≠ none := fun fw hfw => hall fw (hperm.mem_iff.mp hfw)
        have hone' : OneHandleEach fws' := fun fw hfw fw' hfw' =>
          hone fw (hperm.mem_iff.mp hfw) fw' (hperm.mem_iff.mp hfw')
        rw [mem_initRegisters_of_known hall hone, mem_initRegisters_of_known hall' hone']
        exact exists_congr fun fw => and_congr_left fun _ => hperm.mem_iff

/-- A firmware of another name before the one of the graphics keeps that from being registered. -/
theorem init_unknown_first : ¬ RegistersAll
    [⟨1, .success, "PSC".toList, "2.1".toList⟩, ⟨2, .success, "GFX".toList, "1.0".toList⟩] := by
  intro h
  have hstored := h.stored _ (List.mem_cons_of_mem _ List.mem_cons_self) .gfx
    (by decide)
  rw [initRegisters_unknown (by decide)] at hstored
  exact hstored

end

end Firmware

end XpuManager
