import Mathlib.Data.List.Destutter
import XpuManager.Hal.Driver
import XpuManager.Oal.DrmPath

/-! # The switch above a device

`oal/lin/lin.cpp` goes up the parents of a device in the hardware topology twice: once to count the
switches, and once for the path of a switch. Both walks pass over a bridge with the same IDs as the switch
before it. -/

namespace XpuManager

/-! ## The topology -/

/-- What the topology knows of a PCI bridge, from the side of its parent. -/
structure PcidevAttr where
  address : PciAddress
  vendorId : UInt16
  deviceId : UInt16
  deriving DecidableEq

/-- A parent of a device. -/
inductive HwlocObj where
  | hostBridge
  | pciBridge (pci : PcidevAttr)
  | other
  deriving DecidableEq

def PcidevAttr.ids (pci : PcidevAttr) : UInt16 × UInt16 := (pci.vendorId, pci.deviceId)

/-- The database has the IDs. -/
def isSwitchDevice (known : UInt16 → UInt16 → Bool) (pci : PcidevAttr) : Bool :=
  known pci.vendorId pci.deviceId

def pci2RegxString (pci : PcidevAttr) : String :=
  hexField 4 pci.address.domain ++ ":" ++ hexField 2 pci.address.bus ++ ":" ++
    hexField 2 pci.address.device ++ "." ++
    String.ofList (Nat.toDigits 16 pci.address.function.toNat)

/-- The first of the directories below `/sys/devices` that has the address for its name. -/
def getDevicePath (directories : List String) (bdfAddress : String) : String :=
  (directories.find? fun directory => fileName directory = bdfAddress).getD ""

/-! ## The walks -/

section

variable {β : Type}

/-- A walk up: the IDs of the switch before, both -1 at first, and a result. -/
structure ParentWalk (β : Type) where
  preVendorId : UInt32 := 0xFFFFFFFF
  preDeviceId : UInt32 := 0xFFFFFFFF
  result : β

/-- A turn of the loop. Bridges from the host, and those with the IDs of the switch before, are passed
over. -/
def ParentWalk.step (known : UInt16 → UInt16 → Bool) (onSwitch : β → PcidevAttr → β)
    (walk : ParentWalk β) : HwlocObj → ParentWalk β
  | .hostBridge => walk
  | .pciBridge pci =>
    if walk.preVendorId = pci.vendorId.toUInt32 ∧ walk.preDeviceId = pci.deviceId.toUInt32 then walk
    else if isSwitchDevice known pci then
      { preVendorId := pci.vendorId.toUInt32
        preDeviceId := pci.deviceId.toUInt32
        result := onSwitch walk.result pci }
    else walk
  | .other => walk

/-- The loop up the tree, with what is done at a switch as a parameter. -/
def walkParents (known : UInt16 → UInt16 → Bool) (onSwitch : β → PcidevAttr → β)
    (parents : List HwlocObj) (result : β) : β :=
  (parents.foldl (ParentWalk.step known onSwitch) { result := result }).result

end

/-- How many switches are above a device. -/
def getSwitchCount (known : UInt16 → UInt16 → Bool) (parents : List HwlocObj) : Nat :=
  walkParents known (fun count _ => count + 1) parents 0

/-- The addresses that a path was searched for, and the path that is stored. -/
structure SwitchSearch where
  searched : List String := []
  switchDevicePath : String
  deriving DecidableEq

/-- At a switch: the path of its address, which is never empty, replaces the one that is stored, if there
is one. -/
def SwitchSearch.find (directories : List String) (search : SwitchSearch) (pci : PcidevAttr) :
    SwitchSearch :=
  let path := getDevicePath directories (pci2RegxString pci)
  { searched := search.searched ++ [pci2RegxString pci]
    switchDevicePath := if path ≠ "" then path else search.switchDevicePath }

/-- The path of the switch above a device. -/
def getSwitchDevicePath (known : UInt16 → UInt16 → Bool) (directories : List String)
    (parents : List HwlocObj) (switchDevicePath : String) : SwitchSearch :=
  walkParents known (SwitchSearch.find directories) parents { switchDevicePath := switchDevicePath }

/-! ## The switches that are met -/

section

variable {α β : Type*} {R : α → α → Prop} [DecidableRel R]

theorem destutter'_eq_cons_tail (a : α) (l : List α) :
    l.destutter' R a = a :: (l.destutter' R a).tail := by
  induction l generalizing a with
  | nil => rfl
  | cons b l ih =>
    by_cases hR : R a b
    · rw [List.destutter'_cons_pos l hR, List.tail_cons]
    · rw [List.destutter'_cons_neg l hR]
      exact ih a

/-- Nothing but the first is kept when nothing is in relation to it. -/
theorem tail_destutter'_eq_nil_iff (a : α) (l : List α) :
    (l.destutter' R a).tail = [] ↔ ∀ b ∈ l, ¬R a b := by
  induction l with
  | nil => simp
  | cons b l ih =>
    by_cases hR : R a b
    · rw [List.destutter'_cons_pos l hR, List.tail_cons]
      refine iff_of_false (List.destutter'_ne_nil l R) fun h => ?_
      exact h b List.mem_cons_self hR
    · rw [List.destutter'_cons_neg l hR, ih, List.forall_mem_cons, and_iff_right hR]

end

variable {known : UInt16 → UInt16 → Bool} {parents : List HwlocObj}

def HwlocObj.pci? : HwlocObj → Option PcidevAttr
  | .pciBridge pci => some pci
  | .hostBridge | .other => none

/-- The PCI bridges on the way up. -/
def pciBridges (parents : List HwlocObj) : List PcidevAttr := parents.filterMap HwlocObj.pci?

/-- The switches on the way up. -/
def switches (known : UInt16 → UInt16 → Bool) (parents : List HwlocObj) : List PcidevAttr :=
  (pciBridges parents).filter (isSwitchDevice known)

/-- The switches without repetitions of the IDs. -/
def switchesMet (known : UInt16 → UInt16 → Bool) (parents : List HwlocObj) : List PcidevAttr :=
  (switches known parents).destutter fun a b => a.ids ≠ b.ids

section

variable {β : Type} {onSwitch : β → PcidevAttr → β}

theorem ParentWalk.step_pciBridge (walk : ParentWalk β) (pci : PcidevAttr) :
    walk.step known onSwitch (.pciBridge pci) =
      if walk.preVendorId = pci.vendorId.toUInt32 ∧ walk.preDeviceId = pci.deviceId.toUInt32 then walk
      else if isSwitchDevice known pci then
        ⟨pci.vendorId.toUInt32, pci.deviceId.toUInt32, onSwitch walk.result pci⟩
      else walk := rfl

theorem switches_pciBridge (pci : PcidevAttr) (parents : List HwlocObj) :
    switches known (.pciBridge pci :: parents) =
      if isSwitchDevice known pci then pci :: switches known parents else switches known parents :=
  List.filter_cons

/-- The walk from a switch on, by induction on the parents that are left. -/
theorem foldl_step_of_switch (pre : PcidevAttr) (parents : List HwlocObj) (result : β) :
    (parents.foldl (ParentWalk.step known onSwitch)
        ⟨pre.vendorId.toUInt32, pre.deviceId.toUInt32, result⟩).result =
      ((switches known parents).destutter' (fun a b => a.ids ≠ b.ids) pre).tail.foldl onSwitch result := by
  induction parents generalizing pre result with
  | nil => rfl
  | cons obj parents ih =>
    cases obj with
    | hostBridge => exact ih pre result
    | other => exact ih pre result
    | pciBridge pci =>
      rw [List.foldl_cons, ParentWalk.step_pciBridge, switches_pciBridge]
      by_cases hsame : pre.ids = pci.ids
      · have hids := Prod.mk.inj hsame
        rw [if_pos ⟨congrArg UInt16.toUInt32 hids.1, congrArg UInt16.toUInt32 hids.2⟩, ih]
        split
        · rw [List.destutter'_cons_neg _ (not_not_intro hsame)]
        · rfl
      · have hdiffer : ¬(pre.vendorId.toUInt32 = pci.vendorId.toUInt32 ∧
            pre.deviceId.toUInt32 = pci.deviceId.toUInt32) := by
          rw [UInt16.toUInt32_inj, UInt16.toUInt32_inj]
          exact fun h => hsame (Prod.ext h.1 h.2)
        rw [if_neg hdiffer]
        by_cases hswitch : isSwitchDevice known pci
        · rw [if_pos hswitch, if_pos hswitch, ih, List.destutter'_cons_pos _ hsame, List.tail_cons,
            destutter'_eq_cons_tail pci, List.foldl_cons]
          rfl
        · rw [if_neg hswitch, if_neg hswitch, ih]

theorem walk_ne_max (id : UInt16) : (0xFFFFFFFF : UInt32) ≠ id.toUInt32 := by
  intro h
  have hlt : id.toUInt32.toNat < 65536 := by
    rw [UInt16.toNat_toUInt32]
    exact id.toNat_lt
  rw [← h] at hlt
  exact absurd hlt (by decide)

/-- **Run lemma.** The loop meets the switches on the way up, without repetitions. -/
theorem walkParents_eq_foldl (parents : List HwlocObj) (result : β) :
    walkParents known onSwitch parents result = (switchesMet known parents).foldl onSwitch result := by
  rw [walkParents, switchesMet]
  induction parents with
  | nil => rfl
  | cons obj parents ih =>
    cases obj with
    | hostBridge => exact ih
    | other => exact ih
    | pciBridge pci =>
      rw [List.foldl_cons, ParentWalk.step_pciBridge, switches_pciBridge,
        if_neg fun h => walk_ne_max _ h.1]
      by_cases hswitch : isSwitchDevice known pci
      · rw [if_pos hswitch, if_pos hswitch, foldl_step_of_switch, List.destutter_cons',
          destutter'_eq_cons_tail pci, List.foldl_cons]
        rfl
      · rw [if_neg hswitch, if_neg hswitch]
        exact ih

end

/-- The count is the number of switches that are met. -/
theorem getSwitchCount_eq (known : UInt16 → UInt16 → Bool) (parents : List HwlocObj) :
    getSwitchCount known parents = (switchesMet known parents).length := by
  rw [getSwitchCount, walkParents_eq_foldl, List.foldl_add_const, Nat.one_mul, Nat.zero_add]

section

variable {directories : List String} {search : SwitchSearch} {pci : PcidevAttr}

theorem searched_foldl (met : List PcidevAttr) (search : SwitchSearch) :
    (met.foldl (SwitchSearch.find directories) search).searched =
      search.searched ++ met.map pci2RegxString := by
  induction met generalizing search with
  | nil => exact (List.append_nil _).symm
  | cons pci met ih =>
    rw [List.foldl_cons, ih, List.map_cons]
    show (search.searched ++ [pci2RegxString pci]) ++ _ = _
    rw [List.append_assoc]
    rfl

/-- Each of these switches has a directory. -/
def HaveDirectories (directories : List String) (pcis : List PcidevAttr) : Prop :=
  ∀ pci ∈ pcis, ∃ directory ∈ directories, fileName directory = pci2RegxString pci

/-- The path that is found for an address ends with it. -/
theorem fileName_getDevicePath {bdfAddress : String}
    (h : ∃ directory ∈ directories, fileName directory = bdfAddress) :
    fileName (getDevicePath directories bdfAddress) = bdfAddress := by
  obtain ⟨directory, hmem, hname⟩ := h
  have hsome : (directories.find? fun directory => fileName directory = bdfAddress).isSome :=
    List.find?_isSome.mpr ⟨directory, hmem, decide_eq_true hname⟩
  obtain ⟨found, hfound⟩ := Option.isSome_iff_exists.mp hsome
  rw [getDevicePath, hfound, Option.getD_some]
  exact of_decide_eq_true (p := fileName found = bdfAddress)
    (List.find?_some (p := fun directory => decide (fileName directory = bdfAddress)) hfound)

theorem pci2RegxString_ne_empty (pci : PcidevAttr) : pci2RegxString pci ≠ "" := by
  intro h
  have hlist := congrArg String.toList h
  simp [pci2RegxString] at hlist

theorem getDevicePath_ne_empty
    (h : ∃ directory ∈ directories, fileName directory = pci2RegxString pci) :
    getDevicePath directories (pci2RegxString pci) ≠ "" := by
  intro hempty
  have hname := fileName_getDevicePath h
  rw [hempty] at hname
  exact pci2RegxString_ne_empty pci hname.symm

/-- The path that is stored in the end is that of the last switch that is met. -/
theorem switchDevicePath_foldl {met : List PcidevAttr} {last : PcidevAttr}
    (hlast : met.getLast? = some last)
    (hdirectory : ∃ directory ∈ directories, fileName directory = pci2RegxString last)
    (search : SwitchSearch) :
    (met.foldl (SwitchSearch.find directories) search).switchDevicePath =
      getDevicePath directories (pci2RegxString last) := by
  obtain ⟨front, rfl⟩ := List.getLast?_eq_some_iff.mp hlast
  rw [List.foldl_concat]
  exact if_pos (getDevicePath_ne_empty hdirectory)

end

/-! ## The path of the first switch -/

section

variable (known : UInt16 → UInt16 → Bool) (directories : List String) (parents : List HwlocObj)
  (switchDevicePath : String)

/-- The first switch on the way up has the path that is stored. -/
def StoresFirst : Prop :=
  ∀ first, (switches known parents).head? = some first →
    (getSwitchDevicePath known directories parents switchDevicePath).switchDevicePath =
      getDevicePath directories (pci2RegxString first)

/-- The switches on the way up are all of one kind. -/
def OneKind : Prop :=
  ∀ first, (switches known parents).head? = some first →
    ∀ pci ∈ switches known parents, pci.ids = first.ids

end

variable {directories : List String} {switchDevicePath : String}

theorem searched_eq : (getSwitchDevicePath known directories parents switchDevicePath).searched =
    (switchesMet known parents).map pci2RegxString := by
  rw [getSwitchDevicePath, walkParents_eq_foldl, searched_foldl, List.nil_append]

/-- The two functions agree on whether there is a switch. -/
theorem getSwitchCount_pos_iff : 0 < getSwitchCount known parents ↔
    (getSwitchDevicePath known directories parents switchDevicePath).searched ≠ [] := by
  rw [getSwitchCount_eq, searched_eq, List.length_pos_iff, ne_eq, ne_eq, List.map_eq_nil_iff]

/-- Another switch is met exactly if there is one of another kind. -/
theorem storesFirst_iff (hdirectories : HaveDirectories directories (pciBridges parents))
    (hdistinct : ((pciBridges parents).map pci2RegxString).Nodup) :
    StoresFirst known directories parents switchDevicePath ↔ OneKind known parents := by
  have hsublist : (switches known parents).Sublist (pciBridges parents) := List.filter_sublist
  cases hswitches : switches known parents with
  | nil =>
    unfold StoresFirst OneKind
    rw [hswitches]
    exact iff_of_true (fun _ h => by cases h) fun _ h => by cases h
  | cons first rest =>
    rw [hswitches] at hsublist
    set more := (rest.destutter' (fun a b => a.ids ≠ b.ids) first).tail with hmore
    have hmet : switchesMet known parents = first :: more := by
      rw [switchesMet, hswitches, List.destutter_cons', destutter'_eq_cons_tail]
    have hkind : OneKind known parents ↔ more = [] := by
      unfold OneKind
      rw [hmore, tail_destutter'_eq_nil_iff, hswitches, List.head?_cons]
      simp only [Option.some.injEq, forall_eq', List.forall_mem_cons, true_and, not_not]
      exact forall₂_congr fun pci _ => eq_comm
    have hmetSublist : (first :: more).Sublist (pciBridges parents) := by
      have h := List.destutter_sublist (fun a b : PcidevAttr => a.ids ≠ b.ids) (first :: rest)
      rw [List.destutter_cons', destutter'_eq_cons_tail] at h
      exact h.trans hsublist
    have hmem : ∀ pci ∈ first :: more, ∃ directory ∈ directories, fileName directory = pci2RegxString pci :=
      fun pci hpci => hdirectories pci (hmetSublist.subset hpci)
    rw [hkind]
    unfold StoresFirst
    rw [hswitches, List.head?_cons, getSwitchDevicePath, walkParents_eq_foldl, hmet]
    simp only [Option.some.injEq, forall_eq']
    cases hlast : more.getLast? with
    | none =>
      obtain hnil := List.getLast?_eq_none_iff.mp hlast
      rw [hnil]
      refine iff_of_true ?_ rfl
      exact switchDevicePath_foldl rfl (hmem first List.mem_cons_self) _
    | some last =>
      -- The switches that are met have different addresses, and so different paths.
      have hin : last ∈ more := List.mem_of_getLast? hlast
      have hlast' : (first :: more).getLast? = some last := by
        rw [List.getLast?_cons, hlast]
        rfl
      rw [switchDevicePath_foldl hlast' (hmem last (List.mem_cons_of_mem _ hin))]
      refine iff_of_false (fun heq => ?_) fun hnil => ?_
      · have hname := congrArg fileName heq
        rw [fileName_getDevicePath (hmem last (List.mem_cons_of_mem _ hin)),
          fileName_getDevicePath (hmem first List.mem_cons_self)] at hname
        have hnodup := hdistinct.sublist (hmetSublist.map pci2RegxString)
        rw [List.map_cons, List.nodup_cons] at hnodup
        exact hnodup.1 (hname ▸ List.mem_map_of_mem hin)
      · rw [hnil] at hin
        cases hin

/-- **The switch of the path.** A switch is counted exactly if one is searched for; and when every bridge
has a directory, and an address of its own, the path that is stored is that of the first switch exactly
if all switches on the way up are of one kind. -/
theorem getSwitchDevicePath_first_iff (known : UInt16 → UInt16 → Bool) (directories : List String)
    (parents : List HwlocObj) (switchDevicePath : String) :
    (0 < getSwitchCount known parents ↔
      (getSwitchDevicePath known directories parents switchDevicePath).searched ≠ []) ∧
    (HaveDirectories directories (pciBridges parents) →
      ((pciBridges parents).map pci2RegxString).Nodup →
      (StoresFirst known directories parents switchDevicePath ↔ OneKind known parents)) :=
  ⟨getSwitchCount_pos_iff, storesFirst_iff⟩

/-- A device below two switches of different kinds. -/
def cascadedParents : List HwlocObj :=
  [.pciBridge ⟨⟨0, 4, 1, 0⟩, 0x10B5, 0x8747⟩, .pciBridge ⟨⟨0, 3, 0, 0⟩, 0x10B5, 0x8747⟩,
    .pciBridge ⟨⟨0, 2, 1, 0⟩, 0x1000, 0xC010⟩, .pciBridge ⟨⟨0, 1, 0, 0⟩, 0x1000, 0xC010⟩,
    .pciBridge ⟨⟨0, 0, 1, 0⟩, 0x8086, 0x352A⟩, .hostBridge]

def cascadedDirectories : List String :=
  ["/sys/devices/pci0000:00/0000:00:01.0",
    "/sys/devices/pci0000:00/0000:00:01.0/0000:01:00.0",
    "/sys/devices/pci0000:00/0000:00:01.0/0000:01:00.0/0000:02:01.0",
    "/sys/devices/pci0000:00/0000:00:01.0/0000:01:00.0/0000:02:01.0/0000:03:00.0",
    "/sys/devices/pci0000:00/0000:00:01.0/0000:01:00.0/0000:02:01.0/0000:03:00.0/0000:04:01.0"]

def cascadedKnown (vendorId _deviceId : UInt16) : Bool := vendorId = 0x10B5 || vendorId = 0x1000

/-- The path is that of the switch nearest to the root. -/
theorem getSwitchDevicePath_cascaded :
    HaveDirectories cascadedDirectories (pciBridges cascadedParents) ∧
      ((pciBridges cascadedParents).map pci2RegxString).Nodup ∧
      ¬StoresFirst cascadedKnown cascadedDirectories cascadedParents "" := by
  have hdirectories : HaveDirectories cascadedDirectories (pciBridges cascadedParents) := by
    unfold HaveDirectories
    decide
  have hdistinct : ((pciBridges cascadedParents).map pci2RegxString).Nodup := by decide
  refine ⟨hdirectories, hdistinct, fun hstores => ?_⟩
  have hkind := (storesFirst_iff hdirectories hdistinct).mp hstores
  exact absurd (hkind _ rfl ⟨⟨0, 2, 1, 0⟩, 0x1000, 0xC010⟩ (by decide)) (by decide)

end XpuManager
