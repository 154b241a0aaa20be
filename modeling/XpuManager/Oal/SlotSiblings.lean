import XpuManager.Oal.RootPort

/-! # The devices that share a slot

Before the power of a slot is cycled, the devices below its root port are listed
(`getDevicesSharingSlotWith`, `oal/lin/lin.cpp`), as they lose their power too. -/

namespace XpuManager

/-- An entry of a directory: a directory with its own entries, or a file or link. -/
inductive SysfsEntry where
  | directory (name : String) (entries : List SysfsEntry)
  | other (name : String)

/-- What sysfs answers about the devices. -/
structure DeviceTree where
  /-- The first line of the class file of a device. -/
  classFile : String → Option String
  /-- The entries of the directory that the address of a device is resolved to. -/
  below : String → Option (List SysfsEntry)

/-- The class of the device is that of a bridge. -/
def isPciBridge (classFile : String → Option String) (bdf : String) : Bool :=
  match classFile bdf with
  | none => false
  | some classStr => 4 ≤ classStr.toList.length && classStr.toList.take 4 = "0x06".toList

mutual

/-- The loop over the entries of a directory. -/
def collectEndpointsBelow (classFile : String → Option String) (gpuBdf : String) :
    List SysfsEntry → List String
  | [] => []
  | entry :: entries =>
    collectEndpoints classFile gpuBdf entry ++ collectEndpointsBelow classFile gpuBdf entries

/-- A turn of the loop. -/
def collectEndpoints (classFile : String → Option String) (gpuBdf : String) :
    SysfsEntry → List String
  | .directory name entries =>
    if isValidBdf name then
      if isPciBridge classFile name then collectEndpointsBelow classFile gpuBdf entries
      else if name ≠ gpuBdf then [name] else []
    else []
  | .other _ => []

end

/-- The devices below the root port of a device, by recursion on the tree. -/
def getDevicesSharingSlotWith (answers : ResetAnswers) (tree : DeviceTree) (gpuBdf : String) :
    List String :=
  match rootPortOf answers gpuBdf with
  | none => []
  | some rootPortBdf =>
    match tree.below rootPortBdf with
    | none => []
    | some entries => collectEndpointsBelow tree.classFile gpuBdf entries

/-! ## What is below a root port -/

/-- The device is of base class 6, of the bridges. -/
def IsBridge (classFile : String → Option String) (bdf : String) : Prop :=
  ∃ classStr, classFile bdf = some classStr ∧ "0x06".toList <+: classStr.toList

/-- The directory of a device is below a directory, with only those of bridges in between. -/
inductive Reached (classFile : String → Option String) : List SysfsEntry → String → Prop
  | child {entries below : List SysfsEntry} {bdf : String} :
      .directory bdf below ∈ entries → isValidBdf bdf = true → Reached classFile entries bdf
  | through {entries below : List SysfsEntry} {bridge bdf : String} :
      .directory bridge below ∈ entries → isValidBdf bridge = true → IsBridge classFile bridge →
        Reached classFile below bdf → Reached classFile entries bdf

mutual

/-- The addresses of all directories of devices, however deep. -/
def deviceNames : List SysfsEntry → List String
  | [] => []
  | entry :: entries => entryNames entry ++ deviceNames entries

def entryNames : SysfsEntry → List String
  | .directory name entries =>
    if isValidBdf name then name :: deviceNames entries else deviceNames entries
  | .other _ => []

end

variable {classFile : String → Option String} {gpuBdf bdf : String} {entry : SysfsEntry}
  {entries : List SysfsEntry}

theorem isPciBridge_iff : isPciBridge classFile bdf = true ↔ IsBridge classFile bdf := by
  unfold isPciBridge IsBridge
  cases classFile bdf with
  | none => simp
  | some classStr =>
    simp only [Bool.and_eq_true, decide_eq_true_eq, Option.some.injEq, exists_eq_left']
    constructor
    · rintro ⟨-, htake⟩
      rw [← htake]
      exact List.take_prefix 4 classStr.toList
    · rintro ⟨rest, hrest⟩
      rw [← hrest]
      exact ⟨by rw [List.length_append]; exact Nat.le_add_right 4 _, rfl⟩

theorem collectEndpointsBelow_eq_flatMap (entries : List SysfsEntry) :
    collectEndpointsBelow classFile gpuBdf entries =
      entries.flatMap (collectEndpoints classFile gpuBdf) := by
  induction entries with
  | nil => rfl
  | cons entry entries ih => rw [collectEndpointsBelow, List.flatMap_cons, ih]

theorem mem_collectEndpointsBelow :
    bdf ∈ collectEndpointsBelow classFile gpuBdf entries ↔
      ∃ entry ∈ entries, bdf ∈ collectEndpoints classFile gpuBdf entry := by
  rw [collectEndpointsBelow_eq_flatMap, List.mem_flatMap]

/-- A turn of the loop, for the directory of a device. -/
theorem mem_collectEndpoints_directory {name : String} (hvalid : isValidBdf name = true) :
    bdf ∈ collectEndpoints classFile gpuBdf (.directory name entries) ↔
      (IsBridge classFile name ∧ bdf ∈ collectEndpointsBelow classFile gpuBdf entries) ∨
        ¬IsBridge classFile name ∧ name ≠ gpuBdf ∧ bdf = name := by
  rw [collectEndpoints, if_pos hvalid, ← isPciBridge_iff]
  by_cases hbridge : isPciBridge classFile name
  · simp [hbridge]
  · by_cases hgpu : name = gpuBdf
    · simp [hgpu]
    · rw [if_neg hbridge, if_pos hgpu, List.mem_singleton]
      exact ⟨fun h => .inr ⟨hbridge, hgpu, h⟩, fun h => (h.resolve_left fun h => hbridge h.1).2.2⟩

/-- A device that is to be listed: reached, no bridge, and not the one whose siblings are asked for. -/
def IsSibling (classFile : String → Option String) (gpuBdf : String) (entries : List SysfsEntry)
    (bdf : String) : Prop :=
  Reached classFile entries bdf ∧ ¬IsBridge classFile bdf ∧ bdf ≠ gpuBdf

/-- What is reached from an entry is reached from its directory. -/
theorem IsSibling.mono {others : List SysfsEntry} (h : IsSibling classFile gpuBdf entries bdf)
    (hsubset : entries ⊆ others) : IsSibling classFile gpuBdf others bdf := by
  obtain ⟨hreached, hrest⟩ := h
  refine ⟨?_, hrest⟩
  cases hreached with
  | child hmem hvalid => exact .child (hsubset hmem) hvalid
  | through hmem hvalid hbridge hbelow => exact .through (hsubset hmem) hvalid hbridge hbelow

mutual

/-- Whatever is listed is a sibling. -/
theorem isSibling_of_collected : (entries : List SysfsEntry) →
    bdf ∈ collectEndpointsBelow classFile gpuBdf entries → IsSibling classFile gpuBdf entries bdf
  | [], h => by cases h
  | entry :: entries, h => by
    rw [collectEndpointsBelow] at h
    rcases List.mem_append.mp h with h | h
    · exact (isSibling_of_collectEndpoints entry h).mono (by simp)
    · exact (isSibling_of_collected entries h).mono (List.subset_cons_self entry entries)

theorem isSibling_of_collectEndpoints : (entry : SysfsEntry) →
    bdf ∈ collectEndpoints classFile gpuBdf entry → IsSibling classFile gpuBdf [entry] bdf
  | .other _, h => by cases h
  | .directory name entries, h => by
    by_cases hvalid : isValidBdf name = true
    · rcases (mem_collectEndpoints_directory hvalid).mp h with ⟨hbridge, h⟩ | ⟨hbridge, hgpu, rfl⟩
      · obtain ⟨hreached, hrest⟩ := isSibling_of_collected entries h
        exact ⟨.through (List.mem_singleton_self _) hvalid hbridge hreached, hrest⟩
      · exact ⟨.child (List.mem_singleton_self _) hvalid, hbridge, hgpu⟩
    · rw [collectEndpoints, if_neg hvalid] at h
      cases h

end

/-- Every sibling is listed, by induction on the way to it. -/
theorem IsSibling.collected (h : IsSibling classFile gpuBdf entries bdf) :
    bdf ∈ collectEndpointsBelow classFile gpuBdf entries := by
  obtain ⟨hreached, hbridge, hgpu⟩ := h
  induction hreached with
  | child hmem hvalid =>
    exact mem_collectEndpointsBelow.mpr
      ⟨_, hmem, (mem_collectEndpoints_directory hvalid).mpr (.inr ⟨hbridge, hgpu, rfl⟩)⟩
  | through hmem hvalid hpassed _ ih =>
    exact mem_collectEndpointsBelow.mpr
      ⟨_, hmem, (mem_collectEndpoints_directory hvalid).mpr (.inl ⟨hpassed, ih hbridge hgpu⟩)⟩

mutual

/-- The list is in the order of the directories. -/
theorem collectEndpointsBelow_sublist : (entries : List SysfsEntry) →
    (collectEndpointsBelow classFile gpuBdf entries).Sublist (deviceNames entries)
  | [] => .slnil
  | entry :: entries => by
    rw [collectEndpointsBelow, deviceNames]
    exact (collectEndpoints_sublist entry).append (collectEndpointsBelow_sublist entries)

/-- In the order of the tree. -/
theorem collectEndpoints_sublist : (entry : SysfsEntry) →
    (collectEndpoints classFile gpuBdf entry).Sublist (entryNames entry)
  | .other _ => .slnil
  | .directory name entries => by
    rw [collectEndpoints, entryNames]
    by_cases hvalid : isValidBdf name
    · rw [if_pos hvalid, if_pos hvalid]
      split
      · exact (collectEndpointsBelow_sublist entries).cons name
      · split
        · exact (List.nil_sublist _).cons_cons name
        · exact List.nil_sublist _
    · rw [if_neg hvalid]
      exact List.nil_sublist _

end

/-- **The devices that share a slot.** In a tree where every address is that of one directory, the list
has each device that is reached from the root port through bridges and is neither a bridge nor the
device asked for, once, and nothing else. -/
theorem getDevicesSharingSlotWith_spec (answers : ResetAnswers) (tree : DeviceTree)
    (gpuBdf rootPortBdf : String) (entries : List SysfsEntry)
    (hport : rootPortOf answers gpuBdf = some rootPortBdf)
    (hbelow : tree.below rootPortBdf = some entries) (hnodup : (deviceNames entries).Nodup) :
    (getDevicesSharingSlotWith answers tree gpuBdf).Nodup ∧
      ∀ bdf, bdf ∈ getDevicesSharingSlotWith answers tree gpuBdf ↔
        Reached tree.classFile entries bdf ∧ ¬IsBridge tree.classFile bdf ∧ bdf ≠ gpuBdf := by
  have hcollect : getDevicesSharingSlotWith answers tree gpuBdf =
      collectEndpointsBelow tree.classFile gpuBdf entries := by
    rw [getDevicesSharingSlotWith, hport]
    dsimp only
    rw [hbelow]
  rw [hcollect]
  exact ⟨hnodup.sublist (collectEndpointsBelow_sublist entries),
    fun bdf => ⟨isSibling_of_collected entries, IsSibling.collected⟩⟩

/-- A card with a switch, on which there are a GPU and its audio device. -/
def sampleTree : DeviceTree where
  classFile bdf :=
    if bdf = "0000:4f:00.0" then some "0x030000"
    else if bdf = "0000:50:00.0" then some "0x040300"
    else some "0x060400"
  below _ := some [.other "class", .directory "power" [],
    .directory "0000:4d:00.0" [
      .directory "0000:4e:01.0" [.directory "0000:4f:00.0" [.other "class"]],
      .directory "0000:4e:02.0" [.directory "0000:50:00.0" [.other "class"]]]]

/-- The audio device shares the slot with the GPU, and nothing else does. -/
theorem getDevicesSharingSlotWith_sample :
    (getDevicesSharingSlotWith samplePathAnswers sampleTree "0000:4f:00.0").Nodup ∧
      "0000:50:00.0" ∈ getDevicesSharingSlotWith samplePathAnswers sampleTree "0000:4f:00.0" := by
  have hspec := getDevicesSharingSlotWith_spec samplePathAnswers sampleTree "0000:4f:00.0"
    "0000:4c:01.0" _ (samplePath_rootPort) rfl (by decide)
  have hswitch : IsBridge sampleTree.classFile "0000:4d:00.0" := ⟨"0x060400", by decide, by decide⟩
  have hdown : IsBridge sampleTree.classFile "0000:4e:02.0" := ⟨"0x060400", by decide, by decide⟩
  have haudio : ¬IsBridge sampleTree.classFile "0000:50:00.0" := by
    rw [← isPciBridge_iff]
    decide
  refine ⟨hspec.1, (hspec.2 _).mpr ⟨?_, haudio, by decide⟩⟩
  refine .through (.tail _ (.tail _ (.head _))) (by decide) hswitch ?_
  exact .through (.tail _ (.head _)) (by decide) hdown (.child (.head _) (by decide))

end XpuManager
