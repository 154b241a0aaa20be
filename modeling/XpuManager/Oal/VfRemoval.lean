import XpuManager.Lib.LastWrite
import XpuManager.Lib.Runs
import XpuManager.Oal.VfCreation

/-! # Quotas that a removal leaves

Virtual functions are created and removed in any order, and any access to a file may fail. A removal
clears the quotas of as many functions as the device has by its own account, which is 0 until a
creation has come to its end (`oal/lin/linvf.cpp`). -/

namespace XpuManager

open Numerals Runs LastWrite

/-! ## What files hold -/

/-- A write that its file took. -/
def FileEvent.takenWrite : FileEvent → Option (String × String)
  | .written path content outcome => if outcome = .taken then some (path, content) else none
  | _ => none

/-- What was written last to the files. -/
def held (trace : List FileEvent) : String → Option String :=
  lastWrites (fun _ => none) (trace.filterMap FileEvent.takenWrite)

/-- The file takes what is written to it. -/
def IsTaken (io : FileIo) (file : String × String) : Bool := io.onWrite file.1 file.2 = .taken

section Held

variable {io : FileIo} {s t : FileState} {files : List (String × String)}

theorem held_of_observes (h : Observes s t) : held t.trace = held s.trace := by
  obtain ⟨events, htrace, hevents⟩ := h.trace_eq
  have hnone : events.filterMap FileEvent.takenWrite = [] := by
    refine List.filterMap_eq_nil_iff.mpr fun event hmem => ?_
    cases event with
    | looked path => rfl
    | read path => rfl
    | written path content outcome => exact absurd rfl (hevents _ hmem path content outcome)
  rw [held, htrace, List.filterMap_append, hnone, List.append_nil, held]

theorem held_foldl_write (files : List (String × String)) (s : FileState) :
    held (files.foldl (FileState.write io) s).trace =
      lastWrites (held s.trace) (files.filter (IsTaken io)) := by
  have hwrites : (files.map fun file => FileEvent.written file.1 file.2
      (io.onWrite file.1 file.2)).filterMap FileEvent.takenWrite = files.filter (IsTaken io) := by
    rw [List.filterMap_map, ← List.filterMap_eq_filter]
    refine List.filterMap_congr fun file _ => ?_
    rw [Function.comp_apply, FileEvent.takenWrite, Option.guard, IsTaken]
    by_cases htaken : io.onWrite file.1 file.2 = .taken
    · rw [if_pos htaken, if_pos (decide_eq_true htaken)]
    · rw [if_neg htaken, if_neg (by rw [decide_eq_true_eq]; exact htaken)]
  rw [held, trace_foldl_write, List.filterMap_append, hwrites, lastWrites_append, held]

theorem held_write (file : String × String) (s : FileState) :
    held (s.write io file).trace = lastWrites (held s.trace) ([file].filter (IsTaken io)) :=
  held_foldl_write [file] s

theorem contents_write_of_isTaken {file : String × String} (h : IsTaken io file) (s : FileState) :
    (s.write io file).contents (io.target file.1) = file.2 := by
  have htaken : io.onWrite file.1 file.2 = .taken := of_decide_eq_true h
  rw [FileState.write, if_pos htaken]
  exact Function.update_self _ _ _

theorem contents_write_of_not_isTaken {file : String × String} (h : ¬IsTaken io file) (s : FileState) :
    (s.write io file).contents = s.contents :=
  if_neg fun htaken => h (decide_eq_true htaken)

/-- A file that is not written keeps its contents. -/
theorem contents_foldl_write {path : String}
    (h : ∀ file ∈ files, IsTaken io file → io.target file.1 ≠ path) (s : FileState) :
    (files.foldl (FileState.write io) s).contents path = s.contents path := by
  induction files generalizing s with
  | nil => rfl
  | cons file files ih =>
    rw [List.forall_mem_cons] at h
    rw [List.foldl_cons, ih h.2, FileState.write]
    by_cases htaken : io.onWrite file.1 file.2 = .taken
    · rw [if_pos htaken]
      exact Function.update_of_ne (h.1 (decide_eq_true htaken)).symm _ _
    · rw [if_neg htaken]

/-- What a run has written, in its part of the trace. -/
def Wrote (io : FileIo) (files : List (String × String)) (s t : FileState) : Prop :=
  ∃ events, t.trace = s.trace ++ events ∧ ∀ path content outcome,
    FileEvent.written path content outcome ∈ events ↔
      (path, content) ∈ files ∧ io.onWrite path content = outcome

theorem wrote_of_observes (h : Observes s t) : Wrote io [] s t := by
  obtain ⟨events, htrace, hevents⟩ := h.trace_eq
  refine ⟨events, htrace, fun path content outcome => iff_of_false (fun hmem => ?_) fun h => ?_⟩
  · exact hevents _ hmem path content outcome rfl
  · exact absurd h.1 List.not_mem_nil

theorem wrote_foldl (files : List (String × String)) (s : FileState) :
    Wrote io files s (files.foldl (FileState.write io) s) := by
  refine ⟨_, trace_foldl_write files s, fun path content outcome => ?_⟩
  rw [List.mem_map]
  constructor
  · rintro ⟨file, hmem, heq⟩
    obtain ⟨rfl, rfl, rfl⟩ := FileEvent.written.inj heq
    exact ⟨hmem, rfl⟩
  · rintro ⟨hmem, rfl⟩
    exact ⟨_, hmem, rfl⟩

theorem Wrote.trans {u : FileState} {files' : List (String × String)} (h : Wrote io files s t)
    (h' : Wrote io files' t u) : Wrote io (files ++ files') s u := by
  obtain ⟨events, htrace, hevents⟩ := h
  obtain ⟨events', htrace', hevents'⟩ := h'
  refine ⟨events ++ events', by rw [htrace', htrace, List.append_assoc], fun path content outcome => ?_⟩
  rw [List.mem_append, List.mem_append, hevents, hevents', or_and_right]

/-- All that a run wrote was taken. -/
theorem Wrote.taken_iff (h : Wrote io files s t) : (∀ path content outcome,
    FileEvent.written path content outcome ∈ t.trace.drop s.trace.length → outcome = .taken) ↔
      ∀ file ∈ files, IsTaken io file := by
  obtain ⟨events, htrace, hevents⟩ := h
  rw [htrace, List.drop_left]
  constructor
  · intro htaken file hfile
    exact decide_eq_true (htaken _ _ _ ((hevents file.1 file.2 _).mpr ⟨hfile, rfl⟩))
  · intro htakes path content outcome hmem
    obtain ⟨hfile, houtcome⟩ := (hevents path content outcome).mp hmem
    exact houtcome ▸ of_decide_eq_true (htakes _ hfile)

end Held

/-! ## A removal -/

/-- The files that a removal clears behind its first file, up to the first of each function that
cannot be opened; `none` is an exception, or a number of functions that cannot be read. -/
def clearedFiles (io : FileIo) (contents : String → String) (bdfAddress cardName : String) :
    Option (List (String × String)) := do
  let text ← textOf io contents (numVfsPathOf bdfAddress)
  if LooksUp io cardName then do
    let numVfs ← stoi text
    some ((vfNumbers numVfs.toNat).flatMap fun vfNum => attempted io
      (vfFiles (sriovAdminPathOf io cardName) (debugfsPathOf bdfAddress) {} 0 vfNum))
  else none

section Removal

variable {io : FileIo} {di : DeviceSriovInfo} {s t : FileState}

theorem clearVfAttrs_apply (sriovAdminPath debugfsPath : String) (vfNums : List Nat) (s : FileState) :
    clearVfAttrs io sriovAdminPath debugfsPath vfNums s = (.ret (),
      (vfNums.flatMap fun vfNum => attempted io (vfFiles sriovAdminPath debugfsPath {} 0 vfNum)).foldl
        (FileState.write io) s) := by
  induction vfNums generalizing s with
  | nil => rfl
  | cons vfNum vfNums ih =>
    rw [clearVfAttrs, writeVfAttr_eq, Prog.bind_of_ret (writeFiles_apply _ s), ih,
      List.flatMap_cons, List.foldl_append]

/-- The removal gets to work: the number of functions can be read, and its file can be opened. -/
def RemovalBegins (io : FileIo) (contents : String → String) (bdfAddress : String) : Prop :=
  (textOf io contents (numVfsPathOf bdfAddress)).isSome ∧ Opens io (numVfsPathOf bdfAddress, "0")

/-- How a removal ends that gets to work. -/
def removalEnd (io : FileIo) (v : FileState) : Option (List (String × String)) → Outcome Int × FileState
  | none => (.fault, v)
  | some files => (.ret 0, files.foldl (FileState.write io) v)

/-- **A removal that gets to work.** -/
theorem removeAllVFs_of_begins (h : RemovalBegins io s.contents di.bdfAddress) :
    ∃ u v, Observes s u ∧ Observes (u.write io (numVfsPathOf di.bdfAddress, "0")) v ∧
      removeAllVFs io di s = removalEnd io v
        (clearedFiles io s.contents di.bdfAddress (getCardNameFromDrmPath di.drmPath)) := by
  obtain ⟨text, htext⟩ := Option.isSome_iff_exists.mp h.1
  have hread : readFile io (numVfsPathOf di.bdfAddress) s =
      (.ret (some text), s.log (.read (numVfsPathOf di.bdfAddress))) := by
    rw [readFile_apply, ← htext]
    rfl
  have hopens : io.onWrite (numVfsPathOf di.bdfAddress) "0" ≠ .notOpened := of_decide_eq_true h.2
  have hwrite (u : FileState) : writeFile io (numVfsPathOf di.bdfAddress) "0" u =
      (.ret 0, u.write io (numVfsPathOf di.bdfAddress, "0")) := by
    rw [writeFile, if_neg hopens]
    rfl
  obtain ⟨v, hobs, hpath⟩ := getSriovAdminPath_apply io (getCardNameFromDrmPath di.drmPath)
    ((s.log (.read (numVfsPathOf di.bdfAddress))).write io (numVfsPathOf di.bdfAddress, "0"))
  refine ⟨_, v, observes_readFile io _ s, hobs, ?_⟩
  rw [removeAllVFs, Prog.bind_of_ret hread]
  dsimp only
  rw [Prog.bind_of_ret (hwrite _), if_neg (not_not_intro rfl), clearedFiles, htext]
  rw [Option.bind_eq_bind, Option.bind_some]
  by_cases hlook : LooksUp io (getCardNameFromDrmPath di.drmPath)
  · rw [if_pos hlook] at hpath ⊢
    rw [Prog.bind_of_ret hpath]
    cases stoi text with
    | none => rfl
    | some numVfs =>
      rw [Prog.ofOption_some, Prog.pure_bind, Prog.bind_of_ret (clearVfAttrs_apply _ _ _ v)]
      rfl
  · rw [if_neg hlook] at hpath ⊢
    rw [Prog.bind_of_fault hpath]
    rfl

/-- A removal that does not. -/
theorem removeAllVFs_of_not_begins (h : ¬RemovalBegins io s.contents di.bdfAddress) :
    (removeAllVFs io di s).1 = .ret (-1) ∧ (removeAllVFs io di s).2.contents = s.contents ∧
      held (removeAllVFs io di s).2.trace = held s.trace := by
  have hobs : Observes s (s.log (.read (numVfsPathOf di.bdfAddress))) :=
    observes_readFile io _ s
  have hread : readFile io (numVfsPathOf di.bdfAddress) s =
      (.ret (textOf io s.contents (numVfsPathOf di.bdfAddress)), s.log (.read _)) := rfl
  rw [removeAllVFs, Prog.bind_of_ret hread]
  cases htext : textOf io s.contents (numVfsPathOf di.bdfAddress) with
  | none => exact ⟨rfl, rfl, held_of_observes hobs⟩
  | some text =>
    have hnot : io.onWrite (numVfsPathOf di.bdfAddress) "0" = .notOpened := by
      by_contra hopens
      exact h ⟨by rw [htext]; rfl, decide_eq_true hopens⟩
    have hwrite (u : FileState) : writeFile io (numVfsPathOf di.bdfAddress) "0" u =
        (.ret (-1), u.write io (numVfsPathOf di.bdfAddress, "0")) := by
      rw [writeFile, if_pos hnot]
      rfl
    dsimp only
    rw [Prog.bind_of_ret (hwrite _), if_pos (by decide)]
    refine ⟨rfl, ?_, ?_⟩
    · rw [Prog.pure_apply, FileState.write, hnot]
      rfl
    · have htakes : ¬IsTaken io (numVfsPathOf di.bdfAddress, "0") := by
        rw [IsTaken, decide_eq_true_eq, hnot]
        decide
      rw [Prog.pure_apply, held_write, List.filter_cons_of_neg htakes, List.filter_nil,
        lastWrites_nil, held_of_observes hobs]

end Removal

/-! ## Calls on a device -/

/-- A device with its two paths, and where the links of the file system lead. Both paths lead to the
same number of functions, and no file of another name does. -/
structure SriovDevice where
  bdfAddress : String
  drmPath : String
  target : String → String
  numVfsTarget : String
  drm_target : target
    (devicePathOf (getCardNameFromDrmPath drmPath) ++ "/device" ++ "/sriov_numvfs") = numVfsTarget
  pci_target : target (numVfsPathOf bdfAddress) = numVfsTarget
  leaf_of_target : ∀ dir leaf, IsLeaf leaf → target (dir ++ leaf) = numVfsTarget →
    leaf = "/sriov_numvfs"

/-- A creation, or a removal. -/
inductive VfAction where
  | create (pci : PciAccess) (di : DeviceSriovInfo)
  | remove

/-- A call, how its accesses end, and what the other files contain when it is made. -/
structure VfCall where
  io : FileIo
  files : String → String
  action : VfAction

namespace SriovDevice

variable (device : SriovDevice)

def cardName : String := getCardNameFromDrmPath device.drmPath

/-- A request for the device. -/
def request (di : DeviceSriovInfo) : DeviceSriovInfo :=
  { di with
    bdfAddress := device.bdfAddress
    drmPath := device.drmPath }

/-- A function has a quota that is not 0. -/
structure QuotaLeft (s : FileState) (vfNum : Nat) (leaf : String) : Prop where
  pos : 1 ≤ vfNum
  mem : leaf ∈ quotaLeaves
  left : ∃ c, held s.trace (quotaPath device.bdfAddress vfNum leaf) = some c ∧ c ≠ "0"

/-- The number of functions as the device has it, if that is a number. -/
def numVfsOf (s : FileState) : Option Int := stoi (trimEnd (s.contents device.numVfsTarget))

/-- Only functions that the device has by its own account have quotas left. -/
def Covered (s : FileState) : Prop :=
  ∀ n, device.numVfsOf s = some n → ∀ i leaf, device.QuotaLeft s i leaf → (i : Int) ≤ n

/-- What a creation must do: once it has written a quota that is not 0, the device takes the number
of functions. -/
def CreationKeeps (io : FileIo) (contents : String → String) (pci : PciAccess) (di : DeviceSriovInfo) :
    Prop :=
  ∀ attrs, creationAttrs io pci contents (device.request di) = some attrs →
    let written := (creationWrites io device.cardName device.bdfAddress attrs di.vGpuNumber
      (di.vGpuMemorySize * oneMbInBytes)).filter (IsTaken io)
    numVfsFile device.cardName di.vGpuNumber ∈ written ∨
      ∀ i leaf c, 1 ≤ i → leaf ∈ quotaLeaves →
        (quotaPath device.bdfAddress i leaf, c) ∈ written → c = "0"

/-- What a removal must do: once the device has taken 0 for the number of functions, it clears every
quota that is left. -/
def RemovalKeeps (io : FileIo) (s : FileState) : Prop :=
  RemovalBegins io s.contents device.bdfAddress → IsTaken io (numVfsPathOf device.bdfAddress, "0") →
    ∀ i leaf, device.QuotaLeft s i leaf →
      ∃ files, clearedFiles io s.contents device.bdfAddress device.cardName = some files ∧
        (quotaPath device.bdfAddress i leaf, "0") ∈ files.filter (IsTaken io)

end SriovDevice

namespace VfCall

variable (device : SriovDevice) (call : VfCall)

/-- The links of the file system are those of the device. -/
def linked : FileIo := { call.io with target := device.target }

/-- The state that a call finds. Of the files only the number of functions is as it was left. -/
def before (s : FileState) : FileState :=
  { s with contents :=
      Function.update call.files device.numVfsTarget (s.contents device.numVfsTarget) }

/-- What a call does with the files. -/
def run (s : FileState) : Outcome Int × FileState :=
  match call.action with
  | .create pci di =>
    linCreateVFs (call.linked device) pci (device.request di) (call.before device s)
  | .remove => removeAllVFs (call.linked device) (device.request {}) (call.before device s)

/-- The condition for a call. -/
def KeepsCovered (s : FileState) : Prop :=
  match call.action with
  | .create pci di =>
    device.CreationKeeps (call.linked device) (call.before device s).contents pci di
  | .remove => device.RemovalKeeps (call.linked device) (call.before device s)

/-- A removal returns 0, and every file takes what it writes. -/
structure Removes (s : FileState) : Prop where
  remove : call.action = .remove
  ret : (call.run device s).1 = .ret 0
  taken : ∀ path content outcome, FileEvent.written path content outcome ∈
    (call.run device s).2.trace.drop s.trace.length → outcome = .taken

end VfCall

namespace SriovDevice

variable {device : SriovDevice} {io : FileIo} {pci : PciAccess} {di : DeviceSriovInfo}
  {s t : FileState} {i : Nat} {leaf : String}

/-! ## Quotas in a run -/

/-- Only the number of functions and what the files hold count. -/
theorem covered_congr
    (hcontents : t.contents device.numVfsTarget = s.contents device.numVfsTarget)
    (hheld : held t.trace = held s.trace) : device.Covered t ↔ device.Covered s := by
  have hleft (i : Nat) (leaf : String) : device.QuotaLeft t i leaf ↔ device.QuotaLeft s i leaf := by
    constructor
    · intro h
      exact ⟨h.pos, h.mem, hheld ▸ h.left⟩
    · intro h
      exact ⟨h.pos, h.mem, hheld ▸ h.left⟩
  simp only [Covered, numVfsOf, hcontents, hleft]

/-- A file of another name is not the number of functions. -/
theorem target_ne_of_isOther (hio : io.target = device.target) {file : String × String}
    (h : IsOther file) : io.target file.1 ≠ device.numVfsTarget := by
  obtain ⟨dir, leaf, hmem, hfile⟩ := h
  rw [hio, hfile]
  intro htarget
  have hleaf : IsLeaf leaf := (show ∀ leaf ∈ otherLeaves, IsLeaf leaf by decide) leaf hmem
  rw [device.leaf_of_target dir leaf hleaf htarget] at hmem
  exact absurd hmem (by decide)

theorem target_ne_of_isQuota (hio : io.target = device.target) {file : String × String}
    {attrs : AttrFromConfigFile} {lmem : UInt64} {vfNums : List Nat}
    (h : IsQuota device.bdfAddress attrs lmem vfNums file) :
    io.target file.1 ≠ device.numVfsTarget := by
  obtain ⟨i, -, quota, hquota, rfl⟩ := h
  rw [hio]
  intro htarget
  have hmem : quota.1 ∈ quotaLeaves := List.mem_map_of_mem hquota
  rw [device.leaf_of_target _ _ (isLeaf_of_quota hmem) htarget] at hmem
  exact absurd hmem (by decide)

/-- A function has no quota left where the device has none and is covered. -/
theorem Covered.not_left (h : device.Covered s) {n : Int} (hn : device.numVfsOf s = some n)
    (hle : n ≤ 0) : ¬device.QuotaLeft s i leaf := fun hleft => by
  have hi := h n hn i leaf hleft
  have hpos := hleft.pos
  omega

/-- What the number of functions contains is what is looked up by one of its paths. -/
theorem numVfsOf_of_textOf {path text : String} {n : Int} (hpath : io.target path = device.numVfsTarget)
    (htext : textOf io s.contents path = some text) (hn : stoi text = some n) :
    device.numVfsOf s = some n := by
  obtain ⟨content, hcontent, rfl⟩ := Option.map_eq_some_iff.mp htext
  unfold streamContent at hcontent
  split at hcontent
  · cases hcontent
  · -- nothing is read, and that is no number
    obtain rfl := Option.some.inj hcontent
    have hempty : stoi (trimEnd "") = none := by decide
    rw [hempty] at hn
    cases hn
  · obtain rfl := Option.some.inj hcontent
    rw [numVfsOf, ← hpath]
    exact hn

/-- A printed number has no white space at its end. -/
theorem trimEnd_toString (n : Nat) : trimEnd (toString n) = toString n := by
  have hdigits : ∀ c ∈ (toString n).toList, isSpace c = false := fun c hc => by
    rw [show toString n = n.repr from rfl, Nat.toList_repr] at hc
    exact not_isSpace_of_isDigit (Nat.isDigit_of_mem_toDigits (by decide) (by decide) hc)
  have hlast : (toString n).toList.rdropWhile isSpace = (toString n).toList := by
    refine List.rdropWhile_eq_self_iff.mpr fun hne => ?_
    rw [hdigits _ (List.getLast_mem hne)]
    decide
  rw [trimEnd, hlast, String.ofList_toList]

/-- A printed number is read back, if it is not too large. -/
theorem eq_of_stoi_toString {n : Nat} {m : Int} (h : stoi (trimEnd (toString n)) = some m) :
    m = n := by
  rw [trimEnd_toString, stoi, parseInt_toString] at h
  dsimp only at h
  split_ifs at h
  exact (Option.some.inj h).symm

/-! ## A creation -/

section Create

variable {attrs : AttrFromConfigFile} {numVfs : UInt32} {lmem : UInt64}

/-- What is left after a creation was written by it, if nothing was left before. -/
theorem quotaLeft_of_creation {u : FileState}
    (hnone : ∀ i leaf, ¬device.QuotaLeft u i leaf) : device.QuotaLeft
      ((creationWrites io device.cardName device.bdfAddress attrs numVfs lmem).foldl
        (FileState.write io) u) i leaf ↔ 1 ≤ i ∧ leaf ∈ quotaLeaves ∧
          ∃ c, (quotaPath device.bdfAddress i leaf, c) ∈
            (creationWrites io device.cardName device.bdfAddress attrs numVfs lmem).filter (IsTaken io) ∧
              c ≠ "0" := by
  have hheld : held ((creationWrites io device.cardName device.bdfAddress attrs numVfs lmem).foldl
      (FileState.write io) u).trace = _ := held_foldl_write _ u
  constructor
  · intro h
    obtain ⟨c, hc, hne⟩ := h.left
    rw [hheld] at hc
    refine ⟨h.pos, h.mem, c, (mem_of_lastWrites hc).resolve_left fun hbefore => ?_, hne⟩
    exact hnone i leaf ⟨h.pos, h.mem, c, hbefore, hne⟩
  · rintro ⟨hpos, hmem, c, hc, hne⟩
    refine ⟨hpos, hmem, c, ?_, hne⟩
    rw [hheld, lastWrites_eq_or]
    obtain ⟨c', hc'⟩ : ∃ c', lastWrites (fun _ => none) _ _ = some c' := exists_lastWrites hc
    have hwritten := (mem_of_lastWrites hc').resolve_left nofun
    -- both are written to one quota
    have hquota {c : String} (h : (quotaPath device.bdfAddress i leaf, c) ∈
        (creationWrites io device.cardName device.bdfAddress attrs numVfs lmem).filter (IsTaken io)) :
        (leaf, c) ∈ vfQuotas attrs lmem :=
      (quota_of_creationWrites hmem (List.mem_of_mem_filter h)).2
    rw [hc', vfQuotas_content (hquota hwritten) (hquota hc), Option.some_or]

/-- The number of functions as a creation leaves it, if that is taken. -/
theorem numVfsOf_of_creation (hio : io.target = device.target) {u : FileState} {m : Int}
    (hlast : numVfsFile device.cardName numVfs ∈
      (creationWrites io device.cardName device.bdfAddress attrs numVfs lmem).filter (IsTaken io))
    (hm : device.numVfsOf ((creationWrites io device.cardName device.bdfAddress attrs numVfs lmem).foldl
      (FileState.write io) u) = some m) : m = numVfs.toNat := by
  obtain ⟨hmem, htakes⟩ := List.mem_filter.mp hlast
  obtain ⟨before, hbefore⟩ := creationWrites_of_numVfsFile hmem
  have htarget : io.target (numVfsFile device.cardName numVfs).1 = device.numVfsTarget := by
    rw [hio]
    exact device.drm_target
  rw [hbefore, List.foldl_append, List.foldl_cons, List.foldl_nil, numVfsOf, ← htarget,
    contents_write_of_isTaken htakes] at hm
  exact eq_of_stoi_toString hm

/-- The number of functions is as it was, if that is not taken. -/
theorem numVfsOf_of_not_creation (hio : io.target = device.target) {u : FileState}
    (hlast : numVfsFile device.cardName numVfs ∉
      (creationWrites io device.cardName device.bdfAddress attrs numVfs lmem).filter (IsTaken io)) :
    device.numVfsOf ((creationWrites io device.cardName device.bdfAddress attrs numVfs lmem).foldl
      (FileState.write io) u) = device.numVfsOf u := by
  rw [numVfsOf, numVfsOf, contents_foldl_write (fun file hfile htakes => ?_) u]
  rcases mem_creationWrites hfile with hother | hquota | rfl
  · exact target_ne_of_isOther hio hother
  · exact target_ne_of_isQuota hio hquota
  · exact absurd (List.mem_filter.mpr ⟨hfile, htakes⟩) hlast

/-- **The files of a creation** keep a device without functions and quotas covered if the number of
functions is taken, or no quota. -/
theorem covered_creationWrites_iff (hio : io.target = device.target) {u : FileState} {n : Int}
    (hnone : ∀ i leaf, ¬device.QuotaLeft u i leaf) (hn : device.numVfsOf u = some n) (hle : n ≤ 0) :
    device.Covered ((creationWrites io device.cardName device.bdfAddress attrs numVfs lmem).foldl
        (FileState.write io) u) ↔
      numVfsFile device.cardName numVfs ∈
          (creationWrites io device.cardName device.bdfAddress attrs numVfs lmem).filter (IsTaken io) ∨
        ∀ i leaf c, 1 ≤ i → leaf ∈ quotaLeaves → (quotaPath device.bdfAddress i leaf, c) ∈
          (creationWrites io device.cardName device.bdfAddress attrs numVfs lmem).filter (IsTaken io) →
            c = "0" := by
  constructor
  · intro hcovered
    refine or_iff_not_imp_left.mpr fun hlast i leaf c hpos hmem hc => ?_
    by_contra hne
    have hleft := (quotaLeft_of_creation hnone).mpr ⟨hpos, hmem, c, hc, hne⟩
    have hi := hcovered n ((numVfsOf_of_not_creation hio hlast).trans hn) i leaf hleft
    omega
  · rintro (hlast | hzero) m hm i leaf hleft
    · obtain ⟨hpos, hmem, c, hc, -⟩ := (quotaLeft_of_creation hnone).mp hleft
      rw [numVfsOf_of_creation hio hlast hm]
      rcases List.mem_append.mp (quota_of_creationWrites hmem (List.mem_of_mem_filter hc)).1 with hi | hi
      · exact_mod_cast (mem_vfNumbers.mp hi).2
      · rw [List.mem_singleton.mp hi] at hpos
        exact absurd hpos (by decide)
    · obtain ⟨hpos, hmem, c, hc, hne⟩ := (quotaLeft_of_creation hnone).mp hleft
      exact absurd (hzero i leaf c hpos hmem hc) hne

/-- A program that only maps a result leaves the same state. -/
theorem state_bind_pure {α β : Type} (m : Prog FileState α) (f : α → β) (s : FileState) :
    ((m >>= fun a => pure (f a)) s).2 = (m s).2 := by
  rcases hrun : m s with ⟨a | _ | _, t⟩
  · rw [Prog.bind_of_ret hrun]
    rfl
  · rw [Prog.bind_of_fault hrun]
  · rw [Prog.bind_of_cut hrun]

/-- **What a creation leaves**: nothing new, or all that it writes from a state without quotas. -/
theorem linCreateVFs_state (hattrs : creationAttrs io pci s.contents (device.request di) = some attrs) :
    ∃ u, Observes s u ∧ (linCreateVFs io pci (device.request di) s).2 =
      (creationWrites io device.cardName device.bdfAddress attrs di.vGpuNumber
        (di.vGpuMemorySize * oneMbInBytes)).foldl (FileState.write io) u := by
  obtain ⟨u, hobs, hrun⟩ := (linCreateVFs_leads io pci (device.request di)).some s attrs hattrs
  obtain ⟨v, hobs', hstate⟩ := createVfInternal_state io device.cardName device.bdfAddress attrs
    di.vGpuNumber (di.vGpuMemorySize * oneMbInBytes) u
  refine ⟨v, trans_of Observes hobs hobs', ?_⟩
  rw [hrun, state_bind_pure]
  exact hstate

/-- **A creation** keeps the device covered exactly under its condition. -/
theorem covered_create_iff (hio : io.target = device.target) (hs : device.Covered s) :
    device.Covered (linCreateVFs io pci (device.request di) s).2 ↔
      device.CreationKeeps io s.contents pci di := by
  cases hattrs : creationAttrs io pci s.contents (device.request di) with
  | none =>
    have hobs : Observes s (linCreateVFs io pci (device.request di) s).2 :=
      (linCreateVFs_leads io pci (device.request di)).none s hattrs
    refine iff_of_true ?_ fun attrs h => ?_
    · exact (covered_congr (congrFun hobs.contents_eq _) (held_of_observes hobs)).mpr hs
    · cases hattrs.symm.trans h
  | some attrs =>
    obtain ⟨u, hobs, hstate⟩ := linCreateVFs_state hattrs
    obtain ⟨text, n, htext, hn, hle⟩ := creationAttrs_number hattrs
    have hnumber : device.numVfsOf s = some n :=
      numVfsOf_of_textOf (by rw [hio]; exact device.drm_target) htext hn
    have hnumberU : device.numVfsOf u = some n := by
      rw [numVfsOf, hobs.contents_eq]
      exact hnumber
    have hu : device.Covered u :=
      (covered_congr (congrFun hobs.contents_eq _) (held_of_observes hobs)).mpr hs
    rw [hstate, covered_creationWrites_iff hio (fun i leaf => hu.not_left hnumberU hle) hnumberU hle]
    constructor
    · intro h attrs' hattrs'
      obtain rfl := Option.some.inj (hattrs.symm.trans hattrs')
      exact h
    · exact fun h => h attrs hattrs

end Create

/-! ## A removal of quotas -/

section Remove

variable {files : List (String × String)}

theorem remove_of_begins (h : RemovalBegins io s.contents device.bdfAddress) :
    ∃ u v, Observes s u ∧ Observes (u.write io (numVfsPathOf device.bdfAddress, "0")) v ∧
      removeAllVFs io (device.request {}) s =
        removalEnd io v (clearedFiles io s.contents device.bdfAddress device.cardName) :=
  @removeAllVFs_of_begins io (device.request {}) s h

/-- What a removal clears: the files of as many functions as the device has. -/
theorem clearedFiles_eq_some {contents : String → String} {bdfAddress cardName : String}
    (h : clearedFiles io contents bdfAddress cardName = some files) :
    ∃ text n, textOf io contents (numVfsPathOf bdfAddress) = some text ∧ stoi text = some n ∧
      files = (vfNumbers n.toNat).flatMap fun vfNum => attempted io
        (vfFiles (sriovAdminPathOf io cardName) (debugfsPathOf bdfAddress) {} 0 vfNum) := by
  obtain ⟨text, htext, h⟩ := Option.bind_eq_some_iff.mp h
  split_ifs at h
  obtain ⟨n, hn, h⟩ := Option.bind_eq_some_iff.mp h
  exact ⟨text, n, htext, hn, (Option.some.inj h).symm⟩

theorem clearedFiles_of_stoi {contents : String → String} {bdfAddress cardName text : String} {n : Int}
    (htext : textOf io contents (numVfsPathOf bdfAddress) = some text) (hlook : LooksUp io cardName)
    (hn : stoi text = some n) : (clearedFiles io contents bdfAddress cardName).isSome := by
  rw [clearedFiles, htext, Option.bind_eq_bind, Option.bind_some, if_pos hlook, hn]
  rfl

theorem mem_clearedFiles {sriovAdminPath bdfAddress : String} {vfNums : List Nat}
    {file : String × String} (h : file ∈ vfNums.flatMap fun vfNum => attempted io
      (vfFiles sriovAdminPath (debugfsPathOf bdfAddress) {} 0 vfNum)) :
    IsOther file ∨ IsQuota bdfAddress {} 0 vfNums file := by
  obtain ⟨i, hi, h⟩ := List.mem_flatMap.mp h
  exact isOther_or_isQuota_of_vfFiles (mem_of_attempted h) hi

theorem clearedFiles_getD {bdfAddress cardName : String} (contents : String → String) :
    ∃ vfNums : List Nat, (clearedFiles io contents bdfAddress cardName).getD [] =
      vfNums.flatMap fun vfNum => attempted io
        (vfFiles (sriovAdminPathOf io cardName) (debugfsPathOf bdfAddress) {} 0 vfNum) := by
  cases hcleared : clearedFiles io contents bdfAddress cardName with
  | none => exact ⟨[], rfl⟩
  | some files =>
    obtain ⟨_, n, -, -, hfiles⟩ := clearedFiles_eq_some hcleared
    exact ⟨vfNumbers n.toNat, hfiles⟩

/-- Every quota that a removal writes is one of the functions, and becomes 0. -/
theorem quota_of_clearedFiles {sriovAdminPath bdfAddress c : String} {vfNums : List Nat}
    (hleaf : leaf ∈ quotaLeaves)
    (h : (quotaPath bdfAddress i leaf, c) ∈ vfNums.flatMap fun vfNum => attempted io
      (vfFiles sriovAdminPath (debugfsPathOf bdfAddress) {} 0 vfNum)) : i ∈ vfNums ∧ c = "0" := by
  rcases mem_clearedFiles h with hother | hquota
  · exact absurd hother (not_isOther_quota hleaf)
  · obtain ⟨hi, hc⟩ := hquota.quota hleaf
    exact ⟨hi, (show ∀ quota ∈ vfQuotas {} 0, quota.2 = "0" by decide) _ hc⟩

/-- The number of functions is no quota. -/
theorem quotaPath_ne_numVfsPath (hleaf : leaf ∈ quotaLeaves) :
    quotaPath device.bdfAddress i leaf ≠ numVfsPathOf device.bdfAddress := fun heq => by
  have hname := (path_inj (isLeaf_of_quota hleaf) (by decide) heq).2
  rw [hname] at hleaf
  exact absurd hleaf (by decide)

/-- **What a removal leaves**: the quotas that it does not clear. -/
theorem quotaLeft_of_removal {u v : FileState} (hobs : Observes s u)
    (hobs' : Observes (u.write io (numVfsPathOf device.bdfAddress, "0")) v)
    (hzero : ∀ i leaf c, leaf ∈ quotaLeaves →
      (quotaPath device.bdfAddress i leaf, c) ∈ files → c = "0") :
    device.QuotaLeft (files.foldl (FileState.write io) v) i leaf ↔
      device.QuotaLeft s i leaf ∧
        (quotaPath device.bdfAddress i leaf, "0") ∉ files.filter (IsTaken io) := by
  have hheld : held (files.foldl (FileState.write io) v).trace =
      lastWrites (lastWrites (held s.trace)
        ([(numVfsPathOf device.bdfAddress, "0")].filter (IsTaken io))) (files.filter (IsTaken io)) := by
    rw [held_foldl_write, held_of_observes hobs', held_write, held_of_observes hobs]
  have hfirst (hleaf : leaf ∈ quotaLeaves) : lastWrites (held s.trace)
      ([(numVfsPathOf device.bdfAddress, "0")].filter (IsTaken io)) (quotaPath device.bdfAddress i leaf) =
        held s.trace (quotaPath device.bdfAddress i leaf) := by
    refine lastWrites_of_forall_not_mem fun c hc => ?_
    have heq := List.mem_singleton.mp (List.mem_of_mem_filter hc)
    exact quotaPath_ne_numVfsPath hleaf (Prod.mk.inj heq).1
  -- a quota that is not cleared is not written at all
  have hkept (hleaf : leaf ∈ quotaLeaves)
      (h : (quotaPath device.bdfAddress i leaf, "0") ∉ files.filter (IsTaken io)) :
      held (files.foldl (FileState.write io) v).trace (quotaPath device.bdfAddress i leaf) =
        held s.trace (quotaPath device.bdfAddress i leaf) := by
    rw [hheld, lastWrites_of_forall_not_mem fun c hc => ?_, hfirst hleaf]
    rw [hzero i leaf c hleaf (List.mem_of_mem_filter hc)] at hc
    exact h hc
  constructor
  · intro h
    have hnot : (quotaPath device.bdfAddress i leaf, "0") ∉ files.filter (IsTaken io) := by
      intro hcleared
      obtain ⟨c, hc, hne⟩ := h.left
      rw [hheld, lastWrites_eq_or] at hc
      obtain ⟨c', hc'⟩ : ∃ c', lastWrites (fun _ => none) _ _ = some c' := exists_lastWrites hcleared
      have hwritten := (mem_of_lastWrites hc').resolve_left nofun
      rw [hc', hzero i leaf c' h.mem (List.mem_of_mem_filter hwritten), Option.some_or] at hc
      exact hne (Option.some.inj hc).symm
    have hleft := h.left
    rw [hkept h.mem hnot] at hleft
    exact ⟨⟨h.pos, h.mem, hleft⟩, hnot⟩
  · rintro ⟨h, hnot⟩
    refine ⟨h.pos, h.mem, ?_⟩
    rw [hkept h.mem hnot]
    exact h.left

/-- The number of functions after a removal. -/
theorem numVfsOf_of_removal (hio : io.target = device.target) {u v : FileState} (hobs : Observes s u)
    (hobs' : Observes (u.write io (numVfsPathOf device.bdfAddress, "0")) v)
    (hfiles : ∀ file ∈ files, io.target file.1 ≠ device.numVfsTarget) :
    device.numVfsOf (files.foldl (FileState.write io) v) =
      if IsTaken io (numVfsPathOf device.bdfAddress, "0") then some 0 else device.numVfsOf s := by
  have htarget : io.target (numVfsPathOf device.bdfAddress) = device.numVfsTarget := by
    rw [hio]
    exact device.pci_target
  rw [numVfsOf, contents_foldl_write (fun file hfile _ => hfiles file hfile) v, hobs'.contents_eq]
  split_ifs with htakes
  · rw [← htarget, contents_write_of_isTaken htakes]
    exact (show stoi (trimEnd "0") = some 0 by decide)
  · rw [contents_write_of_not_isTaken htakes, hobs.contents_eq, numVfsOf]

/-- **A removal** keeps the device covered exactly under its condition. -/
theorem covered_remove_iff (hio : io.target = device.target) (hs : device.Covered s) :
    device.Covered (removeAllVFs io (device.request {}) s).2 ↔ device.RemovalKeeps io s := by
  by_cases hbegins : RemovalBegins io s.contents device.bdfAddress
  · obtain ⟨u, v, hobs, hobs', hrun⟩ := remove_of_begins hbegins
    let cleared := clearedFiles io s.contents device.bdfAddress device.cardName
    have hstate : (removeAllVFs io (device.request {}) s).2 =
        (cleared.getD []).foldl (FileState.write io) v := by
      rw [hrun]
      change (removalEnd io v cleared).2 = _
      cases cleared with
      | none => rfl
      | some files => rfl
    obtain ⟨vfNums, hfiles⟩ : ∃ vfNums : List Nat, cleared.getD [] = _ := clearedFiles_getD s.contents
    have hzero : ∀ i leaf c, leaf ∈ quotaLeaves →
        (quotaPath device.bdfAddress i leaf, c) ∈ cleared.getD [] → c = "0" := by
      intro i leaf c hleaf hc
      rw [hfiles] at hc
      exact (quota_of_clearedFiles hleaf hc).2
    have hnames : ∀ file ∈ cleared.getD [], io.target file.1 ≠ device.numVfsTarget := by
      intro file hfile
      rw [hfiles] at hfile
      exact (mem_clearedFiles hfile).elim (target_ne_of_isOther hio) (target_ne_of_isQuota hio)
    have hleft (i : Nat) (leaf : String) : device.QuotaLeft _ i leaf ↔ _ :=
      quotaLeft_of_removal hobs hobs' hzero
    have hnumber := numVfsOf_of_removal hio hobs hobs' hnames
    rw [hstate]
    by_cases htakes : IsTaken io (numVfsPathOf device.bdfAddress, "0")
    · rw [if_pos htakes] at hnumber
      constructor
      · intro hcovered _ _ i leaf hbefore
        have hin : (quotaPath device.bdfAddress i leaf, "0") ∈
            (cleared.getD []).filter (IsTaken io) := by
          by_contra hnot
          have hi := hcovered 0 hnumber i leaf ((hleft i leaf).mpr ⟨hbefore, hnot⟩)
          have hpos := hbefore.pos
          omega
        cases hcleared : cleared with
        | none =>
          rw [hcleared] at hin
          cases hin
        | some files =>
          rw [hcleared] at hin
          exact ⟨files, hcleared, hin⟩
      · intro h n _ i leaf hafter
        obtain ⟨hbefore, hnot⟩ := (hleft i leaf).mp hafter
        obtain ⟨files, hcleared, hin⟩ := h hbegins htakes i leaf hbefore
        rw [show cleared = some files from hcleared] at hnot
        exact absurd hin hnot
    · rw [if_neg htakes] at hnumber
      refine iff_of_true (fun n hn i leaf hafter => ?_) fun _ h => absurd h htakes
      exact hs n (hnumber ▸ hn) i leaf ((hleft i leaf).mp hafter).1
  · obtain ⟨-, hcontents, hheld⟩ := @removeAllVFs_of_not_begins io (device.request {}) s hbegins
    refine iff_of_true ?_ fun h => absurd h hbegins
    exact (covered_congr (congrFun hcontents _) hheld).mpr hs

end Remove

end SriovDevice

/-! ## Runs -/

namespace VfCall

variable {device : SriovDevice} {call : VfCall} {s : FileState}

theorem numVfsOf_before : device.numVfsOf (call.before device s) = device.numVfsOf s := by
  have hcontents : (call.before device s).contents device.numVfsTarget =
      s.contents device.numVfsTarget := Function.update_self _ _ _
  rw [SriovDevice.numVfsOf, hcontents, SriovDevice.numVfsOf]

theorem quotaLeft_before {i : Nat} {leaf : String} :
    device.QuotaLeft (call.before device s) i leaf ↔ device.QuotaLeft s i leaf := by
  constructor
  · exact fun h => ⟨h.pos, h.mem, h.left⟩
  · exact fun h => ⟨h.pos, h.mem, h.left⟩

theorem covered_before : device.Covered (call.before device s) ↔ device.Covered s := by
  simp only [SriovDevice.Covered, numVfsOf_before, quotaLeft_before]

/-- **A call** keeps the device covered exactly under its condition. -/
theorem covered_run_iff (hs : device.Covered s) :
    device.Covered (call.run device s).2 ↔ call.KeepsCovered device s := by
  have hbefore : device.Covered (call.before device s) := covered_before.mpr hs
  unfold run KeepsCovered
  split
  · exact SriovDevice.covered_create_iff rfl hbefore
  · exact SriovDevice.covered_remove_iff rfl hbefore

/-- What a removal that gets to work has written. -/
theorem wrote_removal {io : FileIo} {file : String × String} {files : List (String × String)}
    {u v : FileState} (hobs : Observes s u) (hobs' : Observes (u.write io file) v) :
    Wrote io (file :: files) s (files.foldl (FileState.write io) v) := by
  have hfirst : Wrote io ([] ++ [file]) s (u.write io file) :=
    (wrote_of_observes hobs).trans (wrote_foldl [file] u)
  have hall := (hfirst.trans (wrote_of_observes hobs')).trans (wrote_foldl files v)
  rw [List.nil_append, List.append_nil] at hall
  exact hall

/-- **A removal that succeeds** clears the files of as many functions as the device has, and each of
its files takes what is written. -/
theorem Removes.cleared (h : call.Removes device s) : ∃ u v files n,
    Observes (call.before device s) u ∧
      Observes (u.write (call.linked device) (numVfsPathOf device.bdfAddress, "0")) v ∧
        (call.run device s).2 = files.foldl (FileState.write (call.linked device)) v ∧
          device.numVfsOf s = some n ∧ (∀ file ∈ files, IsTaken (call.linked device) file) ∧
            files = (vfNumbers n.toNat).flatMap fun vfNum => attempted (call.linked device)
              (vfFiles (sriovAdminPathOf (call.linked device) device.cardName)
                (debugfsPathOf device.bdfAddress) {} 0 vfNum) := by
  obtain ⟨hremove, hret, htaken⟩ := h
  have hrun : call.run device s =
      removeAllVFs (call.linked device) (device.request {}) (call.before device s) := by
    rw [run, hremove]
  rw [hrun] at hret htaken ⊢
  by_cases hbegins : RemovalBegins (call.linked device) (call.before device s).contents
      device.bdfAddress
  · obtain ⟨u, v, hobs, hobs', heq⟩ := SriovDevice.remove_of_begins hbegins
    cases hcleared : clearedFiles (call.linked device) (call.before device s).contents
        device.bdfAddress device.cardName with
    | none =>
      rw [hcleared] at heq
      rw [heq] at hret
      cases hret
    | some files =>
      rw [hcleared] at heq
      rw [heq] at htaken ⊢
      obtain ⟨text, n, htext, hn, hfiles⟩ := SriovDevice.clearedFiles_eq_some hcleared
      have hnumber : device.numVfsOf (call.before device s) = some n :=
        SriovDevice.numVfsOf_of_textOf device.pci_target htext hn
      have htakes := (wrote_removal hobs hobs').taken_iff.mp htaken
      refine ⟨u, v, files, n, hobs, hobs', rfl, numVfsOf_before.symm.trans hnumber, ?_, hfiles⟩
      exact fun file hfile => htakes file (List.mem_cons_of_mem _ hfile)
  · rw [(@removeAllVFs_of_not_begins _ (device.request {}) _ hbegins).1] at hret
    cases hret

/-- A removal for which every access succeeds. -/
def removal : VfCall where
  io :=
    { onExists := fun _ => .present
      onRead := fun _ => .complete
      onWrite := fun _ _ => .taken
      target := id
      findResourceFile := id }
  files := fun _ => ""
  action := .remove

theorem textOf_removal : textOf (removal.linked device) (removal.before device s).contents
    (numVfsPathOf device.bdfAddress) = some (trimEnd (s.contents device.numVfsTarget)) := by
  have hcontents : (removal.before device s).contents device.numVfsTarget =
      s.contents device.numVfsTarget := Function.update_self _ _ _
  change some (trimEnd ((removal.before device s).contents
    (device.target (numVfsPathOf device.bdfAddress)))) = _
  rw [device.pci_target, hcontents]

/-- Such a removal succeeds where the device has a number of functions. -/
theorem removal_removes {n : Int} (hn : device.numVfsOf s = some n) : removal.Removes device s := by
  have hbegins : RemovalBegins (removal.linked device) (removal.before device s).contents
      device.bdfAddress := by
    refine ⟨?_, rfl⟩
    rw [textOf_removal]
    rfl
  obtain ⟨u, v, hobs, hobs', hrun⟩ := SriovDevice.remove_of_begins hbegins
  have hsome : (clearedFiles (removal.linked device) (removal.before device s).contents
      device.bdfAddress device.cardName).isSome :=
    SriovDevice.clearedFiles_of_stoi textOf_removal (.inl rfl) hn
  obtain ⟨files, hcleared⟩ := Option.isSome_iff_exists.mp hsome
  rw [hcleared] at hrun
  refine ⟨rfl, congrArg Prod.fst hrun, ?_⟩
  have htakes : ∀ file ∈ (numVfsPathOf device.bdfAddress, "0") :: files,
      IsTaken (removal.linked device) file := fun _ _ => rfl
  have htaken := (wrote_removal hobs hobs').taken_iff.mpr htakes
  have hstate : (removal.run device s).2 =
      files.foldl (FileState.write (removal.linked device)) v := congrArg Prod.snd hrun
  rw [hstate]
  exact htaken

/-- Files of which all that are attempted can be opened are all attempted. -/
theorem attempted_of_attempted {io : FileIo} {files : List (String × String)}
    (h : ∀ file ∈ attempted io files, Opens io file) : attempted io files = files := by
  induction files with
  | nil => rfl
  | cons file files ih =>
    have hopen : Opens io file := h file List.mem_cons_self
    rw [attempted, if_pos hopen] at h ⊢
    rw [ih fun file' hmem => h file' (List.mem_cons_of_mem _ hmem)]

theorem opens_of_isTaken {io : FileIo} {file : String × String} (h : IsTaken io file) :
    Opens io file := by
  rw [Opens, of_decide_eq_true h]
  rfl

theorem quota_mem_vfFiles {sriovAdminPath bdfAddress leaf : String} {i : Nat}
    (hleaf : leaf ∈ quotaLeaves) : (quotaPath bdfAddress i leaf, "0") ∈
      vfFiles sriovAdminPath (debugfsPathOf bdfAddress) {} 0 i := by
  have hzero : (leaf, "0") ∈ vfQuotas {} 0 :=
    (show ∀ leaf ∈ quotaLeaves, (leaf, "0") ∈ vfQuotas {} 0 by decide) leaf hleaf
  exact List.mem_append_right _ (List.mem_map_of_mem
    (f := fun quota : String × String => (quotaPath bdfAddress i quota.1, quota.2)) hzero)

/-- **A device is covered** exactly if no removal that succeeds leaves a quota. -/
theorem covered_iff : device.Covered s ↔
    ∀ call : VfCall, call.Removes device s → ∀ i leaf, ¬device.QuotaLeft (call.run device s).2 i leaf := by
  constructor
  · intro hs call hremoves i leaf hleft
    obtain ⟨u, v, files, n, hobs, hobs', hrun, hn, htakes, hfiles⟩ := hremoves.cleared
    rw [hrun] at hleft
    obtain ⟨hbefore, hnot⟩ := (SriovDevice.quotaLeft_of_removal hobs hobs' fun i leaf c hleaf hc =>
      (SriovDevice.quota_of_clearedFiles hleaf (hfiles ▸ hc)).2).mp hleft
    have hi := hs n hn i leaf (quotaLeft_before.mp hbefore)
    have hpos := hbefore.pos
    have hin : (quotaPath device.bdfAddress i leaf, "0") ∈ files := by
      rw [hfiles]
      refine List.mem_flatMap.mpr ⟨i, mem_vfNumbers.mpr ⟨hpos, by omega⟩, ?_⟩
      rw [attempted_of_attempted fun file hmem => ?_]
      · exact quota_mem_vfFiles hbefore.mem
      · refine opens_of_isTaken (htakes file ?_)
        rw [hfiles]
        exact List.mem_flatMap.mpr ⟨i, mem_vfNumbers.mpr ⟨hpos, by omega⟩, hmem⟩
    exact hnot (List.mem_filter.mpr ⟨hin, htakes _ hin⟩)
  · intro h n hn i leaf hleft
    by_contra hlt
    have hremoves := removal_removes hn
    obtain ⟨u, v, files, n', hobs, hobs', hrun, hn', -, hfiles⟩ := hremoves.cleared
    obtain rfl := Option.some.inj (hn.symm.trans hn')
    refine h removal hremoves i leaf ?_
    rw [hrun]
    refine (SriovDevice.quotaLeft_of_removal hobs hobs' fun i leaf c hleaf hc =>
      (SriovDevice.quota_of_clearedFiles hleaf (hfiles ▸ hc)).2).mpr
        ⟨quotaLeft_before.mpr hleft, fun hin => ?_⟩
    rw [hfiles] at hin
    have hi := (SriovDevice.quota_of_clearedFiles hleft.mem (List.mem_of_mem_filter hin)).1
    have hle := (mem_vfNumbers.mp hi).2
    have hpos := hleft.pos
    omega

end VfCall

/-- The state after a call, however it ends. -/
def vfStep (device : SriovDevice) (s : FileState) (call : VfCall) : Option FileState :=
  some (call.run device s).2

/-- **Removals clear all quotas.** Along a run from a state where no quota has been written, every
removal that succeeds leaves no quota, exactly if all calls of the run meet their condition. -/
theorem removals_clear_iff (device : SriovDevice) (contents : String → String) (calls : List VfCall) :
    (∀ before, before <+: calls → ∀ s, follow (vfStep device) ⟨contents, []⟩ before = some s →
      ∀ call : VfCall, call.Removes device s →
        ∀ i leaf, ¬device.QuotaLeft (call.run device s).2 i leaf) ↔
      Meets (vfStep device) (fun s call => call.KeepsCovered device s) ⟨contents, []⟩ calls := by
  have hstart : device.Covered ⟨contents, []⟩ := by
    intro n _ i leaf hleft
    obtain ⟨c, hc, -⟩ := hleft.left
    cases hc
  have hkeep (s : FileState) (call : VfCall) (t : FileState) (hs : device.Covered s)
      (hstep : vfStep device s call = some t) : device.Covered t ↔ call.KeepsCovered device s := by
    obtain rfl := Option.some.inj hstep
    exact VfCall.covered_run_iff hs
  rw [← forall_prefix_iff (fun _ _ => rfl) hkeep hstart calls]
  simp only [VfCall.covered_iff]

/-! ## A creation that stops midway -/

/-- A device whose two paths to the number of functions are one file. -/
def sampleSriovDevice : SriovDevice where
  bdfAddress := "0000:03:00.0"
  drmPath := "/dev/dri/card1"
  target path :=
    if path = "/sys/class/drm/card1/device/sriov_numvfs" then
      "/sys/bus/pci/devices/0000:03:00.0/sriov_numvfs"
    else path
  numVfsTarget := "/sys/bus/pci/devices/0000:03:00.0/sriov_numvfs"
  drm_target := by decide
  pci_target := by decide
  leaf_of_target := by
    intro dir leaf hleaf htarget
    split_ifs at htarget with hpath
    · have hpath' : dir ++ leaf = "/sys/class/drm/card1/device" ++ "/sriov_numvfs" := hpath
      exact (path_inj hleaf (by decide) hpath').2
    · have hpath' : dir ++ leaf = "/sys/bus/pci/devices/0000:03:00.0" ++ "/sriov_numvfs" := htarget
      exact (path_inj hleaf (by decide) hpath').2

/-- Two functions are asked for, and the second quota of the first cannot be opened. -/
def sampleCreation : VfCall where
  io :=
    { sampleIo with
      onWrite := fun path _ =>
        if path = quotaPath "0000:03:00.0" 1 "/ggtt_quota" then .notOpened else .taken }
  files := sampleStart.contents
  action := .create samplePci (sampleVfDevice 16)

/-- The creation fails, and the removal after it succeeds without clearing the quota. -/
theorem removal_leaves_quota :
    (sampleCreation.run sampleSriovDevice sampleStart).1 = .ret (-1) ∧
      VfCall.removal.Removes sampleSriovDevice
        (sampleCreation.run sampleSriovDevice sampleStart).2 ∧
      sampleSriovDevice.QuotaLeft (VfCall.removal.run sampleSriovDevice
        (sampleCreation.run sampleSriovDevice sampleStart).2).2 1 "/lmem_quota" := by
  refine ⟨by decide +kernel, ?_, by decide, by decide, "16777216", by decide +kernel, by decide⟩
  have hn : sampleSriovDevice.numVfsOf (sampleCreation.run sampleSriovDevice sampleStart).2 = some 0 := by
    decide +kernel
  exact VfCall.removal_removes hn

end XpuManager
