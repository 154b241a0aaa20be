import Mathlib.Data.List.Nodup
import XpuManager.Lib.Lookups
import XpuManager.Oal.VfQuotas

/-! # What a creation of virtual functions looks up and writes

A creation checks the device and its configuration before it writes anything, and then writes its
files until one of them cannot be opened (`oal/lin/linvf.cpp`). -/

namespace XpuManager

open Numerals Lookups

/-- The contents of the files are seen. -/
def fileObservation : Observation FileState (String → String) where
  Quiet := Observes
  seen := FileState.contents
  refl := refl_of Observes
  trans := trans_of Observes
  seen_eq h := h.contents_eq

variable {io : FileIo} {pci : PciAccess} {di : DeviceSriovInfo} {s t : FileState}

/-! ## What is looked up -/

/-- The text of a file without white space at its end. -/
def textOf (io : FileIo) (contents : String → String) (path : String) : Option String :=
  (streamContent io contents path).map trimEnd

def spareDataOf (io : FileIo) (data : DeviceSriovInfo) (free : UInt64) (contents : String → String) :
    Option DeviceSriovInfo := do
  let pfIovPath := debugfsPathOf data.bdfAddress ++ "/gt0/pf"
  let lmem ← textOf io contents (pfIovPath ++ "/lmem_spare")
  let ggtt ← textOf io contents (pfIovPath ++ "/ggtt_spare")
  let doorbell ← textOf io contents (pfIovPath ++ "/doorbells_spare")
  let context ← textOf io contents (pfIovPath ++ "/contexts_spare")
  let lmemSpare ← stoul 10 lmem
  let ggttSpare ← stoul 10 ggtt
  let contextSpare ← stoi context
  let doorbellSpare ← stoi doorbell
  some { data with
    lmemSizeFree := free - lmemSpare
    ggttSizeFree := data.ggttSizeFree + ggttSpare
    contextFree := data.contextFree + UInt32.ofInt contextSpare
    doorbellFree := data.doorbellFree + UInt32.ofInt doorbellSpare }

def sriovDataOf (io : FileIo) (contents : String → String) (data : DeviceSriovInfo) :
    Option DeviceSriovInfo :=
  spareDataOf io data (freeLmem io contents (debugfsPathOf data.bdfAddress)) contents

def configAttrsOf (io : FileIo) (contents : String → String) (deviceId numVfs : UInt32) :
    Option AttrFromConfigFile :=
  let fileName := io.findResourceFile vgpuConfFile
  if io.onExists fileName = .present then do
    let content ← streamContent io contents fileName
    vfConfigOf content deviceId numVfs
  else none

/-- The attributes with which a creation begins to write, if no check fails. -/
def creationAttrs (io : FileIo) (pci : PciAccess) (contents : String → String) (di : DeviceSriovInfo) :
    Option AttrFromConfigFile := do
  let data ← sriovDataOf io contents di.scaled
  let numVfsString ← textOf io contents
    (devicePathOf (getCardNameFromDrmPath di.drmPath) ++ "/device" ++ "/sriov_numvfs")
  let numVfs ← stoi numVfsString
  if numVfs > 0 then none
  else do
    let info ← queryPciDeviceByBdf pci data.bdfAddress
    if numberRefused info data.vGpuNumber then none
    else do
      let attrs ← configAttrsOf io contents info.deviceId.toUInt32 data.vGpuNumber
      if attrs.vfLmem = 0 then none
      else if data.lmemSizeFree < lmemToUse data attrs * data.vGpuNumber.toUInt64 then none
      else some attrs

theorem finds_readStream (io : FileIo) (path : String) :
    Finds fileObservation (readStream io path) fun contents => streamContent io contents path := by
  refine ⟨observes_readStream io path, fun s a => ?_⟩
  rw [readStream_apply, Outcome.ret.injEq]
  rfl

theorem finds_readFile (io : FileIo) (path : String) :
    Finds fileObservation (readFile io path) fun contents => textOf io contents path := by
  refine ⟨observes_readFile io path, fun s a => ?_⟩
  rw [readFile_apply, Outcome.ret.injEq]
  rfl

theorem finds_loadSriovData (io : FileIo) (data : DeviceSriovInfo) :
    Finds fileObservation (loadSriovData io data) fun contents => sriovDataOf io contents data := by
  refine Finds.bind_of_ret (w := spareDataOf io data) (observes_getFreeLmemSize io _)
    (getFreeLmemSize_ret io _) fun free => ?_
  refine Finds.bind (finds_readFile io _) rfl fun lmem => ?_
  refine Finds.bind (finds_readFile io _) rfl fun ggtt => ?_
  refine Finds.bind (finds_readFile io _) rfl fun doorbell => ?_
  refine Finds.bind (finds_readFile io _) rfl fun context => ?_
  refine Finds.ofOption_bind _ fun lmemSpare => ?_
  refine Finds.ofOption_bind _ fun ggttSpare => ?_
  refine Finds.ofOption_bind _ fun contextSpare => ?_
  exact Finds.ofOption_bind _ fun doorbellSpare => Finds.pure _

theorem finds_readVfConfigFromFile (io : FileIo) (deviceId numVfs : UInt32) :
    Finds fileObservation (readVfConfigFromFile io deviceId numVfs) fun contents =>
      configAttrsOf io contents deviceId numVfs := by
  let fileName := io.findResourceFile vgpuConfFile
  let found (outcome : ExistsOutcome) (contents : String → String) : Option AttrFromConfigFile :=
    if outcome = .present then do
      let content ← streamContent io contents fileName
      vfConfigOf content deviceId numVfs
    else none
  rw [readVfConfigFromFile, fileExists, Prog.bind_assoc]
  refine Finds.bind_of_ret (w := found) (observes_pathExists io _) (fun _ => rfl) fun outcome => ?_
  cases outcome with
  | present =>
    dsimp only
    rw [Prog.pure_bind, if_neg (by decide)]
    change Finds _ _ fun contents =>
      streamContent io contents fileName >>= fun content => vfConfigOf content deviceId numVfs
    refine Finds.bind (finds_readStream io _) rfl fun content => ?_
    exact Finds.of_option _
  | absent => exact Finds.pure none
  | denied => exact ⟨fun s => refl_of Observes s, fun s a => iff_of_false nofun nofun⟩
  | failed => exact ⟨fun s => refl_of Observes s, fun s a => iff_of_false nofun nofun⟩

/-- What is read does not change what is asked for. -/
theorem sriovDataOf_request {contents : String → String} {data data' : DeviceSriovInfo}
    (h : sriovDataOf io contents data = some data') :
    data'.bdfAddress = data.bdfAddress ∧ data'.vGpuNumber = data.vGpuNumber ∧
      data'.vGpuMemorySize = data.vGpuMemorySize := by
  obtain ⟨lmem, -, h⟩ := Option.bind_eq_some_iff.mp h
  obtain ⟨ggtt, -, h⟩ := Option.bind_eq_some_iff.mp h
  obtain ⟨doorbell, -, h⟩ := Option.bind_eq_some_iff.mp h
  obtain ⟨context, -, h⟩ := Option.bind_eq_some_iff.mp h
  obtain ⟨lmemSpare, -, h⟩ := Option.bind_eq_some_iff.mp h
  obtain ⟨ggttSpare, -, h⟩ := Option.bind_eq_some_iff.mp h
  obtain ⟨contextSpare, -, h⟩ := Option.bind_eq_some_iff.mp h
  obtain ⟨doorbellSpare, -, h⟩ := Option.bind_eq_some_iff.mp h
  obtain rfl := Option.some.inj h
  exact ⟨rfl, rfl, rfl⟩

/-- A request for another size is the same otherwise. -/
theorem DeviceSriovInfo.withMemory_request (di : DeviceSriovInfo) (size : UInt64) :
    ({ di with vGpuMemorySize := size } : DeviceSriovInfo).bdfAddress = di.bdfAddress ∧
      ({ di with vGpuMemorySize := size } : DeviceSriovInfo).vGpuNumber = di.vGpuNumber :=
  ⟨rfl, rfl⟩

theorem DeviceSriovInfo.scaled_request (di : DeviceSriovInfo) :
    di.scaled.bdfAddress = di.bdfAddress ∧ di.scaled.vGpuNumber = di.vGpuNumber ∧
      di.scaled.vGpuMemorySize = di.vGpuMemorySize * oneMbInBytes :=
  ⟨(di.withMemory_request _).1, (di.withMemory_request _).2, rfl⟩

/-- **A creation** looks up its attributes, and then writes its files. -/
theorem linCreateVFs_leads (io : FileIo) (pci : PciAccess) (di : DeviceSriovInfo) :
    Leads fileObservation (linCreateVFs io pci di) (fun contents => creationAttrs io pci contents di)
      fun attrs => createVfInternal io (getCardNameFromDrmPath di.drmPath) di.bdfAddress attrs
        di.vGpuNumber (di.vGpuMemorySize * oneMbInBytes) >>= fun created =>
          pure (if created then 0 else -1) := by
  have hquiet (s : FileState) : Observes s s := refl_of Observes s
  refine Leads.bind (finds_loadSriovData io di.scaled) hquiet fun data contents hdata => ?_
  obtain ⟨hbdf, hnumber, hmemory⟩ := sriovDataOf_request hdata
  refine Leads.bind (finds_readFile io _) hquiet fun numVfsString _ _ => ?_
  refine Leads.ofOption_bind _ fun numVfs _ => ?_
  refine Leads.ite _ hquiet ?_
  cases hinfo : queryPciDeviceByBdf pci data.bdfAddress with
  | none => exact Leads.of_quiet hquiet
  | some info =>
    refine Leads.ite _ hquiet ?_
    refine Leads.bind (finds_readVfConfigFromFile io _ _) hquiet fun attrs _ _ => ?_
    refine Leads.ite _ hquiet (Leads.ite _ hquiet ?_)
    rw [hbdf, hnumber, hmemory, di.scaled_request.1, di.scaled_request.2.1, di.scaled_request.2.2]
    exact Leads.of_found attrs rfl

/-- A creation begins only where the device has no functions. -/
theorem creationAttrs_number {contents : String → String} {attrs : AttrFromConfigFile}
    (h : creationAttrs io pci contents di = some attrs) : ∃ text n, textOf io contents
      (devicePathOf (getCardNameFromDrmPath di.drmPath) ++ "/device" ++ "/sriov_numvfs") = some text ∧
        stoi text = some n ∧ n ≤ 0 := by
  obtain ⟨data, -, h⟩ := Option.bind_eq_some_iff.mp h
  obtain ⟨text, htext, h⟩ := Option.bind_eq_some_iff.mp h
  obtain ⟨n, hn, h⟩ := Option.bind_eq_some_iff.mp h
  refine ⟨text, n, htext, hn, Int.not_lt.mp fun hpos => ?_⟩
  rw [if_pos hpos] at h
  cases h

/-! ## What is written -/

/-- The directory of scheduling parameters can be looked for. -/
def LooksUp (io : FileIo) (cardName : String) : Prop :=
  io.onExists (devicePathOf cardName ++ "/device/sriov_admin") = .present ∨
    io.onExists (devicePathOf cardName ++ "/device/sriov_admin") = .absent

instance (io : FileIo) (cardName : String) : Decidable (LooksUp io cardName) :=
  inferInstanceAs (Decidable (_ ∨ _))

theorem getSriovAdminPath_apply (io : FileIo) (cardName : String) (s : FileState) :
    ∃ t, Observes s t ∧ getSriovAdminPath io cardName s =
      (if LooksUp io cardName then .ret (sriovAdminPathOf io cardName) else .fault, t) := by
  refine ⟨_, observes_getSriovAdminPath io cardName s, Prod.ext ?_ rfl⟩
  have hrun : pathExists io (devicePathOf cardName ++ "/device/sriov_admin") s = (.ret
      (io.onExists (devicePathOf cardName ++ "/device/sriov_admin")), s.log (.looked _)) := rfl
  rw [getSriovAdminPath, fileExists, Prog.bind_assoc, Prog.bind_of_ret hrun]
  cases hlook : io.onExists (devicePathOf cardName ++ "/device/sriov_admin") with
  | present => rw [if_pos (.inl hlook), sriovAdminPathOf, if_pos hlook]; rfl
  | absent =>
    rw [if_pos (.inr hlook), sriovAdminPathOf, if_neg (by rw [hlook]; decide)]
    rfl
  | denied => rw [if_neg (by rw [LooksUp, hlook]; decide)]; rfl
  | failed => rw [if_neg (by rw [LooksUp, hlook]; decide)]; rfl

/-- The files of a creation before those of the device. -/
def functionFiles (io : FileIo) (cardName bdfAddress : String) (attrs : AttrFromConfigFile)
    (vfNums : List Nat) (lmem : UInt64) : List (String × String) :=
  let sriovAdminPath := sriovAdminPathOf io cardName
  let debugfsPath := debugfsPathOf bdfAddress
  pfFiles sriovAdminPath debugfsPath attrs ++
    vfNums.flatMap (vfFiles sriovAdminPath debugfsPath attrs lmem)

/-- The files that a creation writes, up to the first that cannot be opened. If the counter of
functions starts over, the files of the device are not reached. -/
def creationWrites (io : FileIo) (cardName bdfAddress : String) (attrs : AttrFromConfigFile)
    (numVfs : UInt32) (lmem : UInt64) : List (String × String) :=
  if LooksUp io cardName then
    if numVfs.toNat + 1 = UInt32.size then
      attempted io
        (functionFiles io cardName bdfAddress attrs (vfNumbers numVfs.toNat ++ [0]) lmem)
    else attempted io (createFiles io cardName bdfAddress attrs numVfs lmem)
  else []

/-- Files are attempted behind others if those can be opened. -/
theorem attempted_append (files files' : List (String × String)) :
    attempted io (files ++ files') =
      attempted io files ++ if ∀ file ∈ files, Opens io file then attempted io files' else [] := by
  induction files with
  | nil => rfl
  | cons file files ih =>
    rw [List.cons_append, attempted, attempted, ih]
    by_cases hopen : Opens io file
    · simp only [hopen, List.forall_mem_cons, true_and, if_true, List.cons_append]
    · simp only [hopen, List.forall_mem_cons, false_and, Bool.false_eq_true, if_false,
        List.append_nil]

/-- Two lists of files, the second only after the first, and nothing more. -/
theorem writeFiles_writeFiles_state (files files' : List (String × String))
    {f : Int → Prog FileState Bool} (hf : ∀ ret s, (f ret s).2 = s) (s : FileState) :
    ((writeFiles io files >>= fun ret =>
      if ret ≠ 0 then pure false else writeFiles io files' >>= f) s).2 =
        (attempted io (files ++ files')).foldl (FileState.write io) s := by
  rw [Prog.bind_of_ret (writeFiles_apply files s), attempted_append, List.foldl_append]
  by_cases hall : ∀ file ∈ files, Opens io file
  · rw [if_pos hall, if_pos hall, if_neg (not_not_intro rfl),
      Prog.bind_of_ret (writeFiles_apply files' _), hf]
  · rw [if_neg hall, if_neg hall, if_pos (by decide)]
    rfl

/-- With the path of the card known. -/
theorem createVfInternal_of_path {cardName bdfAddress path : String} {attrs : AttrFromConfigFile}
    {numVfs : UInt32} {lmem : UInt64} (hpath : getSriovAdminPath io cardName s = (.ret path, t)) :
    createVfInternal io cardName bdfAddress attrs numVfs lmem s =
      (writeFiles io (functionFiles io cardName bdfAddress attrs (vfNumbers numVfs.toNat) lmem) >>=
        fun ret => if ret ≠ 0 then pure false
          else if numVfs.toNat + 1 = UInt32.size then
            writeFiles io (vfFiles (sriovAdminPathOf io cardName) (debugfsPathOf bdfAddress) attrs
              lmem 0) >>= fun ret => if ret ≠ 0 then pure false else Prog.cut
          else writeFiles io (deviceFiles (devicePathOf cardName) attrs numVfs) >>= fun ret =>
            pure (decide (ret = 0))) t := by
  rw [createVfInternal, Prog.bind_of_ret hpath]
  obtain rfl := getSriovAdminPath_ret hpath
  rw [functionFiles, writeFiles_append, writeVfAttrs_eq, writeVfAttrs_eq, List.flatMap_singleton]
  rfl

/-- What a creation leaves, however it ends. -/
theorem createVfInternal_state (io : FileIo) (cardName bdfAddress : String)
    (attrs : AttrFromConfigFile) (numVfs : UInt32) (lmem : UInt64) (s : FileState) :
    ∃ u, Observes s u ∧ (createVfInternal io cardName bdfAddress attrs numVfs lmem s).2 =
      (creationWrites io cardName bdfAddress attrs numVfs lmem).foldl (FileState.write io) u := by
  obtain ⟨u, hobs, hpath⟩ := getSriovAdminPath_apply io cardName s
  refine ⟨u, hobs, ?_⟩
  by_cases hlook : LooksUp io cardName
  · rw [if_pos hlook] at hpath
    rw [creationWrites, if_pos hlook, createVfInternal_of_path hpath]
    by_cases hend : numVfs.toNat + 1 = UInt32.size
    · have hsplit : functionFiles io cardName bdfAddress attrs (vfNumbers numVfs.toNat ++ [0]) lmem =
          functionFiles io cardName bdfAddress attrs (vfNumbers numVfs.toNat) lmem ++
            vfFiles (sriovAdminPathOf io cardName) (debugfsPathOf bdfAddress) attrs lmem 0 := by
        rw [functionFiles, functionFiles, List.flatMap_append, List.flatMap_singleton,
          List.append_assoc]
      simp only [if_pos hend]
      rw [hsplit]
      refine writeFiles_writeFiles_state _ _ (fun ret s => ?_) u
      split_ifs <;> rfl
    · simp only [if_neg hend]
      exact writeFiles_writeFiles_state _ _ (fun _ _ => rfl) u
  · rw [if_neg hlook] at hpath
    rw [creationWrites, if_neg hlook, createVfInternal, Prog.bind_of_fault hpath]
    rfl

/-! ## The files by their names -/

/-- The resources of a function. -/
def vfQuotas (attrs : AttrFromConfigFile) (lmem : UInt64) : List (String × String) :=
  [("/lmem_quota", toString lmem.toNat), ("/ggtt_quota", toString attrs.vfGgtt.toNat),
    ("/doorbells_quota", toString attrs.vfDoorbells.toNat),
    ("/contexts_quota", toString attrs.vfContexts.toNat)]

def quotaLeaves : List String := ["/lmem_quota", "/ggtt_quota", "/doorbells_quota", "/contexts_quota"]

def otherLeaves : List String :=
  ["/exec_quantum_ms", "/preempt_timeout_us", "/sched_priority", "/sched_if_idle",
    "/sriov_drivers_autoprobe"]

def quotaPath (bdfAddress : String) (vfNum : Nat) (leaf : String) : String :=
  debugfsVfPathOf (debugfsPathOf bdfAddress) vfNum ++ leaf

/-- A file that is neither a quota nor the number of functions. -/
def IsOther (file : String × String) : Prop := ∃ dir, ∃ leaf ∈ otherLeaves, file.1 = dir ++ leaf

/-- A quota of one of some functions. -/
def IsQuota (bdfAddress : String) (attrs : AttrFromConfigFile) (lmem : UInt64) (vfNums : List Nat)
    (file : String × String) : Prop :=
  ∃ i ∈ vfNums, ∃ quota ∈ vfQuotas attrs lmem, file = (quotaPath bdfAddress i quota.1, quota.2)

section Names

variable {cardName bdfAddress : String} {attrs : AttrFromConfigFile} {numVfs : UInt32}
  {lmem : UInt64} {i j : Nat} {leaf leaf' : String} {file : String × String} {vfNums : List Nat}

theorem isLeaf_of_quota : leaf ∈ quotaLeaves → IsLeaf leaf = true := by
  revert leaf
  decide

theorem map_fst_vfQuotas (attrs : AttrFromConfigFile) (lmem : UInt64) :
    (vfQuotas attrs lmem).map Prod.fst = quotaLeaves := rfl

/-- The content of a quota is known by its name. -/
theorem vfQuotas_content {c c' : String} (h : (leaf, c) ∈ vfQuotas attrs lmem)
    (h' : (leaf, c') ∈ vfQuotas attrs lmem) : c = c' := by
  have hnodup : ((vfQuotas attrs lmem).map Prod.fst).Nodup := by
    rw [map_fst_vfQuotas]
    decide
  exact (Prod.mk.inj (List.inj_on_of_nodup_map hnodup h h' rfl)).2

/-- **A quota** is known by its path. -/
theorem quotaPath_inj (hleaf : IsLeaf leaf) (hleaf' : IsLeaf leaf')
    (h : quotaPath bdfAddress i leaf = quotaPath bdfAddress j leaf') : i = j ∧ leaf = leaf' := by
  obtain ⟨hdir, hleaves⟩ := path_inj hleaf hleaf' h
  refine ⟨Numerals.toString_inj (String.toList_inj.mp ?_), hleaves⟩
  have hlist := congrArg String.toList hdir
  simp only [debugfsVfPathOf, String.toList_append] at hlist
  exact List.append_cancel_left hlist

theorem IsOther.fst_ne (h : IsOther file) {dir : String} (hleaf : IsLeaf leaf)
    (hnot : leaf ∉ otherLeaves) : file.1 ≠ dir ++ leaf := by
  obtain ⟨dir', leaf', hmem, hfile⟩ := h
  have hleaf' : IsLeaf leaf' := (show ∀ leaf ∈ otherLeaves, IsLeaf leaf by decide) leaf' hmem
  rw [hfile]
  intro heq
  rw [(path_inj hleaf' hleaf heq).2] at hmem
  exact hnot hmem

theorem not_isOther_quota {c : String} (hleaf : leaf ∈ quotaLeaves) :
    ¬IsOther (quotaPath bdfAddress i leaf, c) := fun h =>
  h.fst_ne (isLeaf_of_quota hleaf)
    ((show ∀ leaf ∈ quotaLeaves, leaf ∉ otherLeaves by decide) leaf hleaf) rfl

/-- The function of a quota is known by its path, and its content by its name. -/
theorem IsQuota.quota {c : String} (hleaf : leaf ∈ quotaLeaves)
    (h : IsQuota bdfAddress attrs lmem vfNums (quotaPath bdfAddress i leaf, c)) :
    i ∈ vfNums ∧ (leaf, c) ∈ vfQuotas attrs lmem := by
  obtain ⟨j, hj, quota, hquota, heq⟩ := h
  obtain ⟨hpath, rfl⟩ := Prod.mk.inj heq
  have hquotaLeaf : quota.1 ∈ quotaLeaves := List.mem_map_of_mem hquota
  obtain ⟨rfl, rfl⟩ := quotaPath_inj (isLeaf_of_quota hleaf) (isLeaf_of_quota hquotaLeaf) hpath
  exact ⟨hj, hquota⟩

theorem isOther_or_isQuota_of_vfFiles {sriovAdminPath : String}
    (h : file ∈ vfFiles sriovAdminPath (debugfsPathOf bdfAddress) attrs lmem i) (hi : i ∈ vfNums) :
    IsOther file ∨ IsQuota bdfAddress attrs lmem vfNums file := by
  rcases List.mem_append.mp h with h | h
  · left
    rcases List.mem_cons.mp h with rfl | h
    · exact ⟨_, "/exec_quantum_ms", by decide, rfl⟩
    · rw [List.mem_singleton.mp h]
      exact ⟨_, "/preempt_timeout_us", by decide, rfl⟩
  · right
    obtain ⟨quota, hquota, rfl⟩ := List.mem_map.mp (show file ∈ (vfQuotas attrs lmem).map
      fun quota => (quotaPath bdfAddress i quota.1, quota.2) from h)
    exact ⟨i, hi, quota, hquota, rfl⟩

theorem isOther_of_pfFiles {sriovAdminPath debugfsPath : String}
    (h : file ∈ pfFiles sriovAdminPath debugfsPath attrs) : IsOther file := by
  rw [pfFiles, pfSchedFiles] at h
  rcases List.mem_cons.mp h with rfl | h
  · exact ⟨_, "/exec_quantum_ms", by decide, rfl⟩
  rcases List.mem_cons.mp h with rfl | h
  · exact ⟨_, "/preempt_timeout_us", by decide, rfl⟩
  have hfile := List.mem_singleton.mp h
  split at hfile
  · exact ⟨_, "/sched_priority", by decide, congrArg Prod.fst hfile⟩
  · exact ⟨_, "/sched_if_idle", by decide, congrArg Prod.fst hfile⟩

theorem isOther_or_isQuota_of_functionFiles
    (h : file ∈ functionFiles io cardName bdfAddress attrs vfNums lmem) :
    IsOther file ∨ IsQuota bdfAddress attrs lmem vfNums file := by
  rcases List.mem_append.mp h with h | h
  · exact .inl (isOther_of_pfFiles h)
  · obtain ⟨i, hi, h⟩ := List.mem_flatMap.mp h
    exact isOther_or_isQuota_of_vfFiles h hi

theorem mem_of_attempted {files : List (String × String)} (h : file ∈ attempted io files) :
    file ∈ files := by
  induction files with
  | nil => exact h
  | cons head files ih =>
    rw [attempted] at h
    rcases List.mem_cons.mp h with rfl | h
    · exact List.mem_cons_self
    · split_ifs at h
      · exact List.mem_cons_of_mem head (ih h)
      · exact absurd h List.not_mem_nil

/-- The last file of a creation. -/
def numVfsFile (cardName : String) (numVfs : UInt32) : String × String :=
  (devicePathOf cardName ++ "/device" ++ "/sriov_numvfs", toString numVfs.toNat)

theorem IsOther.ne_numVfsFile (h : IsOther file) : file ≠ numVfsFile cardName numVfs := by
  have hne : file.1 ≠ devicePathOf cardName ++ "/device" ++ "/sriov_numvfs" :=
    h.fst_ne (by decide) (by decide)
  exact fun heq => hne (congrArg Prod.fst heq)

theorem IsQuota.ne_numVfsFile (h : IsQuota bdfAddress attrs lmem vfNums file) :
    file ≠ numVfsFile cardName numVfs := by
  obtain ⟨i, -, quota, hquota, rfl⟩ := h
  intro heq
  have hleaf : quota.1 ∈ quotaLeaves := List.mem_map_of_mem hquota
  have hname := (path_inj (isLeaf_of_quota hleaf) (by decide) (Prod.mk.inj heq).1).2
  rw [hname] at hleaf
  exact absurd hleaf (by decide)

/-- What a creation writes before the last file. -/
def earlierFiles (io : FileIo) (cardName bdfAddress : String) (attrs : AttrFromConfigFile)
    (numVfs : UInt32) (lmem : UInt64) : List (String × String) :=
  functionFiles io cardName bdfAddress attrs (vfNumbers numVfs.toNat) lmem ++
    [(devicePathOf cardName ++ "/device" ++ "/sriov_drivers_autoprobe",
      if attrs.driversAutoprobe then "1" else "0")]

theorem createFiles_eq : createFiles io cardName bdfAddress attrs numVfs lmem =
    earlierFiles io cardName bdfAddress attrs numVfs lmem ++ [numVfsFile cardName numVfs] := by
  rw [earlierFiles, List.append_assoc]
  rfl

theorem isOther_or_isQuota_of_earlierFiles
    (h : file ∈ earlierFiles io cardName bdfAddress attrs numVfs lmem) :
    IsOther file ∨ IsQuota bdfAddress attrs lmem (vfNumbers numVfs.toNat) file := by
  rcases List.mem_append.mp h with h | h
  · exact isOther_or_isQuota_of_functionFiles h
  · rw [List.mem_singleton.mp h]
    exact .inl ⟨_, "/sriov_drivers_autoprobe", by decide, rfl⟩

theorem mem_vfNumbers_concat (h : i ∈ vfNumbers numVfs.toNat) : i ∈ vfNumbers numVfs.toNat ++ [0] :=
  List.mem_append_left _ h

/-- What a creation writes, by the names. -/
theorem mem_creationWrites (h : file ∈ creationWrites io cardName bdfAddress attrs numVfs lmem) :
    IsOther file ∨ IsQuota bdfAddress attrs lmem (vfNumbers numVfs.toNat ++ [0]) file ∨
      file = numVfsFile cardName numVfs := by
  unfold creationWrites at h
  split_ifs at h
  · exact (isOther_or_isQuota_of_functionFiles (mem_of_attempted h)).imp_right .inl
  · rw [createFiles_eq] at h
    rcases List.mem_append.mp (mem_of_attempted h) with h | h
    · refine (isOther_or_isQuota_of_earlierFiles h).imp_right fun hquota => .inl ?_
      obtain ⟨i, hi, hrest⟩ := hquota
      exact ⟨i, mem_vfNumbers_concat hi, hrest⟩
    · exact .inr (.inr (List.mem_singleton.mp h))
  · exact absurd h List.not_mem_nil

/-- A quota that a creation writes is one of the functions, with the content that it has by name. -/
theorem quota_of_creationWrites {c : String} (hleaf : leaf ∈ quotaLeaves)
    (h : (quotaPath bdfAddress i leaf, c) ∈
      creationWrites io cardName bdfAddress attrs numVfs lmem) :
    i ∈ vfNumbers numVfs.toNat ++ [0] ∧ (leaf, c) ∈ vfQuotas attrs lmem := by
  rcases mem_creationWrites h with hother | hquota | heq
  · exact absurd hother (not_isOther_quota hleaf)
  · exact hquota.quota hleaf
  · have hname := (path_inj (isLeaf_of_quota hleaf) (by decide) (Prod.mk.inj heq).1).2
    rw [hname] at hleaf
    exact absurd hleaf (by decide)

/-- **The number of functions is written last**, if at all. -/
theorem creationWrites_of_numVfsFile
    (h : numVfsFile cardName numVfs ∈ creationWrites io cardName bdfAddress attrs numVfs lmem) :
    ∃ before, creationWrites io cardName bdfAddress attrs numVfs lmem =
      before ++ [numVfsFile cardName numVfs] := by
  unfold creationWrites at h ⊢
  split_ifs at h ⊢
  · rcases isOther_or_isQuota_of_functionFiles (mem_of_attempted h) with hother | hquota
    · exact absurd rfl hother.ne_numVfsFile
    · exact absurd rfl hquota.ne_numVfsFile
  · rw [createFiles_eq, attempted_append] at h ⊢
    split_ifs at h ⊢ with hall
    · refine ⟨_, congrArg _ ?_⟩
      rw [attempted, attempted, ite_self]
    · rw [List.append_nil] at h
      rcases isOther_or_isQuota_of_earlierFiles (mem_of_attempted h) with hother | hquota
      · exact absurd rfl hother.ne_numVfsFile
      · exact absurd rfl hquota.ne_numVfsFile
  · exact absurd h List.not_mem_nil

end Names

end XpuManager
