import XpuManager.Oal.LinVf

/-! # The memory of virtual functions

What a successful creation of virtual functions has checked and written. -/

namespace XpuManager

open Numerals

variable {io : FileIo} {pci : PciAccess} {di : DeviceSriovInfo} {s t : FileState}

/-! ## What is read -/

/-- The size of free memory that `getFreeLmemSize` reads. -/
def freeLmem (io : FileIo) (contents : String → String) (debugfsPath : String) : UInt64 :=
  let mmPath := debugfsPath ++ "/tile0/vram_mm"
  if io.onExists mmPath = .denied then 0
  else
    match streamContent io contents
      (if io.onExists mmPath = .present then mmPath else debugfsPath ++ "/vram0_mm") with
    | none => 0
    | some content => freeSizeOf (fileLines content)

/-- The size of spare memory. -/
def spareLmem (io : FileIo) (contents : String → String) (debugfsPath : String) : Option UInt64 := do
  let content ← streamContent io contents (debugfsPath ++ "/gt0/pf" ++ "/lmem_spare")
  stoul 10 (trimEnd content)

/-- What is known of a request: the device, the configuration, and the sizes of free and spare
memory. -/
structure VfRequest where
  info : PciDeviceInfo
  attrs : AttrFromConfigFile
  free : UInt64
  spare : UInt64
  deriving DecidableEq

/-- What the files and the PCI library say of a request. -/
def vfRequest (io : FileIo) (pci : PciAccess) (contents : String → String) (di : DeviceSriovInfo) :
    Option VfRequest := do
  let spare ← spareLmem io contents (debugfsPathOf di.bdfAddress)
  let info ← queryPciDeviceByBdf pci di.bdfAddress
  let content ← streamContent io contents (io.findResourceFile vgpuConfFile)
  let attrs ← vfConfigOf content info.deviceId.toUInt32 di.vGpuNumber
  pure ⟨info, attrs, freeLmem io contents (debugfsPathOf di.bdfAddress), spare⟩

/-- The directory of scheduling parameters, if the device has it. -/
def sriovAdminPathOf (io : FileIo) (cardName : String) : String :=
  if io.onExists (devicePathOf cardName ++ "/device/sriov_admin") = .present then
    devicePathOf cardName ++ "/device/sriov_admin"
  else ""

/-! ## Functions that only read -/

theorem observes_getFreeLmemSize (io : FileIo) (path : String) :
    Prog.Within Observes (getFreeLmemSize io path) := by
  refine Prog.Within.bind (observes_pathExists io _) fun outcome => ?_
  refine Prog.Within.ite (Prog.Within.pure 0) (Prog.Within.bind (observes_readStream io _) ?_)
  intro content
  cases content with
  | none => exact Prog.Within.pure 0
  | some content => exact Prog.Within.pure _

theorem observes_ofOption {α : Type} (a : Option α) :
    Prog.Within Observes (Prog.ofOption a : Prog FileState α) := by
  cases a with
  | none => exact Prog.Within.fault
  | some a => exact Prog.Within.pure a

/-- A file is read, and without it the run ends. -/
theorem observes_readFile_bind {α : Type} {path : String} {f : Option String → Prog FileState α}
    (hnone : Prog.Within Observes (f none)) (hsome : ∀ c, Prog.Within Observes (f (some c))) :
    Prog.Within Observes (readFile io path >>= f) := by
  refine Prog.Within.bind (observes_readFile io path) fun content => ?_
  cases content with
  | none => exact hnone
  | some content => exact hsome content

theorem observes_loadSriovData (io : FileIo) (data : DeviceSriovInfo) :
    Prog.Within Observes (loadSriovData io data) := by
  refine Prog.Within.bind (observes_getFreeLmemSize io _) fun free => ?_
  refine observes_readFile_bind (Prog.Within.pure none) fun lmem => ?_
  refine observes_readFile_bind (Prog.Within.pure none) fun ggtt => ?_
  refine observes_readFile_bind (Prog.Within.pure none) fun doorbell => ?_
  refine observes_readFile_bind (Prog.Within.pure none) fun context => ?_
  refine Prog.Within.bind (observes_ofOption _) fun _ => ?_
  refine Prog.Within.bind (observes_ofOption _) fun _ => ?_
  refine Prog.Within.bind (observes_ofOption _) fun _ => ?_
  exact Prog.Within.bind (observes_ofOption _) fun _ => Prog.Within.pure _

theorem observes_readVfConfigFromFile (io : FileIo) (deviceId numVfs : UInt32) :
    Prog.Within Observes (readVfConfigFromFile io deviceId numVfs) := by
  refine Prog.Within.bind (observes_fileExists io _) fun present => ?_
  refine Prog.Within.ite (Prog.Within.pure none) (Prog.Within.bind (observes_readStream io _) ?_)
  intro content
  cases content with
  | none => exact Prog.Within.pure none
  | some content => exact Prog.Within.bind (observes_ofOption _) fun _ => Prog.Within.pure _

theorem observes_getSriovAdminPath (io : FileIo) (cardName : String) :
    Prog.Within Observes (getSriovAdminPath io cardName) :=
  Prog.Within.bind (observes_fileExists io _) fun _ => Prog.Within.pure _

/-! ## What they return -/

/-- The free memory of the files. -/
theorem getFreeLmemSize_ret (io : FileIo) (path : String) (s : FileState) :
    (getFreeLmemSize io path s).1 = .ret (freeLmem io s.contents path) := by
  have hlook : pathExists io (path ++ "/tile0/vram_mm") s =
      (.ret (io.onExists (path ++ "/tile0/vram_mm")), s.log (.looked (path ++ "/tile0/vram_mm"))) := rfl
  rw [getFreeLmemSize, Prog.bind_of_ret hlook, Prog.ite_apply, freeLmem]
  by_cases hdenied : io.onExists (path ++ "/tile0/vram_mm") = .denied
  · rw [if_pos hdenied, if_pos hdenied]
    rfl
  · rw [if_neg hdenied, if_neg hdenied, Prog.bind_of_ret readStream_apply]
    change Prod.fst ((match streamContent io s.contents _ with
      | none => pure 0
      | some content => pure (freeSizeOf (fileLines content)) : Prog FileState UInt64) _) = _
    cases streamContent io s.contents _ with
    | none => rfl
    | some content => rfl

/-- What `readFile` returned. -/
theorem readFile_eq_ret {path : String} {c : Option String}
    (h : readFile io path s = (.ret c, t)) :
    c = (streamContent io s.contents path).map trimEnd ∧ t = s.log (.read path) := by
  obtain ⟨hc, ht⟩ := Prod.mk.inj (readFile_apply.symm.trans h)
  exact ⟨(Outcome.ret.inj hc).symm, ht.symm⟩

/-- The sizes that `loadSriovData` finds. -/
theorem loadSriovData_ret {data data' : DeviceSriovInfo}
    (h : loadSriovData io data s = (.ret (some data'), t)) :
    ∃ spare, spareLmem io s.contents (debugfsPathOf data.bdfAddress) = some spare ∧
      data'.lmemSizeFree = freeLmem io s.contents (debugfsPathOf data.bdfAddress) - spare ∧
        data'.vGpuNumber = data.vGpuNumber ∧ data'.vGpuMemorySize = data.vGpuMemorySize ∧
          data'.eccState = data.eccState ∧ data'.bdfAddress = data.bdfAddress := by
  obtain ⟨free, s₁, hfree, h⟩ := Prog.bind_eq_ret_iff.mp h
  have hsame := observes_getFreeLmemSize io (debugfsPathOf data.bdfAddress) s
  have hvalue := getFreeLmemSize_ret io (debugfsPathOf data.bdfAddress) s
  rw [hfree] at hsame hvalue
  obtain ⟨lmem, s₂, hlmem, h⟩ := Prog.bind_eq_ret_iff.mp h
  obtain ⟨hlmem, -⟩ := readFile_eq_ret hlmem
  cases lmem with
  | none => cases (Prog.pure_eq_ret_iff.mp h).1
  | some lmem =>
  obtain ⟨ggtt, s₃, -, h⟩ := Prog.bind_eq_ret_iff.mp h
  cases ggtt with
  | none => cases (Prog.pure_eq_ret_iff.mp h).1
  | some ggtt =>
  obtain ⟨doorbell, s₄, -, h⟩ := Prog.bind_eq_ret_iff.mp h
  cases doorbell with
  | none => cases (Prog.pure_eq_ret_iff.mp h).1
  | some doorbell =>
  obtain ⟨context, s₅, -, h⟩ := Prog.bind_eq_ret_iff.mp h
  cases context with
  | none => cases (Prog.pure_eq_ret_iff.mp h).1
  | some context =>
  obtain ⟨spare, s₆, hspare, h⟩ := Prog.bind_eq_ret_iff.mp h
  obtain ⟨_, s₇, -, h⟩ := Prog.bind_eq_ret_iff.mp h
  obtain ⟨_, s₈, -, h⟩ := Prog.bind_eq_ret_iff.mp h
  obtain ⟨_, s₉, -, h⟩ := Prog.bind_eq_ret_iff.mp h
  obtain ⟨hspare, -⟩ := Prog.ofOption_eq_ret_iff.mp hspare
  obtain ⟨hdata, -⟩ := Prog.pure_eq_ret_iff.mp h
  obtain rfl := Option.some.inj hdata
  obtain rfl := Outcome.ret.inj hvalue
  rw [hsame.contents_eq] at hlmem
  obtain ⟨content, hcontent, rfl⟩ := Option.map_eq_some_iff.mp hlmem.symm
  refine ⟨spare, ?_, rfl, rfl, rfl, rfl, rfl⟩
  rw [spareLmem, hcontent, Option.bind_eq_bind, Option.bind_some]
  exact hspare

/-- The configuration that `readVfConfigFromFile` finds. -/
theorem readVfConfigFromFile_ret {deviceId numVfs : UInt32} {attrs : AttrFromConfigFile}
    (h : readVfConfigFromFile io deviceId numVfs s = (.ret (some attrs), t)) :
    ∃ content, streamContent io s.contents (io.findResourceFile vgpuConfFile) = some content ∧
      vfConfigOf content deviceId numVfs = some attrs := by
  obtain ⟨present, s₁, hpresent, h⟩ := Prog.bind_eq_ret_iff.mp h
  have hsame := observes_fileExists io (io.findResourceFile vgpuConfFile) s
  rw [hpresent] at hsame
  cases present with
  | false => cases (Prog.pure_eq_ret_iff.mp h).1
  | true =>
  obtain ⟨content, s₂, hcontent, h⟩ := Prog.bind_eq_ret_iff.mp h
  obtain ⟨hvalue, -⟩ := Prod.mk.inj (readStream_apply.symm.trans hcontent)
  cases content with
  | none => cases (Prog.pure_eq_ret_iff.mp h).1
  | some content =>
  obtain ⟨attrs', s₃, hattrs, h⟩ := Prog.bind_eq_ret_iff.mp h
  obtain ⟨hattrs, -⟩ := Prog.ofOption_eq_ret_iff.mp hattrs
  obtain rfl := Option.some.inj (Prog.pure_eq_ret_iff.mp h).1
  rw [hsame.contents_eq] at hvalue
  exact ⟨content, Outcome.ret.inj hvalue, hattrs⟩

theorem getSriovAdminPath_ret {cardName path : String}
    (h : getSriovAdminPath io cardName s = (.ret path, t)) : path = sriovAdminPathOf io cardName := by
  obtain ⟨present, s₁, hpresent, h⟩ := Prog.bind_eq_ret_iff.mp h
  obtain ⟨hpath, -⟩ := Prog.pure_eq_ret_iff.mp h
  obtain ⟨outcome, s₂, houtcome, hpresent⟩ := Prog.bind_eq_ret_iff.mp hpresent
  obtain ⟨hio, -⟩ := Prod.mk.inj houtcome
  have hio := Outcome.ret.inj hio
  rw [← hpath, sriovAdminPathOf, hio]
  cases outcome with
  | present => rw [← (Prog.pure_eq_ret_iff.mp hpresent).1]; rfl
  | absent => rw [← (Prog.pure_eq_ret_iff.mp hpresent).1]; rfl
  | denied => cases hpresent
  | failed => cases hpresent

/-! ## The files of a creation -/

/-- The files of one function. -/
def vfFiles (sriovAdminPath debugfsPath : String) (attrs : AttrFromConfigFile) (lmem : UInt64)
    (vfNum : Nat) : List (String × String) :=
  let profile := sysfsVfProfileOf sriovAdminPath vfNum
  let vfPath := debugfsVfPathOf debugfsPath vfNum
  vfSchedFiles (if profile ≠ "" then profile else vfPath) attrs ++ vfResourceFiles vfPath attrs lmem

/-- The files of the physical function. -/
def pfFiles (sriovAdminPath debugfsPath : String) (attrs : AttrFromConfigFile) :
    List (String × String) :=
  let useSysfs : Bool := sriovAdminPath ≠ ""
  pfSchedFiles (if useSysfs then sriovAdminPath ++ "/pf/profile" else debugfsPath ++ "/gt0/pf") attrs
    useSysfs

/-- All files of a creation. -/
def createFiles (io : FileIo) (cardName bdfAddress : String) (attrs : AttrFromConfigFile)
    (numVfs : UInt32) (lmem : UInt64) : List (String × String) :=
  let sriovAdminPath := sriovAdminPathOf io cardName
  let debugfsPath := debugfsPathOf bdfAddress
  pfFiles sriovAdminPath debugfsPath attrs ++
    (vfNumbers numVfs.toNat).flatMap (vfFiles sriovAdminPath debugfsPath attrs lmem) ++
      deviceFiles (devicePathOf cardName) attrs numVfs

theorem writeVfAttr_eq (sriovAdminPath debugfsPath : String) (attrs : AttrFromConfigFile)
    (lmem : UInt64) (vfNum : Nat) :
    writeVfAttr io (sysfsVfProfileOf sriovAdminPath vfNum) (debugfsVfPathOf debugfsPath vfNum) attrs
      lmem = writeFiles io (vfFiles sriovAdminPath debugfsPath attrs lmem vfNum) := by
  rw [vfFiles, writeFiles_append]
  rfl

theorem writeVfAttrs_eq (sriovAdminPath debugfsPath : String) (attrs : AttrFromConfigFile)
    (lmem : UInt64) (vfNums : List Nat) : writeVfAttrs io sriovAdminPath debugfsPath attrs lmem vfNums =
      writeFiles io (vfNums.flatMap (vfFiles sriovAdminPath debugfsPath attrs lmem)) := by
  induction vfNums with
  | nil => rfl
  | cons vfNum vfNums ih => rw [writeVfAttrs, writeVfAttr_eq, ih, List.flatMap_cons, writeFiles_append]

/-- **The files of a creation** are written one after the other, if their number has an end. -/
theorem createVfInternal_eq {cardName bdfAddress : String} {attrs : AttrFromConfigFile}
    {numVfs : UInt32} {lmem : UInt64} (hend : numVfs.toNat + 1 ≠ UInt32.size) {path : String}
    (hpath : getSriovAdminPath io cardName s = (.ret path, t)) :
    createVfInternal io cardName bdfAddress attrs numVfs lmem s =
      (writeFiles io (createFiles io cardName bdfAddress attrs numVfs lmem) >>= fun ret =>
        pure (decide (ret = 0))) t := by
  rw [createVfInternal, Prog.bind_of_ret hpath]
  obtain rfl := getSriovAdminPath_ret hpath
  refine congrFun ?_ t
  rw [createFiles, writeFiles_append, writeFiles_append, writeVfAttrs_eq]
  change (Prog.chain 0 _ _ >>= _) = (Prog.chain 0 (Prog.chain 0 _ _) _ >>= _)
  simp only [Prog.chain, Prog.bind_assoc]
  refine congrArg (Bind.bind _) (funext fun _ => congrArg (Bind.bind _) (funext fun ret => ?_))
  by_cases hret : ret = 0
  · rw [if_neg (not_not_intro hret), if_neg hend, if_pos hret]
  · rw [if_pos hret, if_neg hret, Prog.pure_bind, decide_eq_false hret]

/-- What a successful creation leaves: it wrote all its files, which could all be opened. -/
theorem createVfInternal_files {cardName bdfAddress : String} {attrs : AttrFromConfigFile}
    {numVfs : UInt32} {lmem : UInt64}
    (h : createVfInternal io cardName bdfAddress attrs numVfs lmem s = (.ret true, t)) :
    ∃ u, Observes s u ∧
      t = (createFiles io cardName bdfAddress attrs numVfs lmem).foldl (FileState.write io) u := by
  obtain ⟨path, u, hpath, hrest⟩ := Prog.bind_eq_ret_iff.mp h
  have hsame := observes_getSriovAdminPath io cardName s
  rw [hpath] at hsame
  refine ⟨u, hsame, ?_⟩
  by_cases hend : numVfs.toNat + 1 = UInt32.size
  · -- a loop without an end does not succeed
    exfalso
    obtain ⟨ret, v, -, hrest⟩ := Prog.bind_eq_ret_iff.mp hrest
    by_cases hret : ret ≠ 0
    · rw [if_pos hret] at hrest
      cases (Prog.pure_eq_ret_iff.mp hrest).1
    · rw [if_neg hret, if_pos hend] at hrest
      obtain ⟨ret', w, -, hrest⟩ := Prog.bind_eq_ret_iff.mp hrest
      by_cases hret' : ret' ≠ 0
      · rw [if_pos hret'] at hrest
        cases (Prog.pure_eq_ret_iff.mp hrest).1
      · rw [if_neg hret'] at hrest
        cases hrest
  · rw [createVfInternal_eq hend hpath, Prog.bind_of_ret (writeFiles_apply _ u)] at h
    obtain ⟨hall, ht⟩ := Prog.pure_eq_ret_iff.mp h
    have hopens : ∀ file ∈ createFiles io cardName bdfAddress attrs numVfs lmem, Opens io file := by
      by_contra hnot
      rw [if_neg hnot] at hall
      cases hall
    rw [← ht, attempted_of_opens hopens]

/-- The size that is asked for, in bytes as the program computes it. -/
def DeviceSriovInfo.scaled (di : DeviceSriovInfo) : DeviceSriovInfo :=
  { di with vGpuMemorySize := di.vGpuMemorySize * oneMbInBytes }

/-- What a request must meet to be accepted. -/
structure VfRequest.Accepted (r : VfRequest) (di : DeviceSriovInfo) : Prop where
  number : numberRefused r.info di.vGpuNumber = false
  room : ¬r.free - r.spare < lmemToUse di.scaled r.attrs * di.vGpuNumber.toUInt64

/-- **A successful creation**: the request was accepted, and all files were written. -/
theorem linCreateVFs_success (h : linCreateVFs io pci di s = (.ret 0, t)) :
    ∃ r u, vfRequest io pci s.contents di = some r ∧ r.Accepted di ∧ Observes s u ∧
      t = (createFiles io (getCardNameFromDrmPath di.drmPath) di.bdfAddress r.attrs di.vGpuNumber
        (di.vGpuMemorySize * oneMbInBytes)).foldl (FileState.write io) u := by
  obtain ⟨data, s₁, hload, h⟩ := Prog.bind_eq_ret_iff.mp h
  have hsame := observes_loadSriovData io di.scaled s
  rw [show loadSriovData io di.scaled s = _ from hload] at hsame
  cases data with
  | none => cases (Prog.pure_eq_ret_iff.mp h).1
  | some data =>
  obtain ⟨spare, hspare, hfree, hnumber, hmemory, hecc, hbdf⟩ := loadSriovData_ret hload
  obtain ⟨numVfsString, s₂, hstring, h⟩ := Prog.bind_eq_ret_iff.mp h
  have hsame₂ := observes_readFile io (devicePathOf (getCardNameFromDrmPath di.drmPath) ++
    "/device" ++ "/sriov_numvfs") s₁
  rw [hstring] at hsame₂
  cases numVfsString with
  | none => cases (Prog.pure_eq_ret_iff.mp h).1
  | some numVfsString =>
  obtain ⟨numVfs, s₃, hnum, h⟩ := Prog.bind_eq_ret_iff.mp h
  obtain ⟨-, rfl⟩ := Prog.ofOption_eq_ret_iff.mp hnum
  by_cases hpos : numVfs > 0
  · rw [if_pos hpos] at h
    cases (Prog.pure_eq_ret_iff.mp h).1
  rw [if_neg hpos] at h
  cases hinfo : queryPciDeviceByBdf pci data.bdfAddress with
  | none =>
    rw [hinfo] at h
    cases h
  | some info =>
  rw [hinfo] at h
  dsimp only at h
  by_cases hrefused : numberRefused info data.vGpuNumber = true
  · rw [if_pos hrefused] at h
    cases (Prog.pure_eq_ret_iff.mp h).1
  rw [if_neg hrefused] at h
  obtain ⟨attrs, s₄, hattrs, h⟩ := Prog.bind_eq_ret_iff.mp h
  have hsame₃ := observes_readVfConfigFromFile io info.deviceId.toUInt32 data.vGpuNumber s₂
  rw [hattrs] at hsame₃
  cases attrs with
  | none => cases (Prog.pure_eq_ret_iff.mp h).1
  | some attrs =>
  obtain ⟨content, hcontent, hconfig⟩ := readVfConfigFromFile_ret hattrs
  dsimp only at h
  by_cases hzero : attrs.vfLmem = 0
  · rw [if_pos hzero] at h
    cases (Prog.pure_eq_ret_iff.mp h).1
  rw [if_neg hzero] at h
  by_cases hroom : data.lmemSizeFree < lmemToUse data attrs * data.vGpuNumber.toUInt64
  · rw [if_pos hroom] at h
    cases (Prog.pure_eq_ret_iff.mp h).1
  rw [if_neg hroom] at h
  obtain ⟨created, s₅, hcreated, h⟩ := Prog.bind_eq_ret_iff.mp h
  cases created with
  | false => cases (Prog.pure_eq_ret_iff.mp h).1
  | true =>
  obtain ⟨-, rfl⟩ := Prog.pure_eq_ret_iff.mp h
  obtain ⟨u, hsame₄, ht⟩ := createVfInternal_files hcreated
  rw [hbdf, hnumber, hmemory] at ht
  rw [hbdf] at hinfo
  rw [hnumber] at hrefused hconfig
  have huse : lmemToUse data attrs = lmemToUse di.scaled attrs := by
    rw [lmemToUse, lmemToUse, hmemory, hecc]
    rfl
  rw [hfree, huse, hnumber] at hroom
  have hobs : Observes s s₂ := IsTrans.trans _ _ _ hsame hsame₂
  rw [hobs.contents_eq] at hcontent
  refine ⟨⟨info, attrs, freeLmem io s.contents (debugfsPathOf di.bdfAddress), spare⟩, u, ?_,
    ⟨Bool.eq_false_iff.mpr hrefused, hroom⟩,
    IsTrans.trans _ _ _ (IsTrans.trans _ _ _ hobs hsame₃) hsame₄, ht⟩
  have hspare' : spareLmem io s.contents (debugfsPathOf di.bdfAddress) = some spare := hspare
  have hinfo' : queryPciDeviceByBdf pci di.bdfAddress = some info := hinfo
  have hconfig' : vfConfigOf content info.deviceId.toUInt32 di.vGpuNumber = some attrs := hconfig
  rw [vfRequest, hspare', hinfo', hcontent]
  simp only [Option.bind_eq_bind, Option.bind_some, hconfig']
  rfl

/-! ## The quotas -/

theorem mem_vfNumbers {n i : Nat} : i ∈ vfNumbers n ↔ 1 ≤ i ∧ i ≤ n := by
  rw [vfNumbers, List.mem_map]
  constructor
  · rintro ⟨k, hk, rfl⟩
    exact ⟨Nat.le_add_left 1 k, List.mem_range.mp hk⟩
  · rintro ⟨hpos, hle⟩
    exact ⟨i - 1, List.mem_range.mpr (by omega), by omega⟩

/-- The file of a function's memory quota. -/
def lmemQuotaPath (bdfAddress : String) (vfNum : Nat) : String :=
  debugfsVfPathOf (debugfsPathOf bdfAddress) vfNum ++ "/lmem_quota"

section Quota

variable {cardName bdfAddress : String} {attrs : AttrFromConfigFile} {numVfs : UInt32}
  {lmem : UInt64} {i : Nat}

/-- Each function's memory quota is among the files of a creation. -/
theorem lmemQuota_mem_createFiles (hpos : 1 ≤ i) (hle : i ≤ numVfs.toNat) :
    (lmemQuotaPath bdfAddress i, toString lmem.toNat) ∈
      createFiles io cardName bdfAddress attrs numVfs lmem := by
  refine List.mem_append_left _ (List.mem_append_right _ (List.mem_flatMap.mpr ⟨i, ?_, ?_⟩))
  · exact mem_vfNumbers.mpr ⟨hpos, hle⟩
  · exact List.mem_append_right _ List.mem_cons_self

/-- A file of another name is not a memory quota. -/
theorem ne_lmemQuotaPath {dir leaf : String} (hleaf : IsLeaf leaf) (hne : leaf ≠ "/lmem_quota") :
    dir ++ leaf ≠ lmemQuotaPath bdfAddress i :=
  fun h => hne (path_inj hleaf (by decide) h).2

/-- What is written to a memory quota. -/
theorem content_of_lmemQuota {content : String}
    (h : (lmemQuotaPath bdfAddress i, content) ∈
      createFiles io cardName bdfAddress attrs numVfs lmem) : content = toString lmem.toNat := by
  have hno {dir leaf c : String} (hleaf : IsLeaf leaf) (hne : leaf ≠ "/lmem_quota")
      (heq : (lmemQuotaPath bdfAddress i, content) = (dir ++ leaf, c)) :
      content = toString lmem.toNat :=
    absurd (Prod.mk.inj heq).1.symm (ne_lmemQuotaPath hleaf hne)
  rcases List.mem_append.mp h with h | h
  · rcases List.mem_append.mp h with h | h
    · rw [pfFiles, pfSchedFiles] at h
      rcases List.mem_cons.mp h with heq | h
      · exact hno (by decide) (by decide) heq
      rcases List.mem_cons.mp h with heq | h
      · exact hno (by decide) (by decide) heq
      have heq := List.mem_singleton.mp h
      split at heq
      · exact hno (by decide) (by decide) heq
      · exact hno (by decide) (by decide) heq
    · obtain ⟨j, -, h⟩ := List.mem_flatMap.mp h
      rcases List.mem_append.mp h with h | h
      · rcases List.mem_cons.mp h with heq | h
        · exact hno (by decide) (by decide) heq
        · exact hno (by decide) (by decide) (List.mem_singleton.mp h)
      · rcases List.mem_cons.mp h with heq | h
        · exact (Prod.mk.inj heq).2
        rcases List.mem_cons.mp h with heq | h
        · exact hno (by decide) (by decide) heq
        rcases List.mem_cons.mp h with heq | h
        · exact hno (by decide) (by decide) heq
        · exact hno (by decide) (by decide) (List.mem_singleton.mp h)
  · rcases List.mem_cons.mp h with heq | h
    · exact hno (by decide) (by decide) heq
    · exact hno (by decide) (by decide) (List.mem_singleton.mp h)

/-- What a run that wrote some files has in its trace of a file. -/
theorem written_mem_iff {contents : String → String} {u : FileState}
    (hobs : Observes ⟨contents, []⟩ u) (files : List (String × String)) {path content : String}
    {outcome : WriteOutcome} :
    FileEvent.written path content outcome ∈ (files.foldl (FileState.write io) u).trace ↔
      (path, content) ∈ files ∧ io.onWrite path content = outcome := by
  obtain ⟨events, htrace, hevents⟩ := hobs.trace_eq
  rw [trace_foldl_write, htrace, List.nil_append, List.mem_append, List.mem_map]
  constructor
  · rintro (h | ⟨file, hmem, heq⟩)
    · exact absurd rfl (hevents _ h path content outcome)
    · obtain ⟨rfl, rfl, rfl⟩ := FileEvent.written.inj heq
      exact ⟨hmem, rfl⟩
  · rintro ⟨hmem, rfl⟩
    exact .inr ⟨(path, content), hmem, rfl⟩

end Quota

/-! ## Enough memory for all -/

/-- The memory of each function: what is asked for, or what the configuration has if nothing is. -/
def vfSize (di : DeviceSriovInfo) (attrs : AttrFromConfigFile) : Nat :=
  if di.vGpuMemorySize = 0 then
    (if di.eccState = .enabled then attrs.vfLmemEcc else attrs.vfLmem).toNat
  else di.vGpuMemorySize.toNat * (1024 * 1024)

/-- What is promised of a creation that succeeded: there are not more functions than the device can
have, each was given its memory, and together they have not more than what is free and not spare. -/
structure Provisioned (di : DeviceSriovInfo) (r : VfRequest) (t : FileState) : Prop where
  total : di.vGpuNumber.toNat ≤ r.info.totalVFs.toNat
  written : ∀ i, 1 ≤ i → i ≤ di.vGpuNumber.toNat →
    FileEvent.written (lmemQuotaPath di.bdfAddress i) (toString (vfSize di r.attrs)) .taken ∈ t.trace
  fits : di.vGpuNumber.toNat * vfSize di r.attrs + r.spare.toNat ≤ r.free.toNat

/-- The condition for that: the device was found, no difference or product exceeds 64 bits, a size was
asked for, and no quota is refused. -/
structure Provisionable (io : FileIo) (di : DeviceSriovInfo) (r : VfRequest) : Prop where
  found : r.info.valid = true ∨ di.vGpuNumber = 0
  difference : r.spare ≤ r.free
  product : di.vGpuNumber.toNat * vfSize di r.attrs < UInt64.size
  asked : di.vGpuNumber = 0 ∨ di.vGpuMemorySize ≠ 0 ∨ vfSize di r.attrs = 0
  taken : ∀ i, 1 ≤ i → i ≤ di.vGpuNumber.toNat →
    io.onWrite (lmemQuotaPath di.bdfAddress i) (toString (vfSize di r.attrs)) = .taken

/-- A request that was found says of its device what the query says. -/
theorem vfRequest_info {contents : String → String} {r : VfRequest}
    (h : vfRequest io pci contents di = some r) :
    queryPciDeviceByBdf pci di.bdfAddress = some r.info := by
  obtain ⟨spare, -, h⟩ := Option.bind_eq_some_iff.mp h
  obtain ⟨info, hinfo, h⟩ := Option.bind_eq_some_iff.mp h
  obtain ⟨content, -, h⟩ := Option.bind_eq_some_iff.mp h
  obtain ⟨attrs, -, h⟩ := Option.bind_eq_some_iff.mp h
  obtain rfl := Option.some.inj h
  exact hinfo

/-- The number of functions is checked if the device was found. -/
theorem number_le_of_not_refused {info : PciDeviceInfo} {vGpuNumber : UInt32}
    (h : numberRefused info vGpuNumber = false) (hvalid : info.valid = true) :
    vGpuNumber.toNat ≤ info.totalVFs.toNat := by
  rw [numberRefused, hvalid, Bool.true_and, Bool.or_eq_false_iff] at h
  have hle := of_decide_eq_false h.2
  rw [UInt32.lt_iff_toNat_lt, UInt16.toNat_toUInt32] at hle
  exact Nat.le_of_not_lt hle

/-- The size in bytes does not exceed 64 bits if all functions together do not. -/
theorem toNat_scaled (hnumber : di.vGpuNumber ≠ 0) {attrs : AttrFromConfigFile}
    (hproduct : di.vGpuNumber.toNat * vfSize di attrs < UInt64.size)
    (hasked : di.vGpuMemorySize ≠ 0 ∨ vfSize di attrs = 0) :
    (di.vGpuMemorySize * oneMbInBytes).toNat = vfSize di attrs := by
  have hpos : 1 ≤ di.vGpuNumber.toNat := by
    refine Nat.one_le_iff_ne_zero.mpr fun hzero => hnumber ?_
    exact UInt32.toNat_inj.mp hzero
  have hsize : vfSize di attrs < UInt64.size :=
    Nat.lt_of_le_of_lt (Nat.le_mul_of_pos_left _ hpos) hproduct
  have hbytes : oneMbInBytes.toNat = 1024 * 1024 := rfl
  rw [UInt64.toNat_mul, hbytes]
  by_cases hzero : di.vGpuMemorySize = 0
  · rw [hasked.resolve_left (not_not_intro hzero), hzero, UInt64.toNat_zero, Nat.zero_mul,
      Nat.zero_mod]
  · rw [vfSize, if_neg hzero] at hsize ⊢
    exact Nat.mod_eq_of_lt hsize

/-- The size that is checked, if none of the sizes exceeds 64 bits. -/
theorem toNat_lmemToUse (hnumber : di.vGpuNumber ≠ 0) {attrs : AttrFromConfigFile}
    (hproduct : di.vGpuNumber.toNat * vfSize di attrs < UInt64.size)
    (hasked : di.vGpuMemorySize ≠ 0 ∨ vfSize di attrs = 0) :
    (lmemToUse di.scaled attrs).toNat = vfSize di attrs := by
  have hscaled := toNat_scaled hnumber hproduct hasked
  by_cases hzero : di.vGpuMemorySize = 0
  · have hnot : ¬di.vGpuMemorySize * oneMbInBytes > 0 := by
      rw [hzero, UInt64.zero_mul]
      exact UInt64.lt_irrefl 0
    rw [lmemToUse, DeviceSriovInfo.scaled, if_neg hnot, vfSize, if_pos hzero]
  · have hpos : di.vGpuMemorySize * oneMbInBytes > 0 := by
      have hne : di.vGpuMemorySize.toNat ≠ 0 := fun h => hzero (UInt64.toNat_inj.mp h)
      rw [gt_iff_lt, UInt64.lt_iff_toNat_lt, hscaled, vfSize, if_neg hzero, UInt64.toNat_zero]
      omega
    rw [lmemToUse, DeviceSriovInfo.scaled, if_pos hpos]
    exact hscaled

/-- **The memory of virtual functions.** A creation that succeeds did what is promised exactly under
the condition. -/
theorem linCreateVFs_provisions_iff (io : FileIo) (pci : PciAccess) (contents : String → String)
    (di : DeviceSriovInfo) {t : FileState} (h : linCreateVFs io pci di ⟨contents, []⟩ = (.ret 0, t)) :
    ∃ r, vfRequest io pci contents di = some r ∧ (Provisioned di r t ↔ Provisionable io di r) := by
  obtain ⟨r, u, hrequest, haccepted, hobs, ht⟩ := linCreateVFs_success h
  refine ⟨r, hrequest, fun hp => ?_, fun hp => ?_⟩
  · have hwritten (i : Nat) (hpos : 1 ≤ i) (hle : i ≤ di.vGpuNumber.toNat) := by
      have hmem := hp.written i hpos hle
      rw [ht] at hmem
      exact (written_mem_iff hobs _).mp hmem
    have hfits := hp.fits
    have hlt := r.free.toNat_lt
    refine ⟨?_, ?_, ?_, ?_, fun i hpos hle => (hwritten i hpos hle).2⟩
    · rcases valid_of_query (vfRequest_info hrequest) with hvalid | hinfo
      · exact .inl hvalid
      · right
        have htotal := hp.total
        rw [hinfo] at htotal
        exact UInt32.toNat_inj.mp (Nat.le_zero.mp htotal)
    · rw [UInt64.le_iff_toNat_le]
      omega
    · exact Nat.lt_of_le_of_lt (Nat.le_trans (Nat.le_add_right _ _) hfits) hlt
    · by_cases hnumber : di.vGpuNumber = 0
      · exact .inl hnumber
      · refine .inr (or_iff_not_imp_left.mpr fun hzero => ?_)
        have hpos : 1 ≤ di.vGpuNumber.toNat :=
          Nat.one_le_iff_ne_zero.mpr fun h => hnumber (UInt32.toNat_inj.mp h)
        have hcontent := content_of_lmemQuota (hwritten 1 (Nat.le_refl 1) hpos).1
        rw [not_not.mp hzero] at hcontent
        exact Numerals.toString_inj hcontent
  · by_cases hnumber : di.vGpuNumber = 0
    · refine ⟨?_, fun i hpos hle => ?_, ?_⟩
      · rw [hnumber]
        exact Nat.zero_le _
      · rw [hnumber] at hle
        exact absurd (Nat.le_trans hpos hle) (by decide)
      · have hle := UInt64.le_iff_toNat_le.mp hp.difference
        rw [hnumber]
        change 0 * _ + _ ≤ _
        omega
    · have hasked := hp.asked.resolve_left hnumber
      refine ⟨?_, fun i hpos hle => ?_, ?_⟩
      · exact number_le_of_not_refused haccepted.number (hp.found.resolve_right hnumber)
      · rw [ht, ← toNat_scaled hnumber hp.product hasked]
        refine (written_mem_iff hobs _).mpr ⟨lmemQuota_mem_createFiles hpos hle, ?_⟩
        rw [toNat_scaled hnumber hp.product hasked]
        exact hp.taken i hpos hle
      · have hroom := haccepted.room
        have hle := UInt64.le_iff_toNat_le.mp hp.difference
        rw [UInt64.lt_iff_toNat_lt, UInt64.toNat_sub_of_le _ _ hp.difference, UInt64.toNat_mul,
          toNat_lmemToUse hnumber hp.product hasked, UInt32.toNat_toUInt64, Nat.mul_comm,
          Nat.mod_eq_of_lt hp.product] at hroom
        omega

/-! ## A device with 100 MiB -/

def sampleFiles : List (String × String) :=
  [("/sys/kernel/debug/dri/0000:03:00.0/tile0/vram_mm", "visible_avail: 100"),
    ("vgpu.conf", "NAME=56c0DEF\nVF_LMEM=16777216\n"),
    ("/sys/kernel/debug/dri/0000:03:00.0/gt0/pf/lmem_spare", "1048576\n")]

/-- Every access succeeds. -/
def sampleIo : FileIo where
  onExists _ := .present
  onRead _ := .complete
  onWrite _ _ := .taken
  target path := path
  findResourceFile _ := "vgpu.conf"

/-- A device that can have two virtual functions. -/
def samplePci : PciAccess where
  pciInit := false
  systemInit := true
  findBySlot _ _ _ _ := some
    { probes := true
      deviceId := 0x56c0
      config := fun offset => some
        (if offset = 0x34 then 0x40 else if offset = 0x40 then 0x10 else if offset = 0x4e then 2 else 0) }

def sampleStart : FileState := ⟨fun path => (sampleFiles.lookup path).getD "0\n", []⟩

/-- Two virtual functions with some MiB each. -/
def sampleVfDevice (vGpuMemorySize : UInt64) : DeviceSriovInfo where
  vGpuNumber := 2
  vGpuMemorySize := vGpuMemorySize
  drmPath := "/dev/dri/card1"
  bdfAddress := "0000:03:00.0"

def sampleVfRequest : VfRequest where
  info :=
    { deviceId := 0x56c0
      valid := true
      isSriovCapable := true
      totalVFs := 2 }
  attrs := { vfLmem := 16777216 }
  free := 100 * oneMbInBytes
  spare := oneMbInBytes

/-- Two functions with 16 MiB each are given them. -/
theorem linCreateVFs_provisions_sample :
    ∃ t, linCreateVFs sampleIo samplePci (sampleVfDevice 16) sampleStart = (.ret 0, t) ∧
      Provisioned (sampleVfDevice 16) sampleVfRequest t := by
  have hret : (linCreateVFs sampleIo samplePci (sampleVfDevice 16) sampleStart).1 = .ret 0 := by
    decide +kernel
  have hrequest : vfRequest sampleIo samplePci sampleStart.contents (sampleVfDevice 16) =
      some sampleVfRequest := by
    decide +kernel
  obtain ⟨r, hr, hiff⟩ := linCreateVFs_provisions_iff sampleIo samplePci sampleStart.contents
    (sampleVfDevice 16) (Prog.eq_of_fst_eq hret)
  obtain rfl := Option.some.inj (hrequest.symm.trans hr)
  refine ⟨_, Prog.eq_of_fst_eq hret, hiff.mpr ⟨.inl rfl, ?_, ?_, .inr (.inl ?_), fun _ _ _ => rfl⟩⟩
  · decide
  · decide
  · decide

/-- Where no size is asked for, the size of the configuration is checked and 0 is written. -/
theorem linCreateVFs_writes_zero :
    ∃ t, linCreateVFs sampleIo samplePci (sampleVfDevice 0) sampleStart = (.ret 0, t) ∧
      vfRequest sampleIo samplePci sampleStart.contents (sampleVfDevice 0) = some sampleVfRequest ∧
        ¬Provisioned (sampleVfDevice 0) sampleVfRequest t := by
  have hret : (linCreateVFs sampleIo samplePci (sampleVfDevice 0) sampleStart).1 = .ret 0 := by
    decide +kernel
  refine ⟨_, Prog.eq_of_fst_eq hret, by decide +kernel, fun h => ?_⟩
  have hnot : FileEvent.written (lmemQuotaPath (sampleVfDevice 0).bdfAddress 1)
      (toString (vfSize (sampleVfDevice 0) sampleVfRequest.attrs)) .taken ∉
        (linCreateVFs sampleIo samplePci (sampleVfDevice 0) sampleStart).2.trace := by
    decide +kernel
  exact hnot (h.written 1 (by decide) (by decide))

end XpuManager
