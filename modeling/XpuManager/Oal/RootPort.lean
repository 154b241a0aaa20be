import XpuManager.Ial.Topology
import XpuManager.Oal.ColdReset

/-! # The walks to the root port

Three functions find the root port of a device in its path in sysfs: `findRootPortBdf` goes up from the
device, `getXeDevPciProps` (`oal/lin/lin.cpp`) goes along the link of the driver, and `getPciePaths`
(`oal/lin/topology.cpp`) keeps all from the root complex to the device. -/

namespace XpuManager

open Prog

/-! ## The walk along the link of the driver -/

/-- An entry in the directory of the driver. -/
structure DriverEntry where
  name : String
  isSymlink : Bool
  /-- The components of where the link leads, if it can be read. -/
  target : Option (List String)

/-- The first other address on the way, or that of the device itself. -/
def linkBdfOf (bdf : String) (targetPath : List String) : String :=
  (targetPath.find? fun name => isValidBdf name && name ≠ bdf).getD bdf

/-- A device of the driver, and the address that its link attributes are read from. -/
structure XeDevLink where
  bdf : String
  linkBdf : String
  deriving DecidableEq

def xeDevLink? (entry : DriverEntry) : Option XeDevLink :=
  if entry.isSymlink then
    match entry.target with
    | none => none
    | some targetPath =>
      if targetPath = [] then none
      else if isValidBdf entry.name then some ⟨entry.name, linkBdfOf entry.name targetPath⟩
      else none
  else none

/-- The address that the link attributes of a device are read from. -/
def getXeDevPciProps (entries : List DriverEntry) : List XeDevLink := entries.filterMap xeDevLink?

/-! ## The walk that keeps the bridges -/

/-- What the walk has seen. -/
structure SegmentWalk where
  rootComplexSeg : String := ""
  bridgeSegs : List String := []
  foundRoot : Bool := false

/-- One segment of a path. -/
def SegmentWalk.step (walk : SegmentWalk) (seg : String) : SegmentWalk :=
  if walk.foundRoot then { walk with bridgeSegs := walk.bridgeSegs ++ [seg] }
  else if "pci".toList.isPrefixOf seg.toList then
    { walk with foundRoot := true, rootComplexSeg := seg }
  else walk

/-- The path of one device, from the segments of its canonical path. -/
def pciePathOf (parts : List String) : Option PciePath :=
  let walk := parts.foldl SegmentWalk.step {}
  if walk.rootComplexSeg = "" then none
  else some (⟨walk.rootComplexSeg, true⟩ :: walk.bridgeSegs.dropLast.map fun seg => ⟨seg, false⟩)

/-- A turn of the loop over the devices. `canonical` is what the address of a device is resolved to,
from the root down; the first segment of a path is the root directory. -/
def recordPath (canonical : String → Option (List String)) (result : String → Option PciePath)
    (bdf : String) : String → Option PciePath :=
  match (canonical bdf).bind fun names => pciePathOf ("/" :: names) with
  | none => result
  | some path => Function.update result bdf (some path)

/-- The map of the paths. -/
def getPciePaths (canonical : String → Option (List String)) (bdfs : List String) :
    String → Option PciePath :=
  bdfs.foldl (recordPath canonical) fun _ => none

/-! ## Paths in sysfs -/

/-- A name `pciDDDD:BB`. -/
def IsRootComplex (name : String) : Prop :=
  ∃ d₀ d₁ d₂ d₃ b₀ b₁, name.toList = ['p', 'c', 'i', d₀, d₁, d₂, d₃, ':', b₀, b₁] ∧
    [d₀, d₁, d₂, d₃, b₀, b₁].all isHex = true

/-- A path `/sys/devices/pciDDDD:BB/b1/…/bk/dev`; no device is below itself. -/
structure SysfsPath where
  root : String
  rootPort : String
  bridges : List String
  dev : String
  root_isRootComplex : IsRootComplex root
  rootPort_isValid : isValidBdf rootPort = true
  bridges_isValid : ∀ bridge ∈ bridges, isValidBdf bridge = true
  dev_isValid : isValidBdf dev = true
  dev_not_mem : dev ∉ rootPort :: bridges

namespace SysfsPath

/-- The names from the root complex to the device. -/
def below (path : SysfsPath) : List String :=
  path.root :: path.rootPort :: path.bridges ++ [path.dev]

/-- The names of the canonical path. -/
def names (path : SysfsPath) : List String := "sys" :: "devices" :: path.below

/-- Where the link to the device in the directory of a driver leads. -/
def linkTarget (path : SysfsPath) : List String :=
  ".." :: ".." :: ".." :: ".." :: "devices" :: path.below

end SysfsPath

variable {path : SysfsPath} {name bdf : String}

/-- An address does not begin with `pci`. -/
theorem not_pci_of_isValidBdf (h : isValidBdf name = true) :
    "pci".toList.isPrefixOf name.toList = false := by
  unfold isValidBdf at h
  split at h
  case h_1 d₀ d₁ d₂ d₃ b₀ b₁ n₀ n₁ f heq =>
    rw [heq]
    have hd₀ : isHex d₀ = true := by
      simp only [List.all_cons, Bool.and_eq_true] at h
      exact h.1
    by_contra hprefix
    have hp : 'p' = d₀ := by
      simp only [Bool.not_eq_false] at hprefix
      exact (List.cons_prefix_cons.mp (List.isPrefixOf_iff_prefix.mp hprefix)).1
    rw [← hp] at hd₀
    exact absurd hd₀ (by decide)
  case h_2 => cases h

theorem IsRootComplex.pci (h : IsRootComplex name) :
    "pci".toList.isPrefixOf name.toList = true := by
  obtain ⟨d₀, d₁, d₂, d₃, b₀, b₁, hname, -⟩ := h
  rw [hname]
  rfl

theorem IsRootComplex.not_isValidBdf (h : IsRootComplex name) : isValidBdf name = false := by
  by_contra hvalid
  have hnot := not_pci_of_isValidBdf (Bool.not_eq_false _ |>.mp hvalid)
  rw [h.pci] at hnot
  cases hnot

theorem IsRootComplex.ne_empty (h : IsRootComplex name) : name ≠ "" := by
  rintro rfl
  obtain ⟨_, _, _, _, _, _, hname, -⟩ := h
  cases hname

/-! ## What the walks find -/

/-- The walk up leaves below the first name that begins with `pci`. -/
theorem walkUp_eq {names rest : List String} {rootPort root : String}
    (hroot : "pci".toList.isPrefixOf root.toList = true) (hport : isValidBdf rootPort = true)
    (hnames : ∀ name ∈ names, isValidBdf name = true) (candidate : Option String) :
    walkUp (names ++ rootPort :: root :: rest) candidate = some rootPort := by
  induction names generalizing candidate with
  | nil =>
    show (if "pci".toList.isPrefixOf root.toList then _ else _) = _
    rw [if_pos hroot]
  | cons name names ih =>
    have hparent : "pci".toList.isPrefixOf
        ((names ++ rootPort :: root :: rest).headD "").toList = false := by
      cases names with
      | nil => exact not_pci_of_isValidBdf hport
      | cons parent names =>
        exact not_pci_of_isValidBdf (hnames parent (List.mem_cons_of_mem _ List.mem_cons_self))
    rw [List.cons_append, walkUp, hparent, if_neg Bool.false_ne_true]
    exact ih (fun name hname => hnames name (List.mem_cons_of_mem _ hname)) _

/-- The port under the root. -/
theorem rootPortOf_eq {answers : ResetAnswers} (hpresent : answers.gpuPresent = true)
    (hcanonical : answers.canonical = some path.names) :
    rootPortOf answers path.dev = some path.rootPort := by
  have hreverse : path.names.reverse =
      (path.dev :: path.bridges.reverse) ++ path.rootPort :: path.root :: ["devices", "sys"] := by
    simp [SysfsPath.names, SysfsPath.below]
  have hvalid : ∀ name ∈ path.dev :: path.bridges.reverse, isValidBdf name = true :=
    List.forall_mem_cons.mpr ⟨path.dev_isValid,
      fun name hname => path.bridges_isValid name (List.mem_reverse.mp hname)⟩
  rw [rootPortOf, if_pos ⟨path.dev_isValid, hpresent⟩, hcanonical, Option.bind_some, hreverse]
  exact walkUp_eq path.root_isRootComplex.pci path.rootPort_isValid hvalid none

theorem findRootPortBdf_eq {answers : ResetAnswers} (hpresent : answers.gpuPresent = true)
    (hcanonical : answers.canonical = some path.names) (t : SysTrace) :
    (findRootPortBdf answers path.dev t).1 = .ret (some path.rootPort) := by
  obtain ⟨u, hrun, -⟩ := findRootPortBdf_apply answers path.dev t
  rw [hrun, rootPortOf_eq hpresent hcanonical]

/-- The root port is the first address on the way of the link. -/
theorem linkBdfOf_eq : linkBdfOf path.dev path.linkTarget = path.rootPort := by
  have hport : (isValidBdf path.rootPort && path.rootPort ≠ path.dev) = true := by
    rw [path.rootPort_isValid, Bool.true_and, decide_eq_true_eq]
    exact fun heq => path.dev_not_mem (heq ▸ List.mem_cons_self)
  have hup : (isValidBdf ".." && ".." ≠ path.dev) = false := rfl
  have hdevices : (isValidBdf "devices" && "devices" ≠ path.dev) = false := rfl
  have hroot : (isValidBdf path.root && path.root ≠ path.dev) = false := by
    rw [path.root_isRootComplex.not_isValidBdf, Bool.false_and]
  rw [linkBdfOf, SysfsPath.linkTarget, SysfsPath.below]
  simp only [List.cons_append, List.find?_cons, hup, hdevices, hroot, hport, Option.getD_some]

theorem xeDevLink?_eq {entry : DriverEntry} (hname : entry.name = path.dev)
    (hsymlink : entry.isSymlink = true) (htarget : entry.target = some path.linkTarget) :
    xeDevLink? entry = some ⟨path.dev, path.rootPort⟩ := by
  have hne : path.linkTarget ≠ [] := List.cons_ne_nil _ _
  have hvalid := path.dev_isValid
  rw [xeDevLink?, if_pos hsymlink, htarget]
  dsimp only
  rw [if_neg hne, hname, if_pos hvalid, linkBdfOf_eq]

/-- An entry that is listed has the name of its device. -/
theorem bdf_of_xeDevLink? {entry : DriverEntry} {link : XeDevLink} (h : xeDevLink? entry = some link) :
    link.bdf = entry.name := by
  unfold xeDevLink? at h
  split at h
  case isFalse => cases h
  case isTrue =>
  split at h
  case h_1 => cases h
  case h_2 =>
  split at h
  case isTrue => cases h
  case isFalse =>
  split at h
  case isFalse => cases h
  case isTrue =>
  obtain rfl := Option.some.inj h
  rfl

/-- After the root complex every segment is kept. -/
theorem foldl_step_of_foundRoot {walk : SegmentWalk} (h : walk.foundRoot = true) (segs : List String) :
    segs.foldl SegmentWalk.step walk = { walk with bridgeSegs := walk.bridgeSegs ++ segs } := by
  induction segs generalizing walk with
  | nil => rw [List.append_nil]; rfl
  | cons seg segs ih =>
    have hstep : walk.step seg = { walk with bridgeSegs := walk.bridgeSegs ++ [seg] } := by
      rw [SegmentWalk.step, if_pos h]
    have hfound : { walk with bridgeSegs := walk.bridgeSegs ++ [seg] : SegmentWalk }.foundRoot = true := h
    rw [List.foldl_cons, hstep, ih hfound, List.append_assoc]
    rfl

theorem pciePathOf_eq : pciePathOf ("/" :: path.names) =
    some (⟨path.root, true⟩ :: (path.rootPort :: path.bridges).map fun seg => ⟨seg, false⟩) := by
  have hfirst : SegmentWalk.step (SegmentWalk.step (SegmentWalk.step {} "/") "sys") "devices" = {} := rfl
  have hroot : SegmentWalk.step {} path.root =
      { rootComplexSeg := path.root, bridgeSegs := [], foundRoot := true } := by
    rw [SegmentWalk.step, if_neg Bool.false_ne_true, if_pos path.root_isRootComplex.pci]
  have hwalk : ("/" :: path.names).foldl SegmentWalk.step {} =
      { rootComplexSeg := path.root, bridgeSegs := path.rootPort :: path.bridges ++ [path.dev],
        foundRoot := true } := by
    rw [SysfsPath.names, SysfsPath.below, List.foldl_cons, List.foldl_cons, List.foldl_cons, hfirst,
      List.cons_append, List.foldl_cons, hroot, foldl_step_of_foundRoot rfl]
    rfl
  rw [pciePathOf, hwalk]
  dsimp only
  rw [if_neg path.root_isRootComplex.ne_empty, List.dropLast_concat]

theorem recordPath_of_ne {canonical : String → Option (List String)}
    {result : String → Option PciePath} {other : String} (h : bdf ≠ other) :
    recordPath canonical result other bdf = result bdf := by
  rw [recordPath]
  cases (canonical other).bind fun names => pciePathOf ("/" :: names) with
  | none => rfl
  | some path => exact Function.update_of_ne h _ _

/-- Once a device is in the map it stays there, as its path is the same each time. -/
theorem foldl_recordPath {canonical : String → Option (List String)} {pciePath : PciePath}
    (hpath : ((canonical bdf).bind fun names => pciePathOf ("/" :: names)) = some pciePath)
    {bdfs : List String} {result : String → Option PciePath}
    (h : bdf ∈ bdfs ∨ result bdf = some pciePath) :
    bdfs.foldl (recordPath canonical) result bdf = some pciePath := by
  induction bdfs generalizing result with
  | nil => exact h.resolve_left List.not_mem_nil
  | cons first bdfs ih =>
    rw [List.foldl_cons]
    refine ih ?_
    by_cases hfirst : bdf = first
    · subst hfirst
      right
      rw [recordPath, hpath]
      exact Function.update_self _ _ _
    · rw [recordPath_of_ne hfirst]
      exact h.imp (fun hmem => (List.mem_cons.mp hmem).resolve_left hfirst) id

/-- **The walks agree**: the way up from a device, the link of its driver and its canonical path lead to
one root port. -/
theorem rootPortWalks_agree (path : SysfsPath) (answers : ResetAnswers) (entries : List DriverEntry)
    (canonical : String → Option (List String)) (bdfs : List String)
    (hpresent : answers.gpuPresent = true) (hanswers : answers.canonical = some path.names)
    (hentries : ∃ entry ∈ entries, entry.name = path.dev)
    (hlink : ∀ entry ∈ entries, entry.name = path.dev →
      entry.isSymlink = true ∧ entry.target = some path.linkTarget)
    (hcanonical : canonical path.dev = some path.names) (hbdfs : path.dev ∈ bdfs) :
    (∀ t, (findRootPortBdf answers path.dev t).1 = .ret (some path.rootPort)) ∧
      ⟨path.dev, path.rootPort⟩ ∈ getXeDevPciProps entries ∧
      (∀ link ∈ getXeDevPciProps entries, link.bdf = path.dev → link.linkBdf = path.rootPort) ∧
      getPciePaths canonical bdfs path.dev =
        some (⟨path.root, true⟩ :: (path.rootPort :: path.bridges).map fun seg => ⟨seg, false⟩) := by
  refine ⟨findRootPortBdf_eq hpresent hanswers, ?_, ?_, ?_⟩
  · obtain ⟨entry, hmem, hname⟩ := hentries
    obtain ⟨hsymlink, htarget⟩ := hlink entry hmem hname
    exact List.mem_filterMap.mpr ⟨entry, hmem, xeDevLink?_eq hname hsymlink htarget⟩
  · intro link hmem hbdf
    obtain ⟨entry, hentry, hsome⟩ := List.mem_filterMap.mp hmem
    have hname : entry.name = path.dev := (bdf_of_xeDevLink? hsome).symm.trans hbdf
    obtain ⟨hsymlink, htarget⟩ := hlink entry hentry hname
    obtain rfl := Option.some.inj ((xeDevLink?_eq hname hsymlink htarget).symm.trans hsome)
    rfl
  · refine foldl_recordPath ?_ (.inl hbdfs)
    rw [hcanonical, Option.bind_some, pciePathOf_eq]

/-- A device behind a switch. -/
def samplePath : SysfsPath where
  root := "pci0000:4c"
  rootPort := "0000:4c:01.0"
  bridges := ["0000:4d:00.0", "0000:4e:01.0"]
  dev := "0000:4f:00.0"
  root_isRootComplex := ⟨'0', '0', '0', '0', '4', 'c', rfl, rfl⟩
  rootPort_isValid := rfl
  bridges_isValid := by decide
  dev_isValid := rfl
  dev_not_mem := by decide

/-- The answers to a reset of the device. -/
def samplePathAnswers : ResetAnswers :=
  { notConfirmedAnswers with canonical := some samplePath.names }

theorem samplePath_rootPort :
    rootPortOf samplePathAnswers samplePath.dev = some samplePath.rootPort :=
  rootPortOf_eq rfl rfl

/-- The directory of the driver. -/
def sampleEntries : List DriverEntry :=
  [⟨"bind", false, none⟩, ⟨"0000:4f:00.0", true, some samplePath.linkTarget⟩]

theorem rootPortWalks_agree_sample :
    (∀ t, (findRootPortBdf samplePathAnswers "0000:4f:00.0" t).1 = .ret (some "0000:4c:01.0")) ∧
    ⟨"0000:4f:00.0", "0000:4c:01.0"⟩ ∈ getXeDevPciProps sampleEntries ∧
    (∀ link ∈ getXeDevPciProps sampleEntries, link.bdf = "0000:4f:00.0" →
      link.linkBdf = "0000:4c:01.0") ∧
    getPciePaths (fun _ => some samplePath.names) ["0000:4f:00.0"] "0000:4f:00.0" =
      some [⟨"pci0000:4c", true⟩, ⟨"0000:4c:01.0", false⟩, ⟨"0000:4d:00.0", false⟩,
        ⟨"0000:4e:01.0", false⟩] :=
  rootPortWalks_agree samplePath samplePathAnswers sampleEntries (fun _ => some samplePath.names)
    ["0000:4f:00.0"] rfl rfl ⟨_, List.mem_cons_of_mem _ (List.mem_singleton_self _), rfl⟩
    (List.forall_mem_cons.mpr ⟨by decide, List.forall_mem_singleton.mpr fun _ => ⟨rfl, rfl⟩⟩) rfl
    (List.mem_singleton_self _)

end XpuManager
